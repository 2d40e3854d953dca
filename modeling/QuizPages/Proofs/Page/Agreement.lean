import Mathlib.Data.List.Forall2
import QuizPages.Page.Listing
import QuizPages.Page.Rendering
import QuizPages.Proofs.Document.Transcript
import QuizPages.Proofs.Page.LineOrder

/-!
# What is told about the blocks of a page

The list of quizzes, the report on a rendered page, the log and the check of a page each go through
the blocks on their own. What they tell about a block is what became of it when the body was
rendered: `consumersAgree`.
-/

namespace QuizPages

open Document

/-- The outcome with its reason, if a block was left in place. -/
def Outcome.failure? (o : Outcome) : Option (Outcome × FormatError) :=
  match o.result with
  | .ok _ => none
  | .error e => some (o, e)

theorem Rendered.failures_eq (r : Rendered) : r.failures = r.outcomes.filterMap Outcome.failure? :=
  rfl

/-- What a message about a skipped block starts with. -/
def skipped (sequence : Nat) : Text := "quiz " ++ Text.ofNat sequence ++ " skipped: "

/-- The item with its messages telling which block was skipped. -/
def Item.skippedAt (i : Item) (sequence : Nat) : Item :=
  { i with faults := i.faults.map fun f => { f with message := skipped sequence ++ f.message } }

namespace Page

/-- The error item for a block that was left in place. -/
def failureReport (p : Page) (o : Outcome) (e : FormatError) (message : Text) : Item :=
  { Item.ofFault .error ⟨e.code, message⟩ with
    path := some p.path
    range := some ⟨o.startLine + p.lineOffset, o.endLine + p.lineOffset⟩ }

/-- The issue of a block that was left in place. -/
def failureIssue (p : Page) (o : Outcome) (e : FormatError) : Issue :=
  ⟨.error, ⟨e.code, e.message⟩, p.path, o.startLine + p.lineOffset⟩

/-- The log record on a block that was left in place. -/
def failureRecord (p : Page) (o : Outcome) (e : FormatError) : Record :=
  ⟨.page, .error, "Failed to process quiz " ++ Text.ofNat o.sequence ++ " in " ++ p.path
    ++ " (line " ++ Text.ofNat (o.startLine + p.lineOffset).toNat ++ "): " ++ e.message⟩

/-- The item tells about a block what became of it. -/
structure Tells (p : Page) (x : Piece) (i : Item) : Prop where
  path : i.path = some p.path
  range : i.range = some
    ⟨x.outcome.startLine + p.lineOffset, x.outcome.endLine + p.lineOffset⟩
  kind : i.kind = .quiz ↔ ∃ id, x.outcome.result = .ok id
  /-- The item of a quiz counts the answers of the quiz that was rendered under its number. -/
  quiz : ∀ id, x.outcome.result = .ok id →
    ∃ q, Quiz.parse x.block.body = .ok q ∧ x.output = q.html id ∧
      i.data = some (.obj [("answers", .int q.answers.length), ("correct", .int q.correctCount),
        ("index", .int id), ("multi_select", .bool q.multiSelect),
        ("sequence", .int x.outcome.sequence)])
  failure : ∀ e, x.outcome.result = .error e → i = p.failureReport x.outcome e e.message

/-! ## The list -/

theorem itemsFrom_cons_of_ok (p : Page) {b : Block} {q : Quiz} (h : Quiz.parse b.body = .ok q)
    (id sequence : Nat) (later : List Block) :
    p.itemsFrom id sequence (b :: later) =
      p.quizItem b q id sequence :: p.itemsFrom (id + 1) (sequence + 1) later := by
  rw [itemsFrom, h]

theorem itemsFrom_cons_of_error (p : Page) {b : Block} {e : FormatError}
    (h : Quiz.parse b.body = .error e) (id sequence : Nat) (later : List Block) :
    p.itemsFrom id sequence (b :: later) =
      p.brokenItem b e :: p.itemsFrom id (sequence + 1) later := by
  rw [itemsFrom, h]

theorem tells_quizItem (p : Page) (gap : Text) {b : Block} {q : Quiz}
    (h : Quiz.parse b.body = .ok q) (id sequence : Nat) :
    p.Tells (pieceOf id sequence (gap, b)) (p.quizItem b q id sequence) := by
  have result : (outcomeOf id sequence b).result = .ok id := by
    rw [outcomeOf, h]
    rfl
  refine ⟨rfl, rfl, ⟨fun _ => ⟨id, result⟩, fun _ => rfl⟩, ?_, ?_⟩
  · intro id' rendered
    obtain rfl : id = id' := Except.ok.inj (result.symm.trans rendered)
    refine ⟨q, h, ?_, rfl⟩
    simp [pieceOf, fragment, h]
  · intro e failed
    cases result.symm.trans failed

theorem tells_brokenItem (p : Page) (gap : Text) {b : Block} {e : FormatError}
    (h : Quiz.parse b.body = .error e) (id sequence : Nat) :
    p.Tells (pieceOf id sequence (gap, b)) (p.brokenItem b e) := by
  have result : (outcomeOf id sequence b).result = .error e := by
    rw [outcomeOf, h]
    rfl
  refine ⟨rfl, rfl, ?_, ?_, ?_⟩
  · simp [pieceOf, result, brokenItem, Item.ofFault]
  · simp [pieceOf, result]
  · intro e' failed
    obtain rfl : e = e' := Except.error.inj (result.symm.trans failed)
    rfl

/-- What the list tells about each block is what rendering makes of it. -/
theorem forall₂_tells (p : Page) (id sequence : Nat) (parts : List (Text × Block)) :
    List.Forall₂ p.Tells (piecesFrom id sequence parts)
      (p.itemsFrom id sequence (parts.map Prod.snd)) := by
  induction parts generalizing id sequence with
  | nil => exact .nil
  | cons part later ih =>
    obtain ⟨gap, b⟩ := part
    rcases parsed : Quiz.parse b.body with e | q
    · rw [List.map_cons, p.itemsFrom_cons_of_error parsed, piecesFrom, quizzesIn_of_error parsed]
      exact .cons (p.tells_brokenItem gap parsed id sequence) (ih id (sequence + 1))
    · rw [List.map_cons, p.itemsFrom_cons_of_ok parsed, piecesFrom, quizzesIn_of_ok parsed]
      exact .cons (p.tells_quizItem gap parsed id sequence) (ih (id + 1) (sequence + 1))

/-! ## Failures -/

/-- The error items of the list, each with its place, are those of the failed outcomes. -/
theorem itemsFrom_filter_isError (p : Page) (id sequence : Nat) (blocks : List Block) :
    ((p.itemsFrom id sequence blocks).zipIdx sequence).filter (·.1.isError) =
      ((outcomesFrom id sequence blocks).filterMap Outcome.failure?).map fun (o, e) =>
        (p.failureReport o e e.message, o.sequence) := by
  induction blocks generalizing id sequence with
  | nil => rfl
  | cons b later ih =>
    rcases parsed : Quiz.parse b.body with e | q
    · rw [p.itemsFrom_cons_of_error parsed, outcomesFrom_cons_of_error parsed, List.zipIdx_cons,
        List.filter_cons_of_pos rfl, ih]
      rfl
    · rw [p.itemsFrom_cons_of_ok parsed, outcomesFrom_cons_of_ok parsed, List.zipIdx_cons,
        List.filter_cons_of_neg Bool.false_ne_true, ih]
      rfl

theorem list_filter_isError (p : Page) :
    p.list.zipIdx.filter (·.1.isError) =
      (Document.render p.body).failures.map fun (o, e) =>
        (p.failureReport o e e.message, o.sequence) := by
  rw [Rendered.failures_eq, render_outcomes]
  exact p.itemsFrom_filter_isError 0 0 (Block.all p.body)

/-- The issues of blocks are those of the failed outcomes. -/
theorem filterMap_blockIssue? (p : Page) (id sequence : Nat) (blocks : List Block) :
    blocks.filterMap p.blockIssue? =
      ((outcomesFrom id sequence blocks).filterMap Outcome.failure?).map fun (o, e) =>
        p.failureIssue o e := by
  induction blocks generalizing id sequence with
  | nil => rfl
  | cons b later ih =>
    rcases parsed : Quiz.parse b.body with e | q
    · rw [outcomesFrom_cons_of_error parsed, List.filterMap_cons, blockIssue?,
        Quiz.fault?_of_error parsed, ih id (sequence + 1)]
      rfl
    · rw [outcomesFrom_cons_of_ok parsed, List.filterMap_cons, blockIssue?,
        Quiz.fault?_of_ok parsed, ih (id + 1) (sequence + 1)]
      rfl

theorem blockIssues_eq_failures (p : Page) :
    p.blockIssues = (Document.render p.body).failures.map fun (o, e) => p.failureIssue o e := by
  rw [blockIssues_eq, Rendered.failures_eq, render_outcomes]
  exact p.filterMap_blockIssue? 0 0 (Block.all p.body)

theorem renderedBody_of_enabled {p : Page} (enabled : p.disabled = false) :
    p.renderedBody = Document.render p.body := by
  rw [renderedBody, enabled, if_neg Bool.false_ne_true]

/-- The error items of a rendered page are those of the failed outcomes. -/
theorem render_filter_isError {p : Page} (enabled : p.disabled = false)
    (assets : Option Assets) :
    (p.render assets).items.filter Item.isError =
      (Document.render p.body).failures.map fun (o, e) =>
        p.failureReport o e (skipped o.sequence ++ e.message) := by
  rw [render, renderedBody_of_enabled enabled, List.filter_cons_of_neg Bool.false_ne_true,
    List.filter_eq_self.2]
  · rfl
  · intro i hi
    obtain ⟨⟨o, e⟩, -, rfl⟩ := List.mem_map.1 hi
    rfl

/-- The error records of a rendered page are those of the failed outcomes. -/
theorem records_filter_error {p : Page} (enabled : p.disabled = false) :
    p.records.filter (·.level = .error) =
      (Document.render p.body).failures.map fun (o, e) => p.failureRecord o e := by
  have reading : p.readingRecords.filter (·.level = .error) = [] := by
    rw [readingRecords]
    split <;> rfl
  rw [records, List.filter_append, reading, List.nil_append, renderingRecords, enabled,
    if_neg Bool.false_ne_true, renderedBody_of_enabled enabled, List.filter_append,
    List.filter_eq_self.2]
  · exact List.append_nil _
  · intro record hr
    obtain ⟨⟨o, e⟩, -, rfl⟩ := List.mem_map.1 hr
    rfl

/-! ## Agreement -/

/-- The list, the report, the log and the check of a page tell the same about its blocks. -/
structure ConsumersAgree (p : Page) : Prop where
  /-- The list has one item for each block, in order, which tells what became of it. -/
  listed : ∃ xs tail, Transcript p.body xs tail ∧
    xs.map (·.outcome.sequence) = List.range xs.length ∧ List.Forall₂ p.Tells xs p.list
  /-- Its error items are the blocks that were left in place, each at the number of its block. -/
  listErrors : p.list.zipIdx.filter (·.1.isError) =
    (Document.render p.body).failures.map fun (o, e) =>
      (p.failureReport o e e.message, o.sequence)
  /-- The report on the rendered page has the error items of the list, which block was skipped
  being said in front of the message. -/
  renderErrors : p.disabled = false → ∀ assets,
    (p.render assets).items.filter Item.isError =
      (p.list.zipIdx.filter (·.1.isError)).map fun x => x.1.skippedAt x.2
  /-- The log has an error for each block that was left in place. -/
  logErrors : p.disabled = false →
    p.records.filter (·.level = .error) =
      (Document.render p.body).failures.map fun (o, e) => p.failureRecord o e
  /-- The check has an issue for each block that was left in place, by line. -/
  issues : p.disabled = false →
    p.lint.filter isFormat =
      ((Document.render p.body).failures.map fun (o, e) => p.failureIssue o e).mergeSort byLine
  /-- That is the order of the blocks, if line numbers do not wrap around. On pages that are read
  they do not (`numbersFit_of_reading`). -/
  issuesInOrder : p.disabled = false → p.NumbersFit →
    p.lint.filter isFormat =
      (Document.render p.body).failures.map fun (o, e) => p.failureIssue o e

/-- **Agreement**: whatever is told about the blocks of a page is what became of them. -/
theorem consumersAgree (p : Page) : ConsumersAgree p where
  listed := by
    obtain ⟨parts, tail, cover, found⟩ := Block.exists_cover_all p.body
    refine ⟨piecesFrom 0 0 parts, tail, transcript_of_cover cover, ?_, ?_⟩
    · rw [piecesFrom_map_sequence, length_piecesFrom, List.range_eq_range']
    · rw [list, ← found]
      exact p.forall₂_tells 0 0 parts
  listErrors := p.list_filter_isError
  renderErrors enabled assets := by
    rw [render_filter_isError enabled, list_filter_isError, List.map_map]
    rfl
  logErrors enabled := records_filter_error enabled
  issues enabled := by rw [lint_filter enabled, blockIssues_eq_failures]
  issuesInOrder enabled fits := by
    rw [lint_filter_of_numbersFit enabled fits, blockIssues_eq_failures]

/-- A page with a stray end marker, a block that stays and a quiz, in this order. -/
def mixedPage : Page where
  path := "page.md"
  metadata := none
  frontMatter := "---\ntitle: [\n---\n"
  body := "<?/quiz?>\n<?quiz?>\n<?/quiz?>\n<?quiz?>\nquestion: q\ncontent:\n<?/quiz?>\n"

theorem consumersAgree_mixedPage :
    mixedPage.disabled = false ∧ mixedPage.NumbersFit ∧
    mixedPage.list.map (·.kind) = [.error, .quiz] ∧
    (mixedPage.render none).items.filter Item.isError =
      (mixedPage.list.zipIdx.filter (·.1.isError)).map (fun x => x.1.skippedAt x.2) ∧
    mixedPage.lint.filter isFormat =
      (Document.render mixedPage.body).failures.map (fun (o, e) => mixedPage.failureIssue o e) := by
  have agree := consumersAgree mixedPage
  have enabled : mixedPage.disabled = false := by decide +kernel
  have fits : mixedPage.NumbersFit := by
    unfold NumbersFit
    decide +kernel
  exact ⟨enabled, fits, by decide +kernel, agree.renderErrors enabled none,
    agree.issuesInOrder enabled fits⟩

end Page
end QuizPages
