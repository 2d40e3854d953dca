import QuizPages.Proofs.Page.Clean
import QuizPages.Proofs.Page.FrontMatter
import QuizPages.Proofs.Page.Spots

/-!
# The lines of a report

Lines are counted in the body of a page and then moved behind the front matter. Whatever is reported is at
the line of a marker of the body: the range of a block goes from its start marker to its end marker
(`Page.rangeOf_eq`), and an issue is at the marker that it is about (`Page.exists_about_of_mem`). Where the
lines of the page have numbers of 32 bits, that is the line of the marker in the whole text: `linesTold`.
-/

namespace QuizPages

open Marker

theorem Text.feedsBefore_le (t : Text) (offset : Nat) : t.feedsBefore offset ≤ t.feeds := by
  induction t generalizing offset with
  | nil => exact Nat.zero_le _
  | cons c cs ih =>
    have later := ih (offset - c.utf8Size)
    unfold feedsBefore
    unfold feeds at later ⊢
    rw [List.count_cons]
    split
    · exact Nat.zero_le _
    · simp only [beq_iff_eq]
      omega

namespace Block

/-! ## The markers of a block -/

variable {document : Text} {b : Block}

theorem opening_mem (h : b ∈ all document) : b.opening ∈ occurrences document := by
  apply opened_subset
  rw [(sectioned_all document).opened_eq]
  exact List.mem_append_left _ (List.mem_map_of_mem h)

theorem closing_mem (h : b ∈ all document) : b.closing ∈ occurrences document := by
  apply closed_subset
  rw [(sectioned_all document).closed_eq]
  exact List.mem_map_of_mem h

/-- The lines of a block are those of its markers. -/
theorem lines_eq (h : b ∈ all document) :
    b.startLine = Text.lineAt document b.opening.offset ∧
      b.endLine = Text.lineAt document b.closing.offset := by
  obtain ⟨parts, tail, cover, found⟩ := exists_cover_all document
  rw [← found] at h
  obtain ⟨part, mem, rfl⟩ := List.mem_map.1 h
  obtain ⟨left, right, whole, -, placed⟩ := cover.exists_placed_of_mem mem
  rw [List.nil_append] at whole
  constructor
  · have start : part.2.opening.offset = left.size := placed.start
    rw [← UInt32.toNat_inj, placed.startLine, start, whole, toNat_lineAt]
  · have stop : part.2.closing.offset = (left ++ (Marker.start.text ++ part.2.body)).size := by
      rw [closing, placed.start, Text.size_append left]
    have split : document = left ++ (Marker.start.text ++ part.2.body) ++ (Marker.stop.text ++ right) := by
      rw [whole, raw]
      simp
    rw [← UInt32.toNat_inj, placed.endLine, stop, split, toNat_lineAt]

end Block

namespace Page

variable {p : Page}

/-! ## Lines of the page -/

/-- Lines that are moved behind the front matter still have numbers of 32 bits. -/
theorem lineAt_add_lineOffset_lt (fits : p.NumbersFit) (offset : Nat) :
    (Text.lineAt p.body offset).toNat + p.lineOffset.toNat < UInt32.size := by
  have size : UInt32.size = 2 ^ 32 := rfl
  have before := p.body.feedsBefore_le offset
  unfold NumbersFit at fits
  rw [Text.lineAt, UInt32.toNat_add, lineOffset, UInt32.toNat_ofNat', UInt32.toNat_ofNat', UInt32.toNat_one]
  omega

/-! ## What is reported -/

/-- The lines of a block within the page are those of its markers. -/
theorem rangeOf_eq (p : Page) {b : Block} (h : b ∈ Block.all p.body) :
    p.rangeOf b = ⟨p.lineOf b.opening, p.lineOf b.closing⟩ := by
  obtain ⟨first, last⟩ := Block.lines_eq h
  rw [rangeOf, first, last]
  rfl

/-- The list tells where each block is. -/
theorem itemsFrom_map_place (p : Page) (id sequence : Nat) (blocks : List Block) :
    (p.itemsFrom id sequence blocks).map (fun i => (i.path, i.range)) =
      blocks.map fun b => (some p.path, some (p.rangeOf b)) := by
  induction blocks generalizing id sequence with
  | nil => rfl
  | cons b later ih =>
    rcases parsed : Quiz.parse b.body with e | q
    · rw [p.itemsFrom_cons_of_error parsed, List.map_cons, ih]
      rfl
    · rw [p.itemsFrom_cons_of_ok parsed, List.map_cons, ih]
      rfl

theorem forall₂_range (p : Page) (id sequence : Nat) (blocks : List Block) :
    List.Forall₂ (fun b i => i.range = some (p.rangeOf b)) blocks (p.itemsFrom id sequence blocks) := by
  have places := p.itemsFrom_map_place id sequence blocks
  rw [← List.forall₂_eq_eq_eq, List.forall₂_map_left_iff, List.forall₂_map_right_iff] at places
  exact places.flip.imp fun b i same => (Prod.mk.inj same).2

/-- The blocks that rendering leaves in place because they hold no quiz. -/
def broken (p : Page) : List Block :=
  if p.disabled then [] else (Block.all p.body).filter fun b => Quiz.fails b.body

/-- Whether an item tells where a block is and why it holds no quiz. -/
structure Blames (p : Page) (b : Block) (i : Item) : Prop where
  range : i.range = some (p.rangeOf b)
  reason : ∃ e, Quiz.parse b.body = .error e ∧ i.faults.map (·.code) = [e.code]

theorem forall₂_blames (p : Page) (id sequence : Nat) (blocks : List Block) :
    List.Forall₂ p.Blames (blocks.filter fun b => Quiz.fails b.body)
      (((Document.outcomesFrom id sequence blocks).filterMap Outcome.failure?).map fun (o, e) =>
        p.failureReport o e (skipped o.sequence ++ e.message)) := by
  induction blocks generalizing id sequence with
  | nil => exact .nil
  | cons b later ih =>
    rcases parsed : Quiz.parse b.body with e | q
    · rw [Document.outcomesFrom_cons_of_error parsed, List.filter_cons,
        if_pos (Quiz.fails_of_error parsed)]
      exact .cons ⟨rfl, e, parsed, rfl⟩ (ih id (sequence + 1))
    · rw [Document.outcomesFrom_cons_of_ok parsed, List.filter_cons, Quiz.fails_of_ok parsed,
        if_neg Bool.false_ne_true]
      exact ih (id + 1) (sequence + 1)

/-- The report on a rendered page tells about each block that was left in place, in order. -/
theorem forall₂_broken (p : Page) (assets : Option Assets) :
    List.Forall₂ p.Blames p.broken ((p.render assets).items.filter Item.isError) := by
  rcases asks : p.disabled with - | -
  · rw [broken, asks, if_neg Bool.false_ne_true, render_filter_isError asks, Rendered.failures_eq,
      Document.render_outcomes]
    exact p.forall₂_blames 0 0 (Block.all p.body)
  · rw [broken, asks, if_pos rfl, render_filter_isError_of_disabled asks]
    exact .nil

/-- The marker that an issue is about. -/
inductive About (p : Page) (i : Issue) : Occurrence → Prop
  /-- The start marker of a block that holds no quiz. -/
  | block {b : Block} {e : FormatError} (found : b ∈ Block.all p.body)
      (failed : Quiz.parse b.body = .error e) (fault : i.fault = ⟨e.code, e.message⟩) :
      About p i b.opening
  /-- An end marker outside the blocks. -/
  | unmatched {o : Occurrence} (outside : outside (Block.all p.body) o = true)
      (fault : i.fault = Issue.unmatched) : About p i o
  /-- A start marker inside what another one opened, whose line the message tells. -/
  | nested {o outer : Occurrence} (starts : o.marker = .start)
      (inside : outer? (Block.all p.body) (looseIn p.body) o = some outer)
      (opens : outer ∈ occurrences p.body)
      (fault : i.fault = Issue.nested (p.lineOf outer)) : About p i o
  /-- The start marker that is never closed. -/
  | unterminated {u : Occurrence} (loose : looseIn p.body = some u)
      (fault : i.fault = Issue.unterminated) : About p i u

theorem loose_mem {u : Occurrence} (loose : looseIn p.body = some u) : u ∈ occurrences p.body := by
  apply opened_subset
  rw [(sectioned_all p.body).opened_eq, loose]
  exact List.mem_append_right _ List.mem_cons_self

/-- What a marker is nested in is a marker of the body. -/
theorem outer_mem {o outer : Occurrence}
    (inside : outer? (Block.all p.body) (looseIn p.body) o = some outer) :
    outer ∈ occurrences p.body := by
  rcases Option.or_eq_some_iff.1 inside with block | ⟨-, loose⟩
  · obtain ⟨b, found, rfl⟩ := Option.map_eq_some_iff.1 block
    exact Block.opening_mem (List.mem_of_find?_eq_some found)
  · exact loose_mem (Option.filter_eq_some_iff.1 loose).1

theorem exists_about_of_pairing {i : Issue} (h : i ∈ p.pairingIssues) :
    ∃ o ∈ occurrences p.body, p.About i o ∧ i.line = p.lineOf o := by
  have visited {opened : Option Occurrence} {o : Occurrence}
      (met : (opened, o) ∈ trace none (occurrences p.body)) : o ∈ occurrences p.body := by
    rw [← trace_map_snd none (occurrences p.body)]
    exact List.mem_map_of_mem (f := Prod.snd) met
  rcases p.mem_pairingIssues_iff.1 h with
    ⟨o, met, stops, rfl⟩ | ⟨outer, o, met, starts, rfl⟩ | ⟨u, loose, rfl⟩
  · have outside := ((sectioned_all p.body).outside_iff met).2 ⟨rfl, stops⟩
    exact ⟨o, visited met, .unmatched outside rfl, rfl⟩
  · have inside := (sectioned_all p.body).outer?_eq met starts
    exact ⟨o, visited met, .nested starts inside (outer_mem inside) rfl, rfl⟩
  · exact ⟨u, loose_mem loose, .unterminated loose rfl, rfl⟩

theorem exists_about_of_block {i : Issue} (h : i ∈ p.blockIssues) :
    ∃ o ∈ occurrences p.body, p.About i o ∧ i.line = p.lineOf o := by
  obtain ⟨b, found, issue⟩ := List.mem_filterMap.1 h
  rcases parsed : Quiz.parse b.body with e | q <;> rw [parsed] at issue
  · obtain rfl := Option.some.inj issue
    refine ⟨b.opening, Block.opening_mem found, .block found parsed rfl, ?_⟩
    exact congrArg LineRange.start (p.rangeOf_eq found)
  · cases issue

/-- Every issue is at the line of the marker that it is about. -/
theorem exists_about_of_mem {i : Issue} (h : i ∈ p.lint) :
    ∃ o ∈ occurrences p.body, p.About i o ∧ i.line = p.lineOf o := by
  rcases asks : p.disabled with - | -
  · rcases (mem_lint_iff asks).1 h with pairing | block
    · exact exists_about_of_pairing pairing
    · exact exists_about_of_block block
  · rw [lint_of_disabled asks] at h
    cases h

/-! ## Lines of the whole text -/

/-- Whether all lines that are reported about a page are lines of its whole text. -/
structure LinesTold (p : Page) (text : Text) : Prop where
  /-- The list has one item for each block, from the line of the start marker to that of the end marker. -/
  listed : List.Forall₂ (fun b i => ∃ range, i.range = some range ∧
      (p.moved b.opening).OnLine text range.start ∧ (p.moved b.closing).OnLine text range.stop)
    (Block.all p.body) p.list
  /-- So has the report on the rendered page for each block that was left in place. -/
  rendered : ∀ assets, List.Forall₂ (fun b i => p.Blames b i ∧ ∃ range, i.range = some range ∧
      (p.moved b.opening).OnLine text range.start ∧ (p.moved b.closing).OnLine text range.stop)
    p.broken ((p.render assets).items.filter Item.isError)
  /-- Every issue of the check is at the line of a marker that it is about. -/
  checked : ∀ i ∈ p.lint, ∃ o ∈ occurrences p.body, p.About i o ∧ (p.moved o).OnLine text i.line
  /-- The line of every marker, also where a message tells it. -/
  marked : ∀ o ∈ occurrences p.body, (p.moved o).OnLine text (p.lineOf o)
  /-- Line feeds are counted in 32 bits, and so are they with one more. -/
  counted : ∀ offset, p.body.feedsBefore offset + 1 < UInt32.size
  front : p.frontMatter.feeds < UInt32.size
  /-- No line wraps around when it is moved behind the front matter. -/
  added : ∀ offset, (Text.lineAt p.body offset).toNat + p.lineOffset.toNat < UInt32.size

theorem mem_of_mem_broken {b : Block} (h : b ∈ p.broken) : b ∈ Block.all p.body := by
  rw [broken] at h
  split at h
  · cases h
  · exact (List.mem_filter.1 h).1

theorem linesTold_of_numbersFit (fits : p.NumbersFit) : LinesTold p (p.frontMatter ++ p.body) := by
  have marked : ∀ o ∈ occurrences p.body,
      (p.moved o).OnLine (p.frontMatter ++ p.body) (p.lineOf o) := fun o => onLine_lineOf fits
  have range : ∀ b ∈ Block.all p.body,
      (p.moved b.opening).OnLine (p.frontMatter ++ p.body) (p.rangeOf b).start ∧
        (p.moved b.closing).OnLine (p.frontMatter ++ p.body) (p.rangeOf b).stop := by
    intro b found
    rw [p.rangeOf_eq found]
    exact ⟨marked _ (Block.opening_mem found), marked _ (Block.closing_mem found)⟩
  have front : p.frontMatter.feeds + p.body.feeds + 1 < UInt32.size := fits
  refine ⟨?_, ?_, ?_, marked, ?_, by omega, lineAt_add_lineOffset_lt fits⟩
  · refine ((List.forall₂_and_left _ _).2 ⟨range, p.forall₂_range 0 0 _⟩).imp ?_
    intro b i ⟨lines, told⟩
    exact ⟨_, told, lines⟩
  · intro assets
    have lines : ∀ b ∈ p.broken, _ := fun b left => range b (mem_of_mem_broken left)
    refine ((List.forall₂_and_left _ _).2 ⟨lines, p.forall₂_broken assets⟩).imp ?_
    intro b i ⟨lines, told⟩
    exact ⟨told, _, told.range, lines⟩
  · intro i hi
    obtain ⟨o, found, about, line⟩ := exists_about_of_mem hi
    rw [line]
    exact ⟨o, found, about, marked o found⟩
  · intro offset
    have before := p.body.feedsBefore_le offset
    omega

/-- **Lines**: if there are less line feeds than line numbers, every line that is reported about a page is
the line of a marker in the whole text, and no sum on the way wraps around. -/
theorem linesTold (path text : Text) (few : text.feeds < UInt32.size - 1) :
    LinesTold (Page.ofText path text) text := by
  have whole : (ofText path text).frontMatter ++ (ofText path text).body = text :=
    splitFrontMatter_append text
  have fits : (ofText path text).NumbersFit := by
    rw [← whole, Block.feeds_append] at few
    unfold NumbersFit
    omega
  have told := linesTold_of_numbersFit fits
  rwa [whole] at told

/-- Front matter that is closed by dots, an end marker that closes nothing, a start marker inside a quiz on
the same line, and one that is never closed. -/
def crowdedText : Text :=
  "---\r\na: b\r\n...\r\n<?/quiz?> <?quiz?>\n<?quiz?>\n<?/quiz?>\n<?quiz?>"

theorem linesTold_crowdedText :
    let p := Page.ofText "page.md" crowdedText
    crowdedText.feeds < UInt32.size - 1 ∧ LinesTold p crowdedText ∧
      p.list.map (·.range) = [some ⟨4, 6⟩] ∧ p.pairingIssues.map (·.line) = [4, 5, 7] := by
  intro p
  have few : crowdedText.feeds < UInt32.size - 1 := by decide +kernel
  exact ⟨few, linesTold "page.md" crowdedText few, by decide +kernel, by decide +kernel⟩

end Page
end QuizPages
