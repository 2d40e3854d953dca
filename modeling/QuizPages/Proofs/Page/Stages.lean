import QuizPages.Proofs.Block.Cover
import QuizPages.Proofs.Page.Agreement
import QuizPages.Proofs.Page.Output

/-!
# The stages of a page

Rendering the body, appending the assets and reporting each ask on their own whether the page is disabled.
Together they leave a disabled page as it is, and of any other page they make its front matter, the rendered
body and the assets: `render_stages`. What front matter says is up to the YAML reader, which may be any
function here.
-/

namespace QuizPages

/-! ## What front matter says -/

namespace Metadata

/-- The metadata of front matter by any YAML reader, which is not asked about a blank text. -/
def readBy (read : Text → Option Yaml.Value) (front : Text) : Option Metadata :=
  if (frontMatterBody front).isBlank then some {} else (read (frontMatterBody front)).map ofValue

/-- Front matter says that the page is disabled: it is read as a mapping, and the last entry under the
string `quiz` is the string `disable`. -/
def SaysDisable (read : Text → Option Yaml.Value) (front : Text) : Prop :=
  (frontMatterBody front).isBlank = false ∧
  ∃ before key value after,
    read (frontMatterBody front) = some (.mapping (before ++ (key, value) :: after)) ∧
    key.text? = some "quiz".toList ∧ value.text? = some "disable".toList ∧
    ∀ e ∈ after, e.1.text? ≠ some "quiz".toList

/-- A string of a mapping is looked up from the end. -/
theorem get?_mapping (entries : List (Yaml.Value × Yaml.Value)) (key : Text) :
    (ofValue (.mapping entries)).get? key =
      (entries.reverse.find? fun e => e.1.text? == some key).bind fun e => e.2.text? := by
  have same : (fun e : Yaml.Value × Yaml.Value => (e.1.text?.map fun k => (k, e.2)).any (·.1 == key)) =
      fun e => e.1.text? == some key := by
    funext e
    rcases e.1.text? with - | k <;> rfl
  rw [get?, ofValue, ← List.filterMap_reverse, List.find?_filterMap, same]
  cases found : entries.reverse.find? (fun e => e.1.text? == some key) with
  | none => rfl
  | some e =>
    have here := List.find?_some found
    rw [Option.bind_some, Option.bind_some, beq_iff_eq.1 here]
    rfl

/-- Of the entries of a mapping under one string the last counts. -/
theorem get?_mapping_eq_some {entries : List (Yaml.Value × Yaml.Value)} {key t : Text} :
    (ofValue (.mapping entries)).get? key = some t ↔
      ∃ before k value after, entries = before ++ (k, value) :: after ∧
        k.text? = some key ∧ value.text? = some t ∧ ∀ e ∈ after, e.1.text? ≠ some key := by
  rw [get?_mapping, Option.bind_eq_some_iff]
  constructor
  · rintro ⟨⟨k, value⟩, found, said⟩
    obtain ⟨here, after, before, split, other⟩ := List.find?_eq_some_iff_append.1 found
    refine ⟨before.reverse, k, value, after.reverse, ?_, beq_iff_eq.1 here, said, ?_⟩
    · simpa using congrArg List.reverse split
    · intro e mem
      simpa using other e (List.mem_reverse.1 mem)
  · rintro ⟨before, k, value, after, rfl, here, said, other⟩
    refine ⟨(k, value), List.find?_eq_some_iff_append.2 ⟨beq_iff_eq.2 here, after.reverse,
      before.reverse, by simp, ?_⟩, said⟩
    intro e mem
    simpa using other e (List.mem_reverse.1 mem)

/-- Front matter disables quizzes exactly if it says so: not if it is blank, cannot be read or is no
mapping. -/
theorem any_disablesQuizzes_iff {read : Text → Option Yaml.Value} {front : Text} :
    (readBy read front).any disablesQuizzes = true ↔ SaysDisable read front := by
  rcases blank : (frontMatterBody front).isBlank with - | -
  · rw [readBy, SaysDisable, blank, if_neg Bool.false_ne_true]
    rcases read (frontMatterBody front) with - | value
    · simp
    · cases value with
      | mapping entries => simp [disablesQuizzes, get?_mapping_eq_some]
      | _ => simp [ofValue, disablesQuizzes, get?]
  · rw [readBy, SaysDisable, blank, if_pos rfl]
    simp [disablesQuizzes, get?]

end Metadata

/-! ## What is told about blocks -/

namespace Page

open Document

/-- The item of a page that comes out as a text with so many quizzes rendered. -/
def outputItem (path text : Text) (quizzes : Nat) (disabled : Bool) : Item :=
  { Item.ofPage path with
    facts :=
      { size := some (UInt64.ofNat text.size)
        digest := some (Digest.ofOctets text.octets)
        quizzes := some (UInt64.ofNat quizzes)
        disabled } }

/-- The error item of a block, given with its number, if it holds no quiz. -/
def skippedItem? (p : Page) (numbered : Block × Nat) : Option Item :=
  (Quiz.fault? numbered.1.body).map fun e =>
    { Item.ofFault .error ⟨e.code, skipped numbered.2 ++ e.message⟩ with
      path := some p.path
      range := some ⟨numbered.1.startLine + p.lineOffset, numbered.1.endLine + p.lineOffset⟩ }

/-- The failed outcomes are told block by block. -/
theorem failures_map_failureItem (p : Page) (id sequence : Nat) (blocks : List Block) :
    ((outcomesFrom id sequence blocks).filterMap Outcome.failure?).map
        (fun (o, e) => p.failureItem o e) =
      (blocks.zipIdx sequence).filterMap p.skippedItem? := by
  induction blocks generalizing id sequence with
  | nil => rfl
  | cons b later ih =>
    rcases parsed : Quiz.parse b.body with e | q
    · rw [outcomesFrom_cons_of_error parsed, List.zipIdx_cons, List.filterMap_cons,
        List.filterMap_cons, skippedItem?, Quiz.fault?_of_error parsed, ← ih id (sequence + 1)]
      rfl
    · rw [outcomesFrom_cons_of_ok parsed, List.zipIdx_cons, List.filterMap_cons,
        List.filterMap_cons, skippedItem?, Quiz.fault?_of_ok parsed, ← ih (id + 1) (sequence + 1)]
      rfl

/-! ## Both kinds of pages -/

/-- The page of a text, its front matter read by any YAML reader. -/
def readBy (read : Text → Option Yaml.Value) (path text : Text) : Page where
  path := path
  metadata := Metadata.readBy read (splitFrontMatter text).1
  frontMatter := (splitFrontMatter text).1
  body := (splitFrontMatter text).2

theorem readBy_read? (path text : Text) : readBy Yaml.Value.read? path text = ofText path text :=
  rfl

theorem disabled_readBy_iff (read : Text → Option Yaml.Value) (path text : Text) :
    (readBy read path text).disabled = true ↔ Metadata.SaysDisable read (splitFrontMatter text).1 :=
  Metadata.any_disablesQuizzes_iff

/-- A disabled page stays as it is, whatever the assets are. -/
theorem render_of_disabled {p : Page} (disabled : p.disabled = true) (assets : Option Assets) :
    p.render assets =
      ⟨p.frontMatter ++ p.body, [outputItem p.path (p.frontMatter ++ p.body) 0 true]⟩ := by
  have body : p.renderedBody = ⟨p.body, []⟩ := by rw [renderedBody, if_pos disabled]
  have final : p.finalText assets = p.frontMatter ++ p.body := by
    rcases assets with - | a <;> simp [finalText, body, disabled]
  rw [render, final, item, body, disabled]
  rfl

/-- Any other page is rendered behind its front matter, and the assets come last. -/
theorem render_of_enabled {p : Page} (enabled : p.disabled = false) (assets : Option Assets) :
    let final := p.frontMatter ++ (Document.render p.body).text ++ assets.elim [] Assets.snippet
    p.render assets =
      ⟨final, outputItem p.path final ((Block.all p.body).countP fun b => (Quiz.parse b.body).isOk) false ::
        (Block.all p.body).zipIdx.filterMap p.skippedItem?⟩ := by
  intro final
  have body := renderedBody_of_enabled enabled
  have appended_eq : p.appended assets = assets.elim [] Assets.snippet := by
    rcases assets with - | a
    · rfl
    · rw [appended, enabled, if_neg Bool.false_ne_true]
      rfl
  have final_eq : p.finalText assets = final := by
    rw [finalText_eq, body, appended_eq, ← List.append_assoc]
  rw [render, final_eq, item, body, enabled, count_eq_countP, Rendered.failures_eq, render_outcomes,
    failures_map_failureItem]
  rfl

/-- Each block of the body stands behind the front matter. -/
theorem exists_split_of_mem {text : Text} {b : Block} (mem : b ∈ Block.all (splitFrontMatter text).2) :
    ∃ left right, text = (splitFrontMatter text).1 ++ (left ++ b.raw ++ right) ∧
      left.size = b.start := by
  obtain ⟨parts, tail, cover, found⟩ := Block.exists_cover_all (splitFrontMatter text).2
  rw [← found] at mem
  obtain ⟨part, here, rfl⟩ := List.mem_map.1 mem
  obtain ⟨left, right, whole, place, -⟩ := cover.exists_append_of_mem here
  refine ⟨left, right, ?_, place⟩
  rw [← whole, List.nil_append, splitFrontMatter_append]

/-- **Stages of a page**: a page that says it is disabled comes out as it is, with one item, and the assets
do not matter. Any other page, also one whose front matter cannot be read, is no mapping or is not closed,
comes out as its front matter, the rendered body and the assets; its item tells of that text and of how many
blocks hold a quiz, and an error item follows for each block that holds none, in their order. Only blocks
behind the front matter are looked at: whatever stands in front of a body, it is rendered alike. -/
theorem render_stages (read : Text → Option Yaml.Value) (path text : Text) :
    let front := (splitFrontMatter text).1
    let body := (splitFrontMatter text).2
    let p := readBy read path text
    (Metadata.SaysDisable read front → ∀ assets,
      p.render assets = ⟨text, [outputItem path text 0 true]⟩) ∧
    (¬ Metadata.SaysDisable read front → ∀ assets : Option Assets,
      let final := front ++ (Document.render body).text ++ assets.elim [] Assets.snippet
      p.render assets =
        ⟨final, outputItem path final ((Block.all body).countP fun b => (Quiz.parse b.body).isOk) false ::
          (Block.all body).zipIdx.filterMap p.skippedItem?⟩) ∧
    (∀ b ∈ Block.all body, ∃ left right,
      text = front ++ (left ++ b.raw ++ right) ∧ left.size = b.start) ∧
    ∀ other, (splitFrontMatter other).2 = body →
      ¬ Metadata.SaysDisable read front → ¬ Metadata.SaysDisable read (splitFrontMatter other).1 →
      ∀ assets, ∃ behind,
        (p.render assets).text = front ++ behind ∧
        ((readBy read path other).render assets).text = (splitFrontMatter other).1 ++ behind := by
  intro front body p
  have enabled {text : Text} (silent : ¬ Metadata.SaysDisable read (splitFrontMatter text).1) :
      (readBy read path text).disabled = false := by
    rw [← disabled_readBy_iff read path, Bool.not_eq_true] at silent
    exact silent
  refine ⟨?_, ?_, fun b => exists_split_of_mem, ?_⟩
  · intro disabled assets
    have whole : p.frontMatter ++ p.body = text := splitFrontMatter_append text
    rw [render_of_disabled ((disabled_readBy_iff read path text).2 disabled), whole]
    rfl
  · intro silent
    exact render_of_enabled (enabled silent)
  · intro other same silent silent' assets
    refine ⟨(Document.render body).text ++ assets.elim [] Assets.snippet, ?_, ?_⟩
    · rw [render_of_enabled (enabled silent), ← List.append_assoc]
      rfl
    · rw [render_of_enabled (enabled silent'), ← List.append_assoc, ← same]
      rfl

/-- An end marker and a block that holds no quiz. -/
def strayBody : Text := "<?/quiz?>\n<?quiz?><?/quiz?>"

/-- A disabled page with a start marker in its front matter and an end marker behind it. -/
def disabledPage : Text := "---\nquiz: disable # <?quiz?>\n---\n" ++ strayBody

/-- The same markers where nothing is disabled. -/
def enabledPage : Text := "---\nquiz: enable # <?quiz?>\n---\n" ++ strayBody

theorem render_stages_markedPages :
    Metadata.SaysDisable Yaml.Value.read? (splitFrontMatter disabledPage).1 ∧
    ¬ Metadata.SaysDisable Yaml.Value.read? (splitFrontMatter enabledPage).1 ∧
    (ofText "a.md" disabledPage).render (some Assets.bundled) =
      ⟨disabledPage, [outputItem "a.md" disabledPage 0 true]⟩ ∧
    ((ofText "a.md" enabledPage).render none).items.map (·.kind) = [.page, .error] ∧
    ∃ behind,
      ((ofText "a.md" enabledPage).render none).text = (splitFrontMatter enabledPage).1 ++ behind ∧
      ((ofText "a.md" strayBody).render none).text = behind := by
  have disabled : Metadata.SaysDisable Yaml.Value.read? (splitFrontMatter disabledPage).1 :=
    (disabled_readBy_iff _ "a.md" _).1 (by decide +kernel)
  have enabled : ¬ Metadata.SaysDisable Yaml.Value.read? (splitFrontMatter enabledPage).1 := by
    rw [← disabled_readBy_iff _ "a.md"]
    decide +kernel
  have bare : ¬ Metadata.SaysDisable Yaml.Value.read? (splitFrontMatter strayBody).1 := by
    rw [← disabled_readBy_iff _ "a.md"]
    decide +kernel
  obtain ⟨-, render_eq, -, alike⟩ := render_stages Yaml.Value.read? "a.md" enabledPage
  rw [← readBy_read?, ← readBy_read?, ← readBy_read?]
  refine ⟨disabled, enabled, ?_, ?_, ?_⟩
  · exact (render_stages Yaml.Value.read? "a.md" disabledPage).1 disabled (some Assets.bundled)
  · have items := congrArg (fun o => o.items.map (·.kind)) (render_eq enabled none)
    exact items.trans (by decide +kernel)
  · have same : (splitFrontMatter strayBody).2 = (splitFrontMatter enabledPage).2 := by
      decide +kernel
    exact alike strayBody same enabled bare none

end Page
end QuizPages
