import Mathlib.Data.List.Basic
import QuizPages.Proofs.Document.Splice
import QuizPages.Proofs.Quiz.Grammar

/-!
# A second pass

Where a rendered block holds no start marker, its fragment is a gap like any other text between
blocks. The rendered document then has a layout whose blocks are those that stayed
(`Layout.exists_splice`), and a second pass finds these and changes nothing: `second_pass`.
-/

namespace QuizPages

open Marker

/-- Why a body holds no quiz; `none` if it holds one. -/
def Quiz.fault? (body : Text) : Option FormatError :=
  match Quiz.parse body with
  | .ok _ => none
  | .error e => some e

/-- Whether a body holds no quiz. -/
def Quiz.fails (body : Text) : Bool := (Quiz.fault? body).isSome

namespace Quiz

theorem fault?_of_ok {body : Text} {q : Quiz} (h : parse body = .ok q) : fault? body = none := by
  rw [fault?, h]

theorem fault?_of_error {body : Text} {e : FormatError} (h : parse body = .error e) :
    fault? body = some e := by
  rw [fault?, h]

theorem fails_of_error {body : Text} {e : FormatError} (h : parse body = .error e) :
    fails body = true := by
  rw [fails, fault?_of_error h]
  rfl

theorem fails_of_ok {body : Text} {q : Quiz} (h : parse body = .ok q) : fails body = false := by
  rw [fails, fault?_of_ok h]
  rfl

/-- The faults of bodies are those of the bodies that fail. -/
theorem filterMap_fault?_filter (bodies : List Text) :
    (bodies.filter fails).filterMap fault? = bodies.filterMap fault? := by
  rw [List.filterMap_filter]
  refine List.filterMap_congr fun body _ => ?_
  rcases found : fault? body with - | e <;> simp [fails, found]

end Quiz

namespace Layout

/-- A text that no marker lies across the end of becomes part of the first gap. -/
theorem exists_append {x : Text} (free : ¬ start.text <:+: x) (seam : ∀ y, Apart x y)
    (l : Layout) : ∃ l' : Layout, l'.text = x ++ l.text ∧ l'.bodies = l.bodies := by
  cases l with
  | tail t blockless =>
    exact ⟨tail (x ++ t) ((blockless_append_iff (seam t) free).2 blockless), rfl, rfl⟩
  | block gap body gap_free body_free later =>
    have both : ¬ start.text <:+: x ++ gap := by
      rw [infix_append_iff (seam gap), not_or]
      exact ⟨free, gap_free⟩
    refine ⟨block (x ++ gap) body both body_free later, ?_, rfl⟩
    rw [text, text, List.append_assoc]

/-- The blocks of a rendered document are those that stayed. -/
theorem exists_splice (l : Layout) (id : Nat)
    (clean : ∀ body ∈ l.bodies, ∀ q, Quiz.parse body = .ok q → ¬ start.text <:+: body) :
    ∃ l' : Layout, l'.text = l.splice id ∧ l'.bodies = l.bodies.filter Quiz.fails := by
  induction l generalizing id with
  | tail t blockless => exact ⟨tail t blockless, rfl, rfl⟩
  | block gap body gap_free body_free later ih =>
    obtain ⟨next, next_text, next_bodies⟩ := ih (id + Document.quizzesIn body) fun b hb =>
      clean b (List.mem_cons_of_mem _ hb)
    rcases parsed : Quiz.parse body with e | q
    · refine ⟨block gap body gap_free body_free next, ?_, ?_⟩
      · simp [text, splice, next_text, Document.fragment, parsed]
      · simp [bodies, next_bodies, Quiz.fails_of_error parsed]
    · -- the gap and the fragment together are part of the next gap
      have html_free : ¬ start.text <:+: q.html id := fun h =>
        clean body List.mem_cons_self q parsed (Quiz.infix_body_of_html parsed h)
      have gap_seam : Apart gap (q.html id) := by
        simpa using Quiz.apart_html_right gap q id []
      have free : ¬ start.text <:+: gap ++ q.html id := by
        rw [infix_append_iff gap_seam, not_or]
        exact ⟨gap_free, html_free⟩
      obtain ⟨l', l'_text, l'_bodies⟩ := exists_append free (Quiz.apart_html_left gap q id) next
      refine ⟨l', ?_, ?_⟩
      · rw [l'_text, next_text, splice, Document.fragment, parsed, List.append_assoc]
      · rw [l'_bodies, next_bodies, bodies, List.filter_cons, Quiz.fails_of_ok parsed]
        rfl

/-- Where no block holds a quiz, rendering changes nothing. -/
theorem splice_eq_text {l : Layout} (h : ∀ body ∈ l.bodies, Quiz.fails body = true) (id : Nat) :
    l.splice id = l.text := by
  induction l generalizing id with
  | tail => rfl
  | block gap body _ _ later ih =>
    have stays : Document.fragment id body = start.text ++ body ++ stop.text := by
      have failed := h body List.mem_cons_self
      rcases parsed : Quiz.parse body with e | q
      · rw [Document.fragment, parsed]
      · rw [Quiz.fails_of_ok parsed] at failed
        cases failed
    rw [splice, stays, ih (fun b hb => h b (List.mem_cons_of_mem _ hb)), text]
    simp

end Layout

namespace Document

/-- The block of an outcome with the reason why it stays. -/
def stays? (x : Block × Outcome) : Option (Block × FormatError) :=
  match x.2.result with
  | .ok _ => none
  | .error e => some (x.1, e)

/-- The blocks that stay when a document is rendered, each with its reason. -/
def failed (document : Text) : List (Block × FormatError) :=
  ((Block.all document).zip (render document).outcomes).filterMap stays?

theorem zip_outcomesFrom_filterMap (id sequence : Nat) (blocks : List Block) :
    (blocks.zip (outcomesFrom id sequence blocks)).filterMap stays? =
      blocks.filterMap fun b => (Quiz.fault? b.body).map (b, ·) := by
  induction blocks generalizing id sequence with
  | nil => rfl
  | cons b later ih =>
    rw [outcomesFrom, List.zip_cons_cons, List.filterMap_cons, List.filterMap_cons, ih]
    rcases parsed : Quiz.parse b.body with e | q
    · simp [stays?, Except.map, Quiz.fault?_of_error parsed]
    · simp [stays?, Except.map, Quiz.fault?_of_ok parsed]

theorem failed_eq (document : Text) :
    failed document = (Block.all document).filterMap fun b => (Quiz.fault? b.body).map (b, ·) := by
  rw [failed, render_outcomes, zip_outcomesFrom_filterMap]

/-- No failure of a pass is left out of its failed blocks. -/
theorem failures_map_snd (document : Text) :
    (render document).failures.map Prod.snd = (failed document).map Prod.snd := by
  have lengths : (render document).outcomes.length ≤ (Block.all document).length := by
    exact Nat.le_of_eq (by rw [render_outcomes, length_outcomesFrom])
  conv_lhs => rw [Rendered.failures, ← List.map_snd_zip lengths, List.filterMap_map]
  rw [failed, List.map_filterMap, List.map_filterMap]
  refine List.filterMap_congr fun x _ => ?_
  rcases result : x.2.result with e | id <;> simp [stays?, result]

theorem failed_map_body (document : Text) :
    (failed document).map (·.1.body) = ((Block.all document).map Block.body).filter Quiz.fails := by
  rw [failed_eq, List.map_filterMap, List.filter_map, ← List.filterMap_eq_filter,
    List.map_filterMap]
  refine List.filterMap_congr fun b _ => ?_
  rcases found : Quiz.fault? b.body with - | e <;> simp [Option.guard, Quiz.fails, found]

theorem failed_map_snd (document : Text) :
    (failed document).map Prod.snd =
      ((Block.all document).map Block.body).filterMap Quiz.fault? := by
  rw [failed_eq, List.map_filterMap, List.filterMap_map]
  refine List.filterMap_congr fun b _ => ?_
  rcases found : Quiz.fault? b.body with - | e <;> simp [found]

/-- Where no block holds a quiz, each outcome is the fault of its block. -/
theorem outcomesFrom_map_result {blocks : List Block}
    (h : ∀ body ∈ blocks.map Block.body, Quiz.fails body = true) (id sequence : Nat) :
    (outcomesFrom id sequence blocks).map (·.result) =
      ((blocks.map Block.body).filterMap Quiz.fault?).map .error := by
  induction blocks generalizing id sequence with
  | nil => rfl
  | cons b later ih =>
    have failed := h b.body List.mem_cons_self
    rw [outcomesFrom, List.map_cons, ih fun body hb => h body (List.mem_cons_of_mem _ hb)]
    rcases parsed : Quiz.parse b.body with e | q
    · simp [Except.map, Quiz.fault?_of_error parsed]
    · rw [Quiz.fails_of_ok parsed] at failed
      cases failed

theorem count_eq_zero {r : Rendered} {faults : List FormatError}
    (h : r.outcomes.map (·.result) = faults.map .error) : r.count = 0 := by
  have none_ok : (r.outcomes.map (·.result)).filter Except.isOk = [] := by
    rw [h, List.filter_eq_nil_iff]
    intro result hr
    obtain ⟨e, -, rfl⟩ := List.mem_map.1 hr
    exact Bool.false_ne_true
  rw [List.filter_map, List.map_eq_nil_iff] at none_ok
  exact List.length_eq_zero_iff.2 none_ok

/-- The blocks of a rendered document are those that stayed. -/
theorem exists_layout_render {document : Text}
    (clean : ∀ b ∈ Block.all document, ∀ q, Quiz.parse b.body = .ok q →
      ¬ start.text <:+: b.body) :
    ∃ l : Layout, l.text = (render document).text ∧
      l.bodies = (failed document).map (·.1.body) ∧
      ∀ body ∈ l.bodies, Quiz.fails body = true := by
  obtain ⟨l, rfl⟩ := Layout.exists_text_eq document
  obtain ⟨l', text_eq, bodies_eq⟩ := l.exists_splice 0 (Layout.forall_bodies_iff.2 clean)
  refine ⟨l', ?_, ?_, ?_⟩
  · rw [text_eq, render_layout_text]
  · rw [bodies_eq, failed_map_body, l.all_text_map_body]
  · rw [bodies_eq]
    exact fun body hb => (List.mem_filter.1 hb).2

/-- The faults of the blocks that stayed are read off their bodies. -/
theorem failed_bodies_filterMap (document : Text) :
    ((failed document).map (·.1.body)).filterMap Quiz.fault? = (failed document).map Prod.snd := by
  rw [failed_map_body, Quiz.filterMap_fault?_filter, failed_map_snd]

/-- **Second pass**: where no rendered block holds a start marker, the second pass finds the
blocks that stayed in the first one, fails on each as before and changes nothing. -/
theorem second_pass (document : Text)
    (clean : ∀ b ∈ Block.all document, ∀ q, Quiz.parse b.body = .ok q →
      ¬ start.text <:+: b.body) :
    let first := render document
    let second := render first.text
    first.failures.map Prod.snd = (failed document).map Prod.snd ∧
    (Block.all first.text).map (fun b => (b.raw, b.body)) =
      (failed document).map (fun f => (f.1.raw, f.1.body)) ∧
    second.outcomes.map (·.result) = (failed document).map (fun f => .error f.2) ∧
    second.count = 0 ∧
    second.text = first.text := by
  intro first second
  obtain ⟨l, text_eq, bodies_eq, all_fail⟩ := exists_layout_render clean
  have second_eq : second = render l.text := by rw [text_eq]
  have found : (Block.all first.text).map Block.body = (failed document).map (·.1.body) := by
    rw [← bodies_eq, ← l.all_text_map_body, text_eq]
  have results : second.outcomes.map (·.result) =
      ((failed document).map Prod.snd).map .error := by
    rw [second_eq, render_outcomes,
      outcomesFrom_map_result (by rwa [l.all_text_map_body]), l.all_text_map_body, bodies_eq,
      failed_bodies_filterMap]
  refine ⟨failures_map_snd document, ?_, ?_, count_eq_zero results, ?_⟩
  · have raw_body : (fun b : Block => (b.raw, b.body)) =
        (fun body => (start.text ++ body ++ stop.text, body)) ∘ Block.body := rfl
    rw [raw_body, ← List.map_map, found, List.map_map]
    rfl
  · rw [results, List.map_map]
    rfl
  · rw [second_eq, render_layout_text, Layout.splice_eq_text all_fail, text_eq]

/-- A quiz between text and a block that stays, which holds a start marker. -/
def mixed : Text := "text <?quiz?>\nquestion: q\ncontent:\n<?/quiz?><?quiz?><?quiz?><?/quiz?>"

theorem mixed_clean : ∀ b ∈ Block.all mixed, ∀ q, Quiz.parse b.body = .ok q →
    ¬ start.text <:+: b.body := by
  have checked : ∀ b ∈ Block.all mixed,
      Quiz.fails b.body = false → Text.cut? start.text b.body = none := by
    decide +kernel
  intro b hb q parsed
  exact Text.cut?_eq_none_iff.1 (checked b hb (Quiz.fails_of_ok parsed))

theorem second_pass_mixed :
    (∀ b ∈ Block.all mixed, ∀ q, Quiz.parse b.body = .ok q → ¬ start.text <:+: b.body) ∧
    (render mixed).count = 1 ∧ (failed mixed).length = 1 ∧
    (render (render mixed).text).text = (render mixed).text :=
  ⟨mixed_clean, by decide +kernel, by decide +kernel, (second_pass mixed mixed_clean).2.2.2.2⟩

end Document
end QuizPages
