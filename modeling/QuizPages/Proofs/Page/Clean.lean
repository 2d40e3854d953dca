import QuizPages.Page.Rendering
import QuizPages.Proofs.Document.Splice
import QuizPages.Proofs.Page.Pairing
import QuizPages.Proofs.Quiz.Grammar

/-!
# Pages without errors

If checking a page finds no error, the pairing machine meets every end marker with a quiz open and
leaves none open, so no marker is outside the blocks (`Layout.plain_of_run`). All blocks then give
way to their fragments and no end marker is left: `render_of_lint`.
-/

namespace QuizPages

open Marker

namespace Layout

/-- No gap holds the marker, and the tail does not either. -/
def Plain (m : Marker) : Layout → Prop
  | tail t _ => ¬ m.text <:+: t
  | block gap _ _ _ later => ¬ m.text <:+: gap ∧ later.Plain m

theorem stop_free_of_mem {l : Layout} : ∀ body ∈ l.bodies, ¬ stop.text <:+: body := by
  induction l with
  | tail => simp [bodies]
  | block gap body _ body_free later ih =>
    intro t ht
    obtain rfl | ht := List.mem_cons.1 ht
    · exact body_free
    · exact ih t ht

/-- Behind the last block there is no marker if the machine meets no end marker with nothing open
there and leaves nothing open. -/
theorem plain_tail_of_run {t : Text} (blockless : Blockless t) {n : Nat}
    (matched : ∀ x ∈ trace none (occurrencesFrom n t), x.1 = none → x.2.marker = .start)
    (closed : leftOpen none (occurrencesFrom n t) = none) (m : Marker) : ¬ m.text <:+: t := by
  obtain ⟨loose, sectioned⟩ := exists_sectioned_of_blockless blockless n
  have never : opened (occurrencesFrom n t) = [] := by
    rw [sectioned.opened_eq, ← sectioned.leftOpen_eq, closed]
    rfl
  rw [infix_iff_mem n]
  rintro ⟨o, ho, -⟩
  cases os : occurrencesFrom n t with
  | nil => simp [os] at ho
  | cons first later =>
    have starts : first.marker = .start := matched (none, first) (by simp [os, trace]) rfl
    simp [os, opened, trace, opensAt, starts] at never

/-- No marker is outside the blocks if the machine meets each end marker with a quiz open and
leaves none open. -/
theorem plain_of_run (l : Layout) (n : Nat)
    (matched : ∀ x ∈ trace none (occurrencesFrom n l.text), x.1 = none → x.2.marker = .start)
    (closed : leftOpen none (occurrencesFrom n l.text) = none) (m : Marker) : l.Plain m := by
  induction l generalizing n with
  | tail t blockless => exact plain_tail_of_run blockless matched closed m
  | block gap body gap_free body_free later ih =>
    let b := Block.placedAt [] (n + gap.size) body
    obtain ⟨traced, left⟩ := run_block (b := b) gap_free body_free rfl later.text
    have gap_stop_free : ¬ stop.text <:+: gap := by
      intro inside
      obtain ⟨o, ho, marker⟩ := (infix_iff_mem n).1 inside
      have := matched (none, o) (traced ▸ by simp [ho]) rfl
      simp [marker] at this
    refine ⟨?_, ih b.stop (fun x hx => matched x (traced ▸ by simp [hx])) (left ▸ closed)⟩
    cases m
    · exact gap_free
    · exact gap_stop_free

/-- No block holds a start marker if the machine meets none with a quiz open. -/
theorem start_free_of_run (l : Layout) (n : Nat)
    (flat : ∀ x ∈ trace none (occurrencesFrom n l.text), x.2.marker = .start → x.1 = none) :
    ∀ body ∈ l.bodies, ¬ start.text <:+: body := by
  induction l generalizing n with
  | tail => simp [bodies]
  | block gap body gap_free body_free later ih =>
    let b := Block.placedAt [] (n + gap.size) body
    obtain ⟨traced, -⟩ := run_block (b := b) gap_free body_free rfl later.text
    intro t ht inside
    obtain rfl | ht := List.mem_cons.1 ht
    · obtain ⟨o, ho, marker⟩ := (infix_iff_mem (b.start + start.text.size)).1 inside
      have inside : o ∈ occurrencesFrom (b.start + start.text.size) b.body := ho
      have := flat (some b.opening, o) (traced ▸ by simp [inside]) marker
      cases this
    · exact ih b.stop (fun x hx => flat x (traced ▸ by simp [hx])) t ht inside

/-- A marker that is neither outside the blocks nor in a body is not in the rendered document, if
all blocks are rendered. -/
theorem not_infix_splice {m : Marker} {l : Layout} (plain : l.Plain m)
    (parsed : ∀ body ∈ l.bodies, ∃ q, Quiz.parse body = .ok q)
    (free : ∀ body ∈ l.bodies, ¬ m.text <:+: body) (id : Nat) : ¬ m.text <:+: l.splice id := by
  induction l generalizing id with
  | tail => exact plain
  | block gap body _ _ later ih =>
    obtain ⟨gap_plain, later_plain⟩ := plain
    obtain ⟨q, hq⟩ := parsed body List.mem_cons_self
    have html_free : ¬ m.text <:+: q.html id := fun inside =>
      free body List.mem_cons_self (Quiz.infix_body_of_html hq inside)
    have later_free := ih later_plain (fun t ht => parsed t (List.mem_cons_of_mem _ ht))
      (fun t ht => free t (List.mem_cons_of_mem _ ht)) (id + Document.quizzesIn body)
    have html_seam : Apart (q.html id) (later.splice (id + Document.quizzesIn body)) :=
      Quiz.apart_html_left [] q id _
    rw [splice, Document.fragment, hq, infix_append_iff (Quiz.apart_html_right gap q id _),
      infix_append_iff html_seam]
    simp [gap_plain, html_free, later_free]

end Layout

namespace Document

/-- Where every block holds a quiz, every outcome is one. -/
theorem outcomesFrom_isOk {blocks : List Block}
    (h : ∀ b ∈ blocks, ∃ q, Quiz.parse b.body = .ok q) (id sequence : Nat) :
    ∀ o ∈ outcomesFrom id sequence blocks, ∃ i, o.result = .ok i := by
  induction blocks generalizing id sequence with
  | nil => simp [outcomesFrom]
  | cons b later ih =>
    obtain ⟨q, hq⟩ := h b List.mem_cons_self
    intro o ho
    obtain rfl | ho := List.mem_cons.1 ho
    · exact ⟨id, by simp [hq, Except.map]⟩
    · exact ih (fun c hc => h c (List.mem_cons_of_mem _ hc)) _ _ o ho

/-- A marker that is neither outside the blocks nor in one is not in the rendered document. -/
theorem not_infix_render {m : Marker} {document : Text} {l : Layout} (h : l.text = document)
    (plain : l.Plain m) (parsed : ∀ b ∈ Block.all document, ∃ q, Quiz.parse b.body = .ok q)
    (free : ∀ body ∈ l.bodies, ¬ m.text <:+: body) : ¬ m.text <:+: (render document).text := by
  subst h
  rw [render_layout_text]
  exact Layout.not_infix_splice plain (Layout.forall_bodies_iff.2 parsed) free 0

theorem failures_eq_nil {r : Rendered} (h : ∀ o ∈ r.outcomes, ∃ i, o.result = .ok i) :
    r.failures = [] := by
  rw [Rendered.failures, List.filterMap_eq_nil_iff]
  intro o ho
  obtain ⟨i, result⟩ := h o ho
  simp [result]

theorem count_eq_length {r : Rendered} (h : ∀ o ∈ r.outcomes, ∃ i, o.result = .ok i) :
    r.count = r.outcomes.length := by
  rw [Rendered.count, List.filter_eq_self.2]
  intro o ho
  obtain ⟨i, result⟩ := h o ho
  simp [result, Except.isOk, Except.toBool]

end Document

namespace Page

variable {p : Page}

/-! ## What the check says -/

theorem mem_lint_iff (enabled : p.disabled = false) {i : Issue} :
    i ∈ p.lint ↔ i ∈ p.pairingIssues ∨ i ∈ p.blockIssues := by
  rw [lint, enabled]
  simp

variable (noError : ∀ i ∈ p.pairingIssues, i.severity ≠ .error)
include noError

/-- Without an error the machine meets each end marker with a quiz open. -/
theorem matched_of_noError :
    ∀ x ∈ trace none (occurrences p.body), x.1 = none → x.2.marker = .start := by
  rintro ⟨outer, o⟩ hx rfl
  cases marker : o.marker with
  | start => rfl
  | stop =>
    have reported := p.mem_pairingIssues_iff.2 (.inl ⟨o, hx, marker, rfl⟩)
    exact absurd rfl (noError _ reported)

/-- Without an error the machine leaves nothing open. -/
theorem closed_of_noError : leftOpen none (occurrences p.body) = none := by
  rw [(sectioned_all p.body).leftOpen_eq]
  cases loose : looseIn p.body with
  | none => rfl
  | some u =>
    have reported := p.mem_pairingIssues_iff.2 (.inr (.inr ⟨u, loose, rfl⟩))
    exact absurd rfl (noError _ reported)

/-- Without an error no marker is outside the blocks. -/
theorem plain_of_noError {l : Layout} (h : l.text = p.body) (m : Marker) : l.Plain m := by
  refine l.plain_of_run 0 ?_ ?_ m <;> rw [h]
  · exact matched_of_noError noError
  · exact closed_of_noError noError

omit noError

/-- Without an issue the machine meets each start marker with nothing open. -/
theorem flat_of_no_issue (h : p.pairingIssues = []) :
    ∀ x ∈ trace none (occurrences p.body), x.2.marker = .start → x.1 = none := by
  rintro ⟨outer, o⟩ hx starts
  cases outer with
  | none => rfl
  | some u =>
    have reported := p.mem_pairingIssues_iff.2 (.inr (.inl ⟨u, o, hx, starts, rfl⟩))
    rw [h] at reported
    cases reported

theorem parsed_of_noError (h : ∀ i ∈ p.blockIssues, i.severity ≠ .error) :
    ∀ b ∈ Block.all p.body, ∃ q, Quiz.parse b.body = .ok q := by
  intro b hb
  cases parsed : Quiz.parse b.body with
  | ok q => exact ⟨q, rfl⟩
  | error e =>
    refine absurd rfl (h ⟨.error, ⟨e.code, e.message⟩, p.path, b.startLine + p.lineOffset⟩ ?_)
    exact List.mem_filterMap.2 ⟨b, hb, by simp [parsed]⟩

/-! ## What is rendered -/

theorem failures_eq_zero (enabled : p.disabled = false)
    (rendered : (Document.render p.body).failures = []) (assets : Option Assets) :
    (p.render assets).failures = 0 := by
  have body : p.renderedBody = Document.render p.body := by simp [renderedBody, enabled]
  simp [PageOutput.failures, render, body, rendered, errorCount, item, Item.ofPage, Item.isError]

/-- **Clean pages**: if checking an enabled page finds no error, every block is rendered and the
rendered body holds no end marker, so that a second pass finds nothing in it. If checking finds
nothing at all, the rendered body holds no start marker either. -/
theorem render_of_lint (p : Page) (enabled : p.disabled = false)
    (noError : ∀ i ∈ p.lint, i.severity ≠ .error) :
    let rendered := Document.render p.body
    rendered.count = (Block.all p.body).length ∧
    (∀ assets, (p.render assets).failures = 0) ∧
    ¬ stop.text <:+: rendered.text ∧
    Block.all rendered.text = [] ∧
    Document.render rendered.text = ⟨rendered.text, []⟩ ∧
    (p.lint = [] → ¬ start.text <:+: rendered.text) := by
  intro rendered
  have pairing : ∀ i ∈ p.pairingIssues, i.severity ≠ .error := fun i hi =>
    noError i ((mem_lint_iff enabled).2 (.inl hi))
  have parsed := parsed_of_noError fun i hi => noError i ((mem_lint_iff enabled).2 (.inr hi))
  have ok : ∀ o ∈ rendered.outcomes, ∃ i, o.result = .ok i := by
    rw [show rendered = Document.render p.body from rfl, Document.render_outcomes]
    exact Document.outcomesFrom_isOk parsed 0 0
  obtain ⟨l, text_eq⟩ := Layout.exists_text_eq p.body
  have plain := plain_of_noError pairing text_eq
  have stop_free : ¬ stop.text <:+: rendered.text :=
    Document.not_infix_render text_eq (plain .stop) parsed Layout.stop_free_of_mem
  have blockless := blockless_of_stop_free stop_free
  refine ⟨?_, failures_eq_zero enabled (Document.failures_eq_nil ok), stop_free,
    Block.allFrom_of_blockless _ 0 blockless, Document.render_of_blockless blockless, ?_⟩
  · rw [Document.count_eq_length ok, Document.render_outcomes, Document.length_outcomesFrom]
  · intro clean
    have none_reported : p.pairingIssues = [] := by
      refine List.eq_nil_iff_forall_not_mem.2 fun i hi => ?_
      have := (mem_lint_iff enabled).2 (.inl hi)
      simp [clean] at this
    refine Document.not_infix_render text_eq (plain .start) parsed (l.start_free_of_run 0 ?_)
    rw [text_eq]
    exact flat_of_no_issue none_reported

/-- A page with a start marker in a question, which is worth a warning. -/
def nestedPage : Page where
  path := "page.md"
  metadata := none
  frontMatter := []
  body := "<?quiz?>\nquestion: <?quiz?>\nanswer: a\ncontent:\n<?/quiz?>"

theorem render_of_lint_nestedPage :
    nestedPage.lint ≠ [] ∧ nestedPage.disabled = false ∧
    (∀ i ∈ nestedPage.lint, i.severity ≠ .error) ∧
    ¬ stop.text <:+: (Document.render nestedPage.body).text :=
  have enabled : nestedPage.disabled = false := by decide +kernel
  have noError : ∀ i ∈ nestedPage.lint, i.severity ≠ .error := by decide +kernel
  ⟨by decide +kernel, enabled, noError, (render_of_lint nestedPage enabled noError).2.2.1⟩

end Page
end QuizPages
