import Mathlib.Algebra.Order.Group.Multiset
import Mathlib.Data.List.Flatten
import Mathlib.Data.List.Perm.Subperm
import QuizPages.Proofs.Page.Agreement

/-!
# Where the errors of a report are

Reports differ in what they say about an error and in their order. What they have in common is the spot of an
error: the page, the first line and the code. The list of quizzes of a page and the report on the rendered page
have errors at the same spots, each as often; the issues of the page have these and more:
`errorSpots_render`, `errorSpots_list_le`.
-/

namespace QuizPages

/-- Where something is reported: the page, the first line and the codes of what is wrong. -/
structure Spot where
  path : Option Text
  line : Option UInt32
  codes : List Text
  deriving DecidableEq, Repr

def Item.spot (i : Item) : Spot := ⟨i.path, i.range.map (·.start), i.faults.map (·.code)⟩

/-- The spots of the errors among items, each as often as it is reported. -/
def errorSpots (items : List Item) : Multiset Spot := (items.filter Item.isError).map Item.spot

/-! ## Lists of items -/

theorem card_errorSpots (items : List Item) : (errorSpots items).card = errorCount items := by
  rw [errorSpots, Multiset.coe_card, List.length_map, errorCount]

theorem errorSpots_append (items later : List Item) :
    errorSpots (items ++ later) = errorSpots items + errorSpots later := by
  rw [errorSpots, List.filter_append, List.map_append, ← Multiset.coe_add, errorSpots, errorSpots]

theorem errorSpots_eq_zero {items : List Item} (h : items.filter Item.isError = []) :
    errorSpots items = 0 := by
  rw [errorSpots, h]
  rfl

/-- Some of the items have some of the errors. -/
theorem errorSpots_le_of_subperm {items items' : List Item} (h : items.Subperm items') :
    errorSpots items ≤ errorSpots items' := by
  have part := Multiset.map_le_map (f := Item.spot) (Multiset.coe_le.2 (h.filter Item.isError))
  exact part

theorem errorSpots_perm {items items' : List Item} (h : items.Perm items') :
    errorSpots items = errorSpots items' :=
  le_antisymm (errorSpots_le_of_subperm h.subperm) (errorSpots_le_of_subperm h.symm.subperm)

section Gathering

variable {α : Type} {told told' : α → List Item}

theorem errorSpots_flatMap_le (h : ∀ a, errorSpots (told a) ≤ errorSpots (told' a)) (l : List α) :
    errorSpots (l.flatMap told) ≤ errorSpots (l.flatMap told') := by
  induction l with
  | nil => exact le_refl _
  | cons a l ih =>
    rw [List.flatMap_cons, List.flatMap_cons, errorSpots_append, errorSpots_append]
    exact add_le_add (h a) ih

theorem errorSpots_flatMap_congr (h : ∀ a, errorSpots (told a) = errorSpots (told' a)) (l : List α) :
    errorSpots (l.flatMap told) = errorSpots (l.flatMap told') :=
  le_antisymm (errorSpots_flatMap_le (fun a => (h a).le) l)
    (errorSpots_flatMap_le (fun a => (h a).ge) l)

theorem flatMap_subperm {l l' : List α} (h : l.Subperm l') (told : α → List Item) :
    (l.flatMap told).Subperm (l'.flatMap told) := by
  obtain ⟨part, same, sub⟩ := h
  exact (same.symm.flatMap_right told).subperm.trans (sub.flatMap told).subperm

end Gathering

namespace Page

variable {p : Page}

/-! ## The errors of a page -/

/-- The spots of the blocks that were left in place. -/
def failureSpots (p : Page) : List Spot :=
  (Document.render p.body).failures.map fun (o, e) =>
    ⟨some p.path, some (o.startLine + p.lineOffset), [e.code]⟩

theorem errorSpots_list (p : Page) : errorSpots p.list = p.failureSpots := by
  have errors : p.list.filter Item.isError = (p.list.zipIdx.filter (·.1.isError)).map Prod.fst := by
    conv =>
      lhs
      rw [← List.zipIdx_map_fst 0 p.list, List.filter_map]
    rfl
  rw [errorSpots, errors, list_filter_isError, List.map_map, List.map_map]
  rfl

theorem errorSpots_render_of_enabled (enabled : p.disabled = false) (assets : Option Assets) :
    errorSpots (p.render assets).items = p.failureSpots := by
  rw [errorSpots, render_filter_isError enabled, List.map_map]
  rfl

/-- Nothing fails on a page that is left as it is. -/
theorem render_filter_isError_of_disabled (disabled : p.disabled = true) (assets : Option Assets) :
    (p.render assets).items.filter Item.isError = [] := by
  rw [render, renderedBody, disabled, if_pos rfl]
  rfl

theorem errorSpots_render_of_disabled (disabled : p.disabled = true) (assets : Option Assets) :
    errorSpots (p.render assets).items = 0 :=
  errorSpots_eq_zero (render_filter_isError_of_disabled disabled assets)

theorem errorSpots_blockIssues (p : Page) :
    errorSpots (p.blockIssues.map Issue.item) = p.failureSpots := by
  rw [blockIssues_eq_failures, errorSpots, List.filter_eq_self.2, List.map_map, List.map_map]
  · rfl
  · intro i hi
    obtain ⟨issue, mem, rfl⟩ := List.mem_map.1 hi
    obtain ⟨⟨o, e⟩, -, rfl⟩ := List.mem_map.1 mem
    rfl

/-- Every block that holds no quiz is an issue. -/
theorem failureSpots_le_lint (enabled : p.disabled = false) :
    p.failureSpots ≤ errorSpots (p.lint.map Issue.item) := by
  rw [← errorSpots_blockIssues]
  apply errorSpots_le_of_subperm
  have sorted := (List.mergeSort_perm p.blockIssues byLine).symm
  rw [← lint_filter enabled] at sorted
  exact (sorted.map Issue.item).subperm.trans (List.filter_sublist.map Issue.item).subperm

theorem lint_of_disabled (disabled : p.disabled = true) : p.lint = [] := by
  rw [lint, disabled, if_pos rfl]

end Page
end QuizPages
