import QuizPages.Proofs.FileTree.Location

/-!
# Ways of paths

On its way to where it leads, a path leads through one place after another, one for each component. The
ways of the directories above it are part of that (`leadsThrough_of_isPrefix`, `isPrefix_of_mem_ancestors`).
Without links, an absolute path of names leads through nothing but what is above its place
(`isPrefix_of_leadsThrough`).
-/

namespace QuizPages
namespace Path

/-! ## Directories above -/

theorem exists_split_of_dropWhile {segments rest : List Text} {last : Text}
    (cut : segments.reverse.dropWhile isIdle = last :: rest) :
    isIdle last = false ∧ rest.reverse <+: segments ∧
      segments.filterMap component? = rest.reverse.filterMap component? ++ (component? last).toList := by
  have proper : isIdle last = false := by
    have := List.head?_dropWhile_not isIdle segments.reverse
    rw [cut] at this
    simpa using this
  have whole : segments =
      rest.reverse ++ last :: (segments.reverse.takeWhile isIdle).reverse := by
    have := List.takeWhile_append_dropWhile (p := isIdle) (l := segments.reverse)
    rw [cut] at this
    calc segments = segments.reverse.reverse := segments.reverse_reverse.symm
      _ = (segments.reverse.takeWhile isIdle ++ last :: rest).reverse := by rw [this]
      _ = _ := by simp
  have idle : (segments.reverse.takeWhile isIdle).reverse.filterMap component? = [] :=
    List.filterMap_eq_nil_iff.2 fun s hs => component?_of_idle
      (List.all_eq_true.1 List.all_takeWhile s (List.mem_reverse.1 hs))
  refine ⟨proper, ⟨_, whole.symm⟩, ?_⟩
  conv_lhs => rw [whole, List.filterMap_append]
  rcases named : component? last with - | c
  · rw [List.filterMap_cons_none named, idle, Option.toList_none]
  · rw [List.filterMap_cons_some named, idle, Option.toList_some]

/-- A path has one component more than the directory above it. -/
theorem components_of_parent? {p above : Path} (h : p.parent? = some above) :
    ∃ c, p.components = above.components ++ [c] := by
  have whole : p.components = p.split.1.toList ++ p.split.2.filterMap component? := rfl
  have begins {segments : List Text} (begin : segments <+: p.split.2) :=
    components_ofSplit_trimSegments begin
  rw [whole]
  rcases parts : p.split with ⟨front, segments⟩
  simp only [parts] at begins
  simp only [parent?, parts] at h
  rcases cut : segments.reverse.dropWhile isIdle with - | ⟨last, rest⟩
  · rcases front with - | (- | - | - | n) <;> simp only [cut] at h <;> cases h
    have none : segments.filterMap component? = [] := by
      rw [← List.reverse_reverse segments, List.filterMap_reverse, ← filterMap_dropWhile_idle, cut]
      rfl
    exact ⟨.here, by rw [none]; rfl⟩
  · simp only [cut] at h
    obtain rfl := Option.some.inj h
    obtain ⟨proper, before, steps⟩ := exists_split_of_dropWhile cut
    obtain ⟨c, named⟩ : ∃ c, component? last = some c := by
      rw [component?, if_neg (by simp [proper])]
      split
      · exact ⟨_, rfl⟩
      · exact ⟨_, rfl⟩
    refine ⟨c, ?_⟩
    rw [begins before, steps, named, List.append_assoc]
    rfl

/-- The paths above a path are those above the directory that it lies in, and that directory. -/
theorem ancestors_eq (p : Path) :
    p.ancestors = p :: (match p.parent? with
      | some above => above.ancestors
      | none => []) := by
  unfold ancestors
  rcases parent : p.parent? with - | above
  · cases p.components.length <;> simp only [pathsAbove, parent]
  · obtain ⟨c, whole⟩ := components_of_parent? parent
    rw [whole, List.length_append, List.length_singleton]
    simp only [pathsAbove, parent]

/-- The components of a path go on from those of each path above it. -/
theorem isPrefix_of_mem_ancestors {p q : Path} (h : q ∈ p.ancestors) : q.components <+: p.components := by
  unfold ancestors at h
  generalize p.components.length = more at h
  induction more generalizing p with
  | zero => exact List.mem_singleton.1 h ▸ List.prefix_rfl
  | succ more ih =>
    rw [pathsAbove] at h
    rcases List.mem_cons.1 h with rfl | h
    · exact List.prefix_rfl
    · rcases parent : p.parent? with - | above <;> rw [parent] at h
      · cases h
      · obtain ⟨c, whole⟩ := components_of_parent? parent
        rw [whole]
        exact (ih h).trans (List.prefix_append _ _)

/-! ## Names behind a path -/

theorem relative_of_names {p : Path} {names : List Text} (h : p.components = names.map .name) :
    p.front = [] ∧ p.isAbsolute = false ∧ p.steps = names.map .name := by
  rw [components_eq] at h
  unfold front at h ⊢
  by_cases absolute : p.isAbsolute
  · rw [if_pos absolute] at h
    cases names <;> cases h
  · rw [if_neg absolute] at h ⊢
    split at h
    · cases names <;> cases h
    · rename_i plain
      rw [if_neg plain]
      exact ⟨rfl, by simpa using absolute, h⟩

/-- A path that has only names goes on from where the base leads. -/
theorem components_join_of_names {p : Path} {names : List Text} (h : p.components = names.map .name)
    (base : Path) : (base.join p).components = base.components ++ names.map .name := by
  obtain ⟨bare, relative, steps⟩ := relative_of_names h
  rw [components_eq, components_eq, steps_join relative, steps]
  by_cases empty : base.text = []
  · rw [join_of_empty empty, bare, steps_of_empty empty, front, isAbsolute, empty]
    rfl
  · rw [front_join relative empty, List.append_assoc]

end Path

namespace FileTree

variable {t : FileTree} {p : Path} {place : Place}

/-! ## Through places -/

/-- Whether a path leads through a place, or to it. -/
def LeadsThrough (t : FileTree) (p : Path) (place : Place) : Prop :=
  ∃ cs, cs ≠ [] ∧ cs <+: p.components ∧ t.lead maxLinks t.current cs = some place

theorem leadsThrough_of_leads (moved : p.components ≠ []) (h : t.leads p = some place) :
    t.LeadsThrough p place :=
  ⟨p.components, moved, List.prefix_rfl, h⟩

theorem leadsThrough_of_isPrefix {above : Path} (h : above.components <+: p.components)
    (through : t.LeadsThrough above place) : t.LeadsThrough p place := by
  obtain ⟨cs, moved, begin, led⟩ := through
  exact ⟨cs, moved, begin.trans h, led⟩

/-- An absolute path of names leads through nothing but what is above the place of all its names, if it meets
no link. -/
theorem isPrefix_of_leadsThrough (linkless : t.Linkless) {names : List Text}
    (h : p.components = .root :: names.map .name) (through : t.LeadsThrough p place) : place <+: names := by
  obtain ⟨cs, moved, begin, led⟩ := through
  rw [lead_of_linkless linkless] at led
  obtain rfl := Option.some.inj led
  rw [h] at begin
  obtain ⟨c, cs, rfl⟩ := List.exists_cons_of_ne_nil moved
  obtain ⟨rfl, rest, whole⟩ := List.cons_prefix_cons.1 begin
  obtain ⟨m, m', rfl, rfl, -⟩ := List.map_eq_append_iff.1 whole.symm
  rw [List.foldl_cons, Path.foldl_follow_names]
  exact List.prefix_append m m'

end FileTree
end QuizPages
