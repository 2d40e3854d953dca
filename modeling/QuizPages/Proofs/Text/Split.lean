import QuizPages.Text.Basic

/-!
# Splitting at a character

Splitting and joining are inverse to each other on pieces without the separator, and what is split off
at a separator is split on its own.
-/

namespace QuizPages.Text

variable {sep : Char}

theorem splitAt_append (sep : Char) (s t : Text) :
    splitAt sep (s ++ sep :: t) = splitAt sep s ++ splitAt sep t := by
  induction s with
  | nil => simp [splitAt]
  | cons c s ih =>
    by_cases h : c = sep
    · simp [splitAt, h, ih]
    · obtain ⟨p, ps, cut⟩ := List.exists_cons_of_ne_nil (splitAt_ne_nil sep s)
      simp [splitAt, h, ih, cut]

theorem splitAt_of_notMem {t : Text} (h : sep ∉ t) : splitAt sep t = [t] := by
  induction t with
  | nil => rfl
  | cons c t ih =>
    obtain ⟨other, later⟩ := List.ne_and_not_mem_of_not_mem_cons h
    rw [splitAt, if_neg other.symm, ih later]

theorem notMem_of_mem_splitAt {t p : Text} (h : p ∈ splitAt sep t) : sep ∉ p := by
  induction t generalizing p with
  | nil =>
    rw [List.mem_singleton.1 h]
    exact List.not_mem_nil
  | cons c t ih =>
    rw [splitAt] at h
    split at h
    · rcases List.mem_cons.1 h with rfl | later
      · exact List.not_mem_nil
      · exact ih later
    · rename_i other
      obtain ⟨q, qs, cut⟩ := List.exists_cons_of_ne_nil (splitAt_ne_nil sep t)
      rw [cut] at h ih
      rcases List.mem_cons.1 h with rfl | later
      · exact List.not_mem_cons_of_ne_of_not_mem (Ne.symm other) (ih List.mem_cons_self)
      · exact ih (List.mem_cons_of_mem q later)

theorem join_cons {ps : List Text} (h : ps ≠ []) (p : Text) :
    join [sep] (p :: ps) = p ++ sep :: join [sep] ps := by
  rw [join, List.append_assoc, List.singleton_append]
  exact h

theorem join_concat {ps : List Text} (h : ps ≠ []) (p : Text) :
    join [sep] (ps ++ [p]) = join [sep] ps ++ sep :: p := by
  induction ps with
  | nil => exact absurd rfl h
  | cons q ps ih =>
    rcases ps with - | ⟨q', ps⟩
    · exact join_cons (List.cons_ne_nil p []) q
    · rw [List.cons_append, join_cons (by simp), ih (List.cons_ne_nil q' ps),
        join_cons (List.cons_ne_nil q' ps), List.append_assoc, List.cons_append]

theorem splitAt_join {ps : List Text} (nonempty : ps ≠ []) (free : ∀ p ∈ ps, sep ∉ p) :
    splitAt sep (join [sep] ps) = ps := by
  induction ps with
  | nil => exact absurd rfl nonempty
  | cons p ps ih =>
    obtain ⟨here, later⟩ := List.forall_mem_cons.1 free
    rcases ps with - | ⟨q, qs⟩
    · exact splitAt_of_notMem here
    · rw [join_cons (List.cons_ne_nil q qs), splitAt_append, splitAt_of_notMem here,
        ih (List.cons_ne_nil q qs) later, List.singleton_append]

theorem join_splitAt (sep : Char) (t : Text) : join [sep] (splitAt sep t) = t := by
  induction t with
  | nil => rfl
  | cons c t ih =>
    obtain ⟨p, ps, cut⟩ := List.exists_cons_of_ne_nil (splitAt_ne_nil sep t)
    rw [splitAt]
    split
    · rename_i same
      rw [join_cons (splitAt_ne_nil sep t), ih, same, List.nil_append]
    · rw [cut] at ih ⊢
      rw [← ih]
      cases ps <;> simp [join]

theorem mem_join_iff {c : Char} {ps : List Text} (other : c ≠ sep) :
    c ∈ join [sep] ps ↔ ∃ p ∈ ps, c ∈ p := by
  fun_induction join [sep] ps with
  | case1 => simp
  | case2 p => simp
  | case3 p ps _ ih => simp [ih, other]

/-- Every character but the separator lies in a piece. -/
theorem exists_mem_splitAt_iff {c : Char} {t : Text} (other : c ≠ sep) :
    (∃ p ∈ splitAt sep t, c ∈ p) ↔ c ∈ t := by
  rw [← mem_join_iff other, join_splitAt]

end QuizPages.Text
