/-!
# Stable sorting

A stable sort commutes with filters (`filter_mergeSort`). Where elements that need not come after each other
are those with one key, it keeps the elements of each key in their order (`filter_key_mergeSort`), and there
is only one sorted list that has them so (`eq_of_filter_key_eq`).
-/

namespace QuizPages

section Sorting

variable {α : Type} {le : α → α → Bool}

/-! ## Elements with one key -/

section Keys

variable {κ : Type} [DecidableEq κ] {key : α → κ}

theorem mem_of_filter_key_eq {l m : List α}
    (same : ∀ k, l.filter (key · = k) = m.filter (key · = k)) {a : α} (mem : a ∈ l) : a ∈ m := by
  have kept : a ∈ l.filter (key · = key a) := List.mem_filter.2 ⟨mem, decide_eq_true rfl⟩
  rw [same] at kept
  exact (List.mem_filter.1 kept).1

/-- Lists that have the same elements of each key have them behind equal first elements. -/
theorem filter_key_of_cons {a : α} {l m : List α}
    (same : ∀ k, (a :: l).filter (key · = k) = (a :: m).filter (key · = k)) (k : κ) :
    l.filter (key · = k) = m.filter (key · = k) := by
  have whole := same k
  rw [List.filter_cons, List.filter_cons] at whole
  split at whole
  · exact (List.cons_eq_cons.1 whole).2
  · exact whole

/-- Sorted lists that have the same elements of each key, in the same order, are equal. -/
theorem eq_of_filter_key_eq (total : ∀ a b, le a b || le b a)
    (apart : ∀ a b, le a b → le b a → key a = key b) {l m : List α}
    (l_sorted : l.Pairwise fun a b => le a b) (m_sorted : m.Pairwise fun a b => le a b)
    (same : ∀ k, l.filter (key · = k) = m.filter (key · = k)) : l = m := by
  have head_le : ∀ {a b : α} {xs : List α}, (a :: xs).Pairwise (fun a b => le a b) → b ∈ a :: xs →
      le a b := by
    intro a b xs sorted mem
    rcases List.mem_cons.1 mem with rfl | later
    · simpa using total b b
    · exact (List.pairwise_cons.1 sorted).1 b later
  induction l generalizing m with
  | nil =>
    rcases m with - | ⟨b, m⟩
    · rfl
    · exact absurd (mem_of_filter_key_eq (fun k => (same k).symm) List.mem_cons_self) List.not_mem_nil
  | cons a l ih =>
    rcases m with - | ⟨b, m⟩
    · exact absurd (mem_of_filter_key_eq same List.mem_cons_self) List.not_mem_nil
    · -- Neither head comes after the other, so they have one key, and each is the first one with it.
      have key_eq : key b = key a :=
        apart b a (head_le m_sorted (mem_of_filter_key_eq same List.mem_cons_self))
          (head_le l_sorted (mem_of_filter_key_eq (fun k => (same k).symm) List.mem_cons_self))
      have firsts := same (key a)
      simp only [List.filter_cons, key_eq, decide_true, if_true] at firsts
      obtain ⟨rfl, -⟩ := List.cons_eq_cons.1 firsts
      rw [ih (List.pairwise_cons.1 l_sorted).2 (List.pairwise_cons.1 m_sorted).2
        (filter_key_of_cons same)]

end Keys

/-! ## Parts of a sorted list -/

/-- Two lists of elements, those an element comes after and those it does not, are told apart in
what they make up together. -/
theorem eq_of_append_eq_append {a : α} {l₁ l₂ m₁ m₂ : List α} (same : m₁ ++ m₂ = l₁ ++ l₂)
    (l_before : ∀ b ∈ l₁, le a b = false) (l_after : ∀ b ∈ l₂, le a b = true)
    (m_before : ∀ b ∈ m₁, le a b = false) (m_after : ∀ b ∈ m₂, le a b = true) :
    m₁ = l₁ ∧ m₂ = l₂ := by
  have front : ∀ {xs ys : List α}, (∀ b ∈ xs, le a b = false) → (∀ b ∈ ys, le a b = true) →
      (xs ++ ys).filter (fun b => !le a b) = xs := by
    intro xs ys before after
    rw [List.filter_append, List.filter_eq_self.2 (by simpa using before),
      List.filter_eq_nil_iff.2 (by simpa using after), List.append_nil]
  have firsts : m₁ = l₁ := by
    rw [← front m_before m_after, same, front l_before l_after]
  subst firsts
  exact ⟨rfl, List.append_cancel_left same⟩

variable (trans : ∀ a b c, le a b → le b c → le a c) (total : ∀ a b, le a b || le b a)
include trans total

/-- Sorting keeps the first element in front of all it need not come after. -/
theorem exists_mergeSort_cons (a : α) (l : List α) :
    ∃ l₁ l₂, (a :: l).mergeSort le = l₁ ++ a :: l₂ ∧ l.mergeSort le = l₁ ++ l₂ ∧
      (∀ b ∈ l₁, le a b = false) ∧ ∀ b ∈ l₂, le a b = true := by
  obtain ⟨l₁, l₂, whole, rest, before⟩ := List.mergeSort_cons trans total a l
  have sorted := List.pairwise_mergeSort trans total (a :: l)
  rw [whole, List.pairwise_append, List.pairwise_cons] at sorted
  exact ⟨l₁, l₂, whole, rest, by simpa using before, sorted.2.1.1⟩

/-- A part of a sorted list is the part of the list, sorted. -/
theorem filter_mergeSort (p : α → Bool) (l : List α) :
    (l.mergeSort le).filter p = (l.filter p).mergeSort le := by
  induction l with
  | nil => simp
  | cons a l ih =>
    obtain ⟨l₁, l₂, whole, rest, before, after⟩ := exists_mergeSort_cons trans total a l
    rw [rest, List.filter_append] at ih
    by_cases kept : p a
    · -- The first element cuts the sorted part in two, and the sorted whole cuts it at that place.
      obtain ⟨m₁, m₂, whole', rest', before', after'⟩ :=
        exists_mergeSort_cons trans total a (l.filter p)
      obtain ⟨rfl, rfl⟩ := eq_of_append_eq_append (rest'.symm.trans ih.symm)
        (fun b hb => before b (List.mem_filter.1 hb).1)
        (fun b hb => after b (List.mem_filter.1 hb).1) before' after'
      rw [whole, List.filter_append, List.filter_cons_of_pos kept, List.filter_cons_of_pos kept,
        whole']
    · rw [whole, List.filter_append, List.filter_cons_of_neg kept, List.filter_cons_of_neg kept, ih]

/-- Sorting keeps the elements with one key in their order. -/
theorem filter_key_mergeSort {κ : Type} [DecidableEq κ] {key : α → κ}
    (tied : ∀ a b, key a = key b → le a b) (k : κ) (l : List α) :
    (l.mergeSort le).filter (key · = k) = l.filter (key · = k) := by
  have of_key : ∀ a ∈ l.filter (key · = k), key a = k := fun a mem =>
    of_decide_eq_true (List.mem_filter.1 mem).2
  rw [filter_mergeSort trans total]
  apply List.mergeSort_of_pairwise
  apply List.pairwise_of_forall_mem_list
  intro a ha b hb
  exact tied a b ((of_key a ha).trans (of_key b hb).symm)

end Sorting

end QuizPages
