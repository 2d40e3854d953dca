import QuizPages.Text.Basic

/-!
# The order of texts

Texts are ordered by their first difference: of any two, one does not come after the other
(`le_total`), and what comes between two others does not change their order (`le_trans`). Only equal
texts are in one place (`compare_eq_iff`).
-/

namespace QuizPages.Text

theorem compare_swap (a b : Text) : compare a b = (compare b a).swap := by
  induction a generalizing b with
  | nil => cases b <;> rfl
  | cons x a ih =>
    rcases b with - | ⟨y, b⟩
    · rfl
    · rw [compare, compare, Ordering.swap_then, ← ih, ← Std.OrientedOrd.eq_swap]

theorem le_total (a b : Text) : le a b || le b a := by
  unfold le
  rw [compare_swap b a]
  cases compare a b <;> rfl

theorem le_cons_cons {x y : Char} {a b : Text} :
    le (x :: a) (y :: b) ↔ x.toNat < y.toNat ∨ (x.toNat = y.toNat ∧ le a b) := by
  rw [le, compare, ← Nat.compare_eq_lt, ← Nat.compare_eq_eq, le]
  cases Ord.compare x.toNat y.toNat <;> simp

theorem le_trans {a b c : Text} (ab : le a b) (bc : le b c) : le a c := by
  induction a generalizing b c with
  | nil => cases c <;> rfl
  | cons x a ih =>
    rcases b with - | ⟨y, b⟩
    · cases ab
    rcases c with - | ⟨z, c⟩
    · cases bc
    rw [le_cons_cons] at ab bc ⊢
    rcases ab with first | ⟨same, later⟩
    · left
      rcases bc with _ | _ <;> omega
    · rcases bc with first | ⟨same', later'⟩
      · left
        omega
      · exact .inr ⟨by omega, ih later later'⟩

instance : Std.TransCmp compare where
  eq_swap := compare_swap _ _
  isLE_trans := le_trans

theorem compare_eq_iff {a b : Text} : compare a b = .eq ↔ a = b := by
  induction a generalizing b with
  | nil => cases b <;> simp [compare]
  | cons x a ih =>
    rcases b with - | ⟨y, b⟩
    · simp [compare]
    · rw [compare, Ordering.then_eq_eq, Nat.compare_eq_eq, Char.toNat_inj, ih, List.cons_eq_cons]

/-- A text that need not come after another one comes before it. -/
theorem compare_eq_lt {a b : Text} (h : le a b) (other : a ≠ b) : compare a b = .lt := by
  unfold le at h
  rcases result : compare a b
  · rfl
  · exact absurd (compare_eq_iff.1 result) other
  · rw [result] at h
    cases h

end QuizPages.Text
