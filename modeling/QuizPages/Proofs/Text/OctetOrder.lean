import QuizPages.Proofs.Text.Order
import QuizPages.Text.Utf8

/-!
# The order of octets

Texts are compared by code points, and files and directories by octets. Both orders are one
(`octets_lt_iff`): a character before another one has a form that comes before the form of the other, whatever
follows, because the first octet grows with the number of octets and the others hold what is left in base 64.
-/

namespace QuizPages.Text

/-- The four forms of a character, by its code point. -/
theorem utf8EncodeChar_cases (c : Char) :
    (c.toNat < 0x80 ∧ String.utf8EncodeChar c = [UInt8.ofNat c.toNat]) ∨
    (0x80 ≤ c.toNat ∧ c.toNat < 0x800 ∧ String.utf8EncodeChar c =
      [UInt8.ofNat (c.toNat / 64 + 192), UInt8.ofNat (c.toNat % 64 + 128)]) ∨
    (0x800 ≤ c.toNat ∧ c.toNat < 0x10000 ∧ String.utf8EncodeChar c =
      [UInt8.ofNat (c.toNat / 64 / 64 + 224), UInt8.ofNat (c.toNat / 64 % 64 + 128),
        UInt8.ofNat (c.toNat % 64 + 128)]) ∨
    (0x10000 ≤ c.toNat ∧ c.toNat < 0x110000 ∧ String.utf8EncodeChar c =
      [UInt8.ofNat (c.toNat / 64 / 64 / 64 + 240), UInt8.ofNat (c.toNat / 64 / 64 % 64 + 128),
        UInt8.ofNat (c.toNat / 64 % 64 + 128), UInt8.ofNat (c.toNat % 64 + 128)]) := by
  have limit : c.toNat < 0x110000 := by
    have valid := c.valid
    simp only [UInt32.isValidChar, Nat.isValidChar] at valid
    unfold Char.toNat
    omega
  have value : c.val.toNat = c.toNat := rfl
  simp only [String.utf8EncodeChar, value]
  generalize c.toNat = n at limit
  by_cases one : n ≤ 127
  · left
    rw [if_pos one]
    exact ⟨by omega, rfl⟩
  · right
    rw [if_neg one]
    by_cases two : n ≤ 2047
    · left
      rw [if_pos two, show n / 64 % 32 = n / 64 by omega]
      exact ⟨by omega, by omega, rfl⟩
    · right
      rw [if_neg two]
      by_cases three : n ≤ 65535
      · left
        rw [if_pos three, show n / 4096 % 16 = n / 64 / 64 by omega]
        exact ⟨by omega, by omega, rfl⟩
      · right
        rw [if_neg three, show n / 262144 % 8 = n / 64 / 64 / 64 by omega,
          show n / 4096 = n / 64 / 64 by omega]
        exact ⟨by omega, by omega, rfl⟩

theorem ofNat_cons_lt_iff {m n : Nat} (hm : m < 256) (hn : n < 256) (s t : Octets) :
    UInt8.ofNat m :: s < UInt8.ofNat n :: t ↔ m < n ∨ m = n ∧ s < t := by
  rw [List.cons_lt_cons_iff, UInt8.ofNat_lt_iff_lt hm hn, ← UInt8.toNat_inj, UInt8.toNat_ofNat',
    UInt8.toNat_ofNat', Nat.mod_eq_of_lt hm, Nat.mod_eq_of_lt hn]

/-- Different characters are told apart by their own octets. -/
theorem utf8EncodeChar_append_lt {c d : Char} (h : c.toNat < d.toNat) (s t : Octets) :
    String.utf8EncodeChar c ++ s < String.utf8EncodeChar d ++ t := by
  -- Of two characters with as many octets, the digits in base 64 decide, the first one first.
  rcases utf8EncodeChar_cases c with
    ⟨hc, form⟩ | ⟨hc, hc', form⟩ | ⟨hc, hc', form⟩ | ⟨hc, hc', form⟩ <;>
  rcases utf8EncodeChar_cases d with
    ⟨hd, form'⟩ | ⟨hd, hd', form'⟩ | ⟨hd, hd', form'⟩ | ⟨hd, hd', form'⟩ <;>
  rw [form, form'] <;> clear form form' <;>
  simp (disch := omega) only [List.cons_append, ofNat_cons_lt_iff] <;>
  omega

theorem octets_lt_of_compare {a b : Text} (h : compare a b = .lt) : octets a < octets b := by
  induction a generalizing b with
  | nil =>
    rcases b with - | ⟨y, b⟩
    · cases h
    · obtain ⟨o, os, form⟩ := List.exists_cons_of_ne_nil (String.utf8EncodeChar_ne_nil (c := y))
      rw [octets_cons, form]
      exact List.nil_lt_cons o _
  | cons x a ih =>
    rcases b with - | ⟨y, b⟩
    · cases h
    · rw [compare, Ordering.then_eq_lt, Nat.compare_eq_lt, Nat.compare_eq_eq] at h
      rw [octets_cons, octets_cons]
      rcases h with before | ⟨same, later⟩
      · exact utf8EncodeChar_append_lt before _ _
      · rw [Char.toNat_inj.1 same]
        exact List.append_left_lt (ih later)

/-- **Order of octets**: one text comes before another as its octets do. -/
theorem octets_lt_iff {a b : Text} : octets a < octets b ↔ compare a b = .lt := by
  refine ⟨fun h => ?_, octets_lt_of_compare⟩
  rcases result : compare a b
  · rfl
  · rw [compare_eq_iff.1 result] at h
    exact absurd h (List.lt_irrefl _)
  · have behind : compare b a = .lt := by
      rw [compare_swap, result]
      rfl
    exact absurd h (List.lt_asymm (octets_lt_of_compare behind))

end QuizPages.Text
