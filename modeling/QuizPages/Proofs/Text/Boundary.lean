import QuizPages.Proofs.Text.OctetOrder

/-!
# Cutting octets between characters

An octet tells whether a character starts with it, so the octets of a text show where its characters meet:
just at the sizes of its leading parts (`isBoundary_octets_iff`). Going back from any offset to such a place
ends after three octets at most, and what is in front of it is the longest leading part that fits
(`backToBoundary_octets`). So a text that is cut there is cut as `Text.truncate` does it
(`truncate?_octets`, `truncates`).
-/

namespace QuizPages

namespace Utf8

/-- Whether a character may start with an octet; the others go on with one. -/
def isLead (b : UInt8) : Bool := b < 0x80 || 0xC0 ≤ b

/-- Whether an offset lies between characters: at one of the ends, or in front of an octet that a character
starts with. -/
def isBoundary (bs : Octets) (n : Nat) : Bool :=
  n == 0 ||
    match bs[n]? with
    | some b => isLead b
    | none => n == bs.length

/-- Goes back from an offset, octet by octet, until it lies between characters. -/
def backToBoundary (bs : Octets) : Nat → Nat
  | 0 => 0
  | n + 1 => if isBoundary bs (n + 1) then n + 1 else backToBoundary bs n

/-- The octets in front of an offset; `none` if it does not lie between characters. -/
def upTo? (bs : Octets) (n : Nat) : Option Octets := if isBoundary bs n then some (bs.take n) else none

/-- Octets cut where a character ends, with at most `limit` of them left, and whether anything was cut off. -/
def truncate? (bs : Octets) (limit : Nat) : Option (Octets × Bool) :=
  if bs.length ≤ limit then some (bs, false)
  else (upTo? bs (backToBoundary bs limit)).map fun front => (front, true)

/-! ## Going back -/

theorem isBoundary_zero (bs : Octets) : isBoundary bs 0 = true := rfl

theorem isBoundary_backToBoundary (bs : Octets) (n : Nat) :
    isBoundary bs (backToBoundary bs n) = true := by
  induction n with
  | zero => exact isBoundary_zero bs
  | succ n ih =>
    rw [backToBoundary]
    split
    · assumption
    · exact ih

theorem backToBoundary_le (bs : Octets) (n : Nat) : backToBoundary bs n ≤ n := by
  induction n with
  | zero => exact Nat.le_refl 0
  | succ n ih =>
    rw [backToBoundary]
    split
    · exact Nat.le_refl _
    · omega

/-- No place between characters is passed on the way back. -/
theorem le_backToBoundary {bs : Octets} {m n : Nat} (boundary : isBoundary bs m = true) (h : m ≤ n) :
    m ≤ backToBoundary bs n := by
  induction n with
  | zero => exact h
  | succ n ih =>
    rw [backToBoundary]
    split
    · exact h
    · rename_i inside
      have other : m ≠ n + 1 := by
        rintro rfl
        exact inside boundary
      exact ih (by omega)

/-! ## The octets of a text -/

theorem isLead_ofNat {n : Nat} (h : n < 0x80 ∨ 0xC0 ≤ n ∧ n < 0x100) : isLead (UInt8.ofNat n) = true := by
  have octet : (UInt8.ofNat n).toNat = n := UInt8.toNat_ofNat_of_lt' (show n < 256 by omega)
  rw [isLead, Bool.or_eq_true, decide_eq_true_eq, decide_eq_true_eq, UInt8.lt_iff_toNat_lt,
    UInt8.le_iff_toNat_le, octet]
  simp only [UInt8.reduceToNat]
  omega

theorem isLead_tail (n : Nat) : isLead (UInt8.ofNat (n % 64 + 128)) = false := by
  have octet : (UInt8.ofNat (n % 64 + 128)).toNat = n % 64 + 128 :=
    UInt8.toNat_ofNat_of_lt' (show n % 64 + 128 < 256 by omega)
  rw [isLead, Bool.or_eq_false_iff, decide_eq_false_iff_not, decide_eq_false_iff_not,
    UInt8.lt_iff_toNat_lt, UInt8.le_iff_toNat_le, octet]
  simp only [UInt8.reduceToNat]
  omega

/-- A character starts with an octet that tells so, and goes on with octets that do not. -/
theorem exists_lead_encode (c : Char) :
    ∃ a tail, String.utf8EncodeChar c = a :: tail ∧ isLead a = true ∧ ∀ b ∈ tail, isLead b = false := by
  have nothing : ∀ b ∈ ([] : Octets), isLead b = false := List.forall_mem_nil _
  obtain ⟨h, form⟩ | ⟨h, h', form⟩ | ⟨h, h', form⟩ | ⟨h, h', form⟩ := Text.utf8EncodeChar_cases c
  · exact ⟨_, _, form, isLead_ofNat (.inl h), nothing⟩
  · refine ⟨_, _, form, isLead_ofNat (by omega), ?_⟩
    exact List.forall_mem_cons.2 ⟨isLead_tail _, nothing⟩
  · refine ⟨_, _, form, isLead_ofNat (by omega), ?_⟩
    exact List.forall_mem_cons.2 ⟨isLead_tail _, List.forall_mem_cons.2 ⟨isLead_tail _, nothing⟩⟩
  · refine ⟨_, _, form, isLead_ofNat (by omega), ?_⟩
    exact List.forall_mem_cons.2 ⟨isLead_tail _,
      List.forall_mem_cons.2 ⟨isLead_tail _, List.forall_mem_cons.2 ⟨isLead_tail _, nothing⟩⟩⟩

/-- Behind the first of two parts an offset lies between characters where it does in the second. -/
theorem isBoundary_append (x y : Octets) {n : Nat} (h : 0 < n) :
    isBoundary (x ++ y) (x.length + n) = isBoundary y n := by
  have behind : (x ++ y)[x.length + n]? = y[n]? := by
    rw [List.getElem?_append_right (Nat.le_add_right _ _), Nat.add_sub_cancel_left]
  have first : (n == 0) = false := by
    rw [beq_eq_false_iff_ne]
    omega
  have first' : (x.length + n == 0) = false := by
    rw [beq_eq_false_iff_ne]
    omega
  have last : (x.length + n == (x ++ y).length) = (n == y.length) := by
    rw [List.length_append, Bool.eq_iff_iff, beq_iff_eq, beq_iff_eq]
    omega
  rw [isBoundary, isBoundary, behind, first, first', last]

/-- Inside a character nothing lies between characters. -/
theorem isBoundary_inside {c : Char} {n : Nat} (some_octet : 0 < n) (h : n < c.utf8Size) (y : Octets) :
    isBoundary (String.utf8EncodeChar c ++ y) n = false := by
  obtain ⟨a, tail, form, -, rest⟩ := exists_lead_encode c
  have size : tail.length + 1 = c.utf8Size := by
    rw [← String.length_utf8EncodeChar, form, List.length_cons]
  obtain ⟨k, rfl⟩ : ∃ k, n = k + 1 := ⟨n - 1, by omega⟩
  have k_lt : k < tail.length := by omega
  have octet : (a :: tail ++ y)[k + 1]? = some tail[k] := by
    rw [List.cons_append, List.getElem?_cons_succ, List.getElem?_append_left k_lt,
      List.getElem?_eq_getElem k_lt]
  rw [form, isBoundary, octet]
  exact rest _ (List.getElem_mem k_lt)

theorem isBoundary_size {u t : Text} (h : u <+: t) : isBoundary t.octets u.size = true := by
  obtain ⟨v, rfl⟩ : ∃ v : Text, u ++ v = t := h
  have behind : (u.octets ++ v.octets)[u.size]? = v.octets[0]? := by
    rw [← Text.length_octets, List.getElem?_append_right (Nat.le_refl _), Nat.sub_self]
  rw [Text.octets_append, isBoundary, behind, Bool.or_eq_true]
  right
  rcases v with - | ⟨c, v⟩
  · simp [Text.length_octets]
  · obtain ⟨a, tail, form, lead, -⟩ := exists_lead_encode c
    rw [Text.octets_cons, form]
    exact lead

/-- **Boundaries**: an offset lies between characters exactly if a leading part of the text ends there. -/
theorem isBoundary_octets_iff {t : Text} {n : Nat} :
    isBoundary t.octets n = true ↔ ∃ u : Text, u <+: t ∧ u.size = n := by
  constructor
  · intro h
    induction t generalizing n with
    | nil =>
      have none_behind : (Text.octets [])[n]? = none := rfl
      rw [isBoundary, none_behind] at h
      have start : n = 0 := by simpa using h
      exact ⟨[], List.prefix_rfl, start.symm⟩
    | cons c cs ih =>
      rcases Nat.eq_zero_or_pos n with rfl | some_octet
      · exact ⟨[], List.nil_prefix, rfl⟩
      · -- The octets inside the first character start none, so the offset is at its end or behind it.
        rcases Nat.lt_trichotomy n c.utf8Size with inside | rfl | behind
        · rw [Text.octets_cons, isBoundary_inside some_octet inside] at h
          cases h
        · exact ⟨[c], List.prefix_append [c] cs, rfl⟩
        · obtain ⟨k, rfl⟩ : ∃ k, n = c.utf8Size + k := ⟨n - c.utf8Size, by omega⟩
          rw [Text.octets_cons, ← String.length_utf8EncodeChar, isBoundary_append _ _ (by omega)] at h
          obtain ⟨u, begins, size⟩ := ih h
          exact ⟨c :: u, List.cons_prefix_cons.2 ⟨rfl, begins⟩, by rw [Text.size_cons, size]⟩
  · rintro ⟨u, begins, rfl⟩
    exact isBoundary_size begins

end Utf8

namespace Text

/-! ## The longest leading part -/

theorem takeOctets_isPrefix (room : Nat) (t : Text) : takeOctets room t <+: t :=
  ⟨dropOctets room t, takeOctets_append_dropOctets room t⟩

theorem size_takeOctets_le (room : Nat) (t : Text) : (takeOctets room t).size ≤ room := by
  induction t generalizing room with
  | nil => exact Nat.zero_le room
  | cons c cs ih =>
    rw [takeOctets]
    split
    · have later := ih (room - c.utf8Size)
      rw [size_cons]
      omega
    · exact Nat.zero_le room

/-- A leading part that fits is part of the longest one. -/
theorem isPrefix_takeOctets {u t : Text} {room : Nat} (h : u <+: t) (fits : u.size ≤ room) :
    u <+: takeOctets room t := by
  induction t generalizing u room with
  | nil =>
    rw [List.prefix_nil.1 h]
    exact List.nil_prefix
  | cons c cs ih =>
    rcases u with - | ⟨d, u⟩
    · exact List.nil_prefix
    · obtain ⟨rfl, later⟩ := List.cons_prefix_cons.1 h
      rw [size_cons] at fits
      rw [takeOctets, if_pos (by omega)]
      exact List.cons_prefix_cons.2 ⟨rfl, ih later (by omega)⟩

theorem size_le_of_isPrefix {u t : Text} (h : u <+: t) : u.size ≤ t.size := by
  obtain ⟨v, rfl⟩ := h
  rw [size_append]
  omega

theorem takeOctets_of_size_le {t : Text} {room : Nat} (h : t.size ≤ room) : takeOctets room t = t := by
  have whole : t <+: takeOctets room t := isPrefix_takeOctets List.prefix_rfl h
  exact (takeOctets_isPrefix room t).eq_of_length_le whole.length_le

/-- The next character would not fit, and it has four octets at most. -/
theorem le_size_takeOctets {t : Text} {room : Nat} (h : room < t.size) :
    room ≤ (takeOctets room t).size + 3 := by
  have whole := takeOctets_append_dropOctets room t
  rcases dropped : dropOctets room t with - | ⟨c, rest⟩
  · have fits := size_takeOctets_le room t
    rw [dropped, List.append_nil] at whole
    rw [whole] at fits
    omega
  · rw [dropped] at whole
    have one_more : takeOctets room t ++ [c] <+: t := ⟨rest, by rw [List.append_assoc]; exact whole⟩
    have size : (takeOctets room t ++ [c]).size = (takeOctets room t).size + c.utf8Size := by
      rw [size_append, size_cons, size_nil, Nat.add_zero]
    have at_most := c.utf8Size_le_four
    rcases Nat.lt_or_ge room ((takeOctets room t).size + c.utf8Size) with beyond | fits
    · omega
    · have longer := (isPrefix_takeOctets one_more (Nat.le_trans (Nat.le_of_eq size) fits)).length_le
      rw [List.length_append, List.length_singleton] at longer
      omega

/-! ## Cutting a text -/

open Utf8

/-- **Going back**: the way back from a limit ends where the longest leading part that fits does. -/
theorem backToBoundary_octets (t : Text) (limit : Nat) :
    backToBoundary t.octets limit = (takeOctets limit t).size := by
  apply Nat.le_antisymm
  · obtain ⟨u, begins, size⟩ := isBoundary_octets_iff.1 (isBoundary_backToBoundary t.octets limit)
    rw [← size]
    have fits : u.size ≤ limit := by
      rw [size]
      exact backToBoundary_le t.octets limit
    exact size_le_of_isPrefix (isPrefix_takeOctets begins fits)
  · exact le_backToBoundary (isBoundary_size (takeOctets_isPrefix limit t)) (size_takeOctets_le limit t)

theorem upTo?_size {u t : Text} (h : u <+: t) : upTo? t.octets u.size = some u.octets := by
  rw [upTo?, if_pos (isBoundary_size h)]
  obtain ⟨v, rfl⟩ : ∃ v : Text, u ++ v = t := h
  rw [octets_append, ← length_octets, List.take_left]

/-- **Cutting**: octets of a text can be cut, and what is left are those of the text that is cut. -/
theorem truncate?_octets (t : Text) (limit : Nat) :
    truncate? t.octets limit = some ((t.truncate limit).1.octets, (t.truncate limit).2) := by
  unfold Utf8.truncate? Text.truncate
  rw [length_octets]
  by_cases fits : t.size ≤ limit
  · rw [if_pos fits, takeOctets_of_size_le fits, decide_eq_false (Nat.not_lt.2 fits)]
  · rw [if_neg fits, backToBoundary_octets, upTo?_size (takeOctets_isPrefix limit t),
      decide_eq_true (Nat.not_le.1 fits)]
    rfl

example : Utf8.truncate? (Text.octets "aé") 2 = some ([0x61], true) := by decide

/-- A leading part of a text, and whether it is less than the text: the longest one that ends between
characters and has at most `limit` octets. -/
structure Truncates (t : Text) (limit : Nat) (part : Text) (cut : Bool) : Prop where
  isPrefix : part <+: t
  boundary : isBoundary t.octets part.size = true
  fits : part.size ≤ limit
  longest : ∀ n, isBoundary t.octets n = true → n ≤ limit → n ≤ part.size
  cut_iff : cut = true ↔ limit < t.size
  /-- What is cut off in front of the limit is less than a character. -/
  near : cut = true → limit ≤ part.size + 3

theorem truncates (t : Text) (limit : Nat) :
    Truncates t limit (t.truncate limit).1 (t.truncate limit).2 where
  isPrefix := takeOctets_isPrefix limit t
  boundary := isBoundary_size (takeOctets_isPrefix limit t)
  fits := size_takeOctets_le limit t
  longest n boundary fits := by
    obtain ⟨u, begins, rfl⟩ := isBoundary_octets_iff.1 boundary
    exact size_le_of_isPrefix (isPrefix_takeOctets begins fits)
  cut_iff := decide_eq_true_iff
  near cut := le_size_takeOctets (of_decide_eq_true cut)

end Text
end QuizPages
