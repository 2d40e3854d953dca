/-!
# Text

A text is a list of characters. Sizes and offsets count the octets of its UTF-8 form, so a
text has a length in characters (`List.length`) and a size in octets (`Text.size`).
-/

namespace QuizPages

/-- A text, character by character. -/
abbrev Text := List Char

/-- A literal stands for its characters. -/
instance : Coe String Text := ⟨String.toList⟩

namespace Text

/-- The number of octets in the UTF-8 form. -/
def size : Text → Nat
  | [] => 0
  | c :: cs => c.utf8Size + size cs

@[simp] theorem size_nil : size [] = 0 := rfl

@[simp] theorem size_cons (c : Char) (cs : Text) : size (c :: cs) = c.utf8Size + size cs := rfl

@[simp] theorem size_append (s t : Text) : size (s ++ t) = size s + size t := by
  induction s with
  | nil => simp
  | cons c cs ih => simp [ih, Nat.add_assoc]

/-- What follows `lead` at the start of a text, if the text starts so. -/
def after? : (lead t : Text) → Option Text
  | [], t => some t
  | _ :: _, [] => none
  | a :: lead, c :: cs => if a = c then after? lead cs else none

theorem after?_eq_some_iff {lead t rest : Text} : after? lead t = some rest ↔ t = lead ++ rest := by
  induction lead generalizing t with
  | nil => simp [after?, eq_comm]
  | cons a lead ih =>
    cases t with
    | nil => simp [after?]
    | cons c cs =>
      by_cases h : a = c
      · subst h; simp [after?, ih]
      · simp [after?, h, Ne.symm h]

@[simp] theorem after?_append (lead rest : Text) : after? lead (lead ++ rest) = some rest :=
  after?_eq_some_iff.2 rfl

theorem after?_eq_none_iff {lead t : Text} : after? lead t = none ↔ ¬ lead <+: t := by
  constructor
  · rintro h ⟨rest, rfl⟩
    simp at h
  · intro h
    rcases found : after? lead t with - | rest
    · rfl
    · exact absurd ⟨rest, (after?_eq_some_iff.1 found).symm⟩ h

/-- Texts laid end to end with `sep` between neighbours. -/
def join (sep : Text) : List Text → Text
  | [] => []
  | [t] => t
  | t :: ts => t ++ sep ++ join sep ts

/-- The pieces between the occurrences of a character; there is always at least one. -/
def splitAt (sep : Char) : Text → List Text
  | [] => [[]]
  | c :: cs =>
    if c = sep then [] :: splitAt sep cs
    else
      match splitAt sep cs with
      | [] => [[c]]
      | p :: ps => (c :: p) :: ps

theorem splitAt_ne_nil (sep : Char) (t : Text) : splitAt sep t ≠ [] := by
  cases t with
  | nil => simp [splitAt]
  | cons c cs =>
    unfold splitAt
    split
    · simp
    · split <;> simp

/-- A natural number in decimal. -/
def ofNat (n : Nat) : Text := Nat.toDigits 10 n

theorem isDigit_of_mem_ofNat {n : Nat} {c : Char} (h : c ∈ ofNat n) : c.isDigit = true :=
  Nat.isDigit_of_mem_toDigits (by decide) (by decide) h

theorem notMem_ofNat {c : Char} (other : c.isDigit = false) (n : Nat) : c ∉ ofNat n := fun mem =>
  Bool.false_ne_true (other.symm.trans (isDigit_of_mem_ofNat mem))

/-- The value of a hexadecimal digit. -/
def hexDigit? (c : Char) : Option Nat :=
  if c.isDigit then some (c.toNat - 48)
  else if 'a' ≤ c ∧ c ≤ 'f' then some (c.toNat - 87)
  else if 'A' ≤ c ∧ c ≤ 'F' then some (c.toNat - 55)
  else none

/-- The value of a text of hexadecimal digits. -/
def ofHex? (t : Text) : Option Nat :=
  t.foldlM (fun n c => (hexDigit? c).map (16 * n + ·)) 0

/-- The character with a code point, unless there is none. -/
def charOf? (n : Nat) : Option Char := if n.isValidChar then some (Char.ofNat n) else none

/-- One text orders before another as their UTF-8 forms do, octet by octet; that is the order
of their characters' code points. -/
def compare : Text → Text → Ordering
  | [], [] => .eq
  | [], _ :: _ => .lt
  | _ :: _, [] => .gt
  | a :: s, b :: t => (Ord.compare a.toNat b.toNat).then (compare s t)

/-- Whether `a` does not come after `b`. -/
def le (a b : Text) : Bool := (compare a b).isLE

/-- The longest leading part of at most `room` octets. -/
def takeOctets : (room : Nat) → Text → Text
  | _, [] => []
  | room, c :: cs => if c.utf8Size ≤ room then c :: takeOctets (room - c.utf8Size) cs else []

/-- What is left after `takeOctets`. -/
def dropOctets : (room : Nat) → Text → Text
  | _, [] => []
  | room, c :: cs => if c.utf8Size ≤ room then dropOctets (room - c.utf8Size) cs else c :: cs

theorem takeOctets_append_dropOctets (room : Nat) (t : Text) :
    takeOctets room t ++ dropOctets room t = t := by
  induction t generalizing room with
  | nil => rfl
  | cons c cs ih =>
    unfold takeOctets dropOctets
    split
    · simp [ih]
    · simp

theorem takeOctets_zero (t : Text) : takeOctets 0 t = [] := by
  cases t with
  | nil => rfl
  | cons c cs =>
    have := c.utf8Size_pos
    rw [takeOctets, if_neg (by omega)]

theorem dropOctets_zero (t : Text) : dropOctets 0 t = t := by
  cases t with
  | nil => rfl
  | cons c cs =>
    have := c.utf8Size_pos
    rw [dropOctets, if_neg (by omega)]

/-- The octets of a leading part are cut off as that part. -/
theorem takeOctets_size_append (x y : Text) : takeOctets x.size (x ++ y) = x := by
  induction x with
  | nil => exact takeOctets_zero y
  | cons c x ih =>
    rw [List.cons_append, takeOctets, size_cons, if_pos (Nat.le_add_right _ _),
      Nat.add_sub_cancel_left, ih]

theorem dropOctets_size_append (x y : Text) : dropOctets x.size (x ++ y) = y := by
  induction x with
  | nil => exact dropOctets_zero y
  | cons c x ih =>
    rw [List.cons_append, dropOctets, size_cons, if_pos (Nat.le_add_right _ _),
      Nat.add_sub_cancel_left, ih]

/-- The longest leading part of at most `limit` octets, and whether anything was cut off. -/
def truncate (t : Text) (limit : Nat) : Text × Bool := (takeOctets limit t, limit < t.size)

/-- Letters of the two cases are one, as far as the result is ASCII: the Kelvin sign is the
only character beyond ASCII whose lower case is an ASCII letter. -/
def lowerChar (c : Char) : Char :=
  if c = '\u212a' then 'k' else c.toLower

/-- The text in lower case, exact for comparison with ASCII words. -/
def lower (t : Text) : Text := t.map lowerChar

end Text
end QuizPages
