import QuizPages.Text.Basic

/-!
# UTF-8

A text as octets and octets as text. The decoder goes octet by octet and knows what the character
it is in still owes. An octet that does not fit ends the character as malformed and is then looked
at afresh, so every ASCII octet stands for itself, whatever is malformed around it.
-/

namespace QuizPages

/-- Octets, as in a file. -/
abbrev Octets := List UInt8

/-- The UTF-8 form of a text. -/
def Text.octets (t : Text) : Octets := t.flatMap String.utf8EncodeChar

@[simp] theorem Text.octets_nil : Text.octets [] = [] := rfl

@[simp] theorem Text.octets_cons (c : Char) (cs : Text) :
    Text.octets (c :: cs) = String.utf8EncodeChar c ++ Text.octets cs := rfl

@[simp] theorem Text.octets_append (s t : Text) : (s ++ t).octets = s.octets ++ t.octets := by
  simp [Text.octets]

theorem Text.length_octets (t : Text) : t.octets.length = t.size := by
  induction t with
  | nil => rfl
  | cons c cs ih => simp [ih]

namespace Utf8

/-- Where the decoder stands between octets. -/
inductive State where
  /-- Between characters. -/
  | ready
  /-- Inside a character: how many octets are owed after the next one, the bits so far, and the
  range that the next octet must lie in. -/
  | owing (left : Nat) (bits : Nat) (low high : UInt8)

/-- What the first octet of a character leads to; `none` if no character starts so. -/
def State.first? (b : UInt8) : Option State :=
  let n := b.toNat
  if n < 0xC2 then none
  else if n < 0xE0 then some (.owing 0 (n - 0xC0) 0x80 0xBF)
  else if n = 0xE0 then some (.owing 1 0 0xA0 0xBF)
  else if n = 0xED then some (.owing 1 0xD 0x80 0x9F)
  else if n < 0xF0 then some (.owing 1 (n - 0xE0) 0x80 0xBF)
  else if n = 0xF0 then some (.owing 2 0 0x90 0xBF)
  else if n < 0xF4 then some (.owing 2 (n - 0xF0) 0x80 0xBF)
  else if n = 0xF4 then some (.owing 2 4 0x80 0x8F)
  else none

/-- An octet between characters: what it completes, and where it leads. A malformed piece is
`none`. -/
def start (b : UInt8) : List (Option Char) × State :=
  if b < 0x80 then ([some (Char.ofNat b.toNat)], .ready)
  else
    match State.first? b with
    | some s => ([], s)
    | none => ([none], .ready)

/-- One octet. -/
def step : State → UInt8 → List (Option Char) × State
  | .ready, b => start b
  | .owing left bits low high, b =>
    if low ≤ b ∧ b ≤ high then
      let bits := 64 * bits + (b.toNat - 0x80)
      match left with
      | 0 => ([some (Char.ofNat bits)], .ready)
      | left + 1 => ([], .owing left bits 0x80 0xBF)
    else
      let (done, s) := start b
      (none :: done, s)

/-- The characters of octets from a state on; a character that is not complete is malformed. -/
def decodeFrom : State → Octets → List (Option Char)
  | .ready, [] => []
  | .owing .., [] => [none]
  | s, b :: bs =>
    let (done, s) := step s b
    done ++ decodeFrom s bs

/-- The characters of octets, `none` for each malformed piece. -/
def pieces (bs : Octets) : List (Option Char) := decodeFrom .ready bs

/-- Whether octets are the UTF-8 form of a text. -/
def isValid (bs : Octets) : Bool := (pieces bs).all Option.isSome

/-- The text of octets, U+FFFD for each malformed piece. -/
def decode (bs : Octets) : Text := (pieces bs).map (·.getD '\uFFFD')

/-- The text of well-formed octets. -/
def decode? (bs : Octets) : Option Text := if isValid bs then some (decode bs) else none

end Utf8
end QuizPages
