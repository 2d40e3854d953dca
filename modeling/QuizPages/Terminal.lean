import QuizPages.Text.Basic

/-!
# Text for terminals

A terminal takes some characters as orders: control characters, and sequences that start with an
escape character. `styled` puts such sequences around a text, and `plain` leaves out all orders,
well-formed or not. White space is no order.
-/

namespace QuizPages.Terminal

/-- A text in styles, and the way back to none. -/
def styled (codes : List Text) (t : Text) : Text :=
  codes.flatMap (fun code => '\x1b' :: '[' :: code ++ ['m']) ++ t ++ ['\x1b', '[', '0', 'm']

/-! ## Leaving orders out -/

/-- What a character may belong to. -/
inductive State where
  /-- No sequence. -/
  | outside
  /-- A sequence of which only the escape character is known. -/
  | escape
  /-- A sequence that one more character ends, unless it is of the kind of those before it. -/
  | short
  /-- A control sequence: numbers, then a letter that says what to do with them. -/
  | control
  /-- The head of a string for the terminal itself: at its start, in its numbers, behind them. -/
  | deviceStart
  | deviceNumbers
  | deviceEnd
  /-- A string that an octet 9C ends. -/
  | string
  /-- A string that a bell ends. -/
  | title
  deriving DecidableEq, Repr

namespace State

/-- The state after an octet that is not shown. -/
def next (s : State) (b : UInt8) : State :=
  if b = 0x1b then escape
  else if b = 0x18 || b = 0x1a then outside
  else
    match s with
    | outside => outside
    | escape =>
      if b = 0x50 then deviceStart
      else if b = 0x58 || b = 0x5e || b = 0x5f then string
      else if b = 0x5b then control
      else if b = 0x5d then title
      else next2 escape b
    | short => next2 short b
    | control => if 0x40 ≤ b && b ≤ 0x7e then outside else control
    | deviceStart =>
      if 0x20 ≤ b && b ≤ 0x2f then deviceEnd
      else if 0x30 ≤ b && b ≤ 0x3f then deviceNumbers
      else if 0x40 ≤ b && b ≤ 0x7e then string
      else deviceStart
    | deviceNumbers =>
      if 0x20 ≤ b && b ≤ 0x2f then deviceEnd
      else if 0x3c ≤ b && b ≤ 0x7e then string
      else deviceNumbers
    | deviceEnd => if 0x30 ≤ b && b ≤ 0x7e then string else deviceEnd
    | string => if b = 0x9c then outside else string
    | title => if b = 0x07 then outside else title
where
  next2 (s : State) (b : UInt8) : State :=
    if 0x20 ≤ b && b ≤ 0x2f then short else if 0x30 ≤ b && b ≤ 0x7e then outside else s

/-- The state after a character that is not shown. -/
def after (s : State) (c : Char) : State := (String.utf8EncodeChar c).foldl next s

/-- Whether white space is carried out at once, in the middle of a sequence. -/
def passesSpace : State → Bool
  | outside | escape | short | control => true
  | _ => false

/-- Whether a character is shown. -/
def shows (s : State) (c : Char) : Bool :=
  if ['\t', '\n', '\x0c', '\x0d'].contains c then s.passesSpace
  else s == outside && 0x20 ≤ c.toNat && c.toNat ≠ 0x7f

end State

/-- What is shown of a text. White space in the middle of a sequence brings the characters after
it to light, up to the next order; then the sequence goes on. -/
def shown (s : State) (flowing : Bool) : Text → Text
  | [] => []
  | c :: cs =>
    if (if flowing then State.outside else s).shows c then
      c :: shown (if c.toNat < 0x80 then s else .outside) true cs
    else shown (s.after c) false cs

/-- A text without the orders in it. -/
def plain (t : Text) : Text := shown .outside false t

end QuizPages.Terminal
