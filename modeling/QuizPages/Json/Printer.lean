import QuizPages.Decimal.Shortest
import QuizPages.Json.Basic

/-!
# Writing JSON

Two layouts: compact, with nothing between the tokens, and indented, with one item or member
a line, two blanks deeper for each level. Empty arrays and objects are written without a
break in both.
-/

namespace QuizPages.Json

/-- How the tokens of a value are set apart. -/
inductive Layout where
  | compact
  | indented
  deriving DecidableEq, Repr

/-- The four hexadecimal digits of a control character. -/
def hex4 (n : Nat) : Text :=
  let digits := Nat.toDigits 16 n
  List.replicate (4 - digits.length) '0' ++ digits

/-- A character inside a string: quotation marks, backslashes and control characters are
escaped, all else stands for itself. -/
def escapeChar (c : Char) : Text :=
  if c = '"' then ['\\', '"']
  else if c = '\\' then ['\\', '\\']
  else if c = '\n' then ['\\', 'n']
  else if c = '\r' then ['\\', 'r']
  else if c = '\t' then ['\\', 't']
  else if c = '\x08' then ['\\', 'b']
  else if c = '\x0c' then ['\\', 'f']
  else if c.toNat < 0x20 then '\\' :: 'u' :: hex4 c.toNat
  else [c]

/-- A text as a JSON string. -/
def quote (t : Text) : Text := '"' :: t.flatMap escapeChar ++ ['"']

/-- A whole number in decimal. -/
def writeInt : Int → Text
  | .ofNat n => Text.ofNat n
  | .negSucc n => '-' :: Text.ofNat (n + 1)

/-- A power of ten, which always has a sign. -/
def writePower : Int → Text
  | .ofNat n => 'e' :: '+' :: Text.ofNat n
  | .negSucc n => 'e' :: '-' :: Text.ofNat (n + 1)

/-- A decimal of `count` digits. It is written positionally from `0.00001` up to sixteen places
before the point, and with an exponent beyond; a whole number keeps `.0`. -/
def writeDecimal (d : Decimal) : Text :=
  let digits := Text.ofNat d.digits
  let count : Int := digits.length
  let places := count + d.exponent
  if 0 ≤ d.exponent ∧ places ≤ 16 then
    digits ++ List.replicate d.exponent.toNat '0' ++ ['.', '0']
  else if 0 < places ∧ places ≤ 16 then
    digits.take places.toNat ++ ['.'] ++ digits.drop places.toNat
  else if -5 < places ∧ places ≤ 0 then
    ['0', '.'] ++ List.replicate (-places).toNat '0' ++ digits
  else
    let power := writePower (places - 1)
    match digits with
    | [c] => c :: power
    | c :: rest => c :: '.' :: rest ++ power
    | [] => power

/-- A binary64 number as the shortest decimal that reads back; what is not finite has no
number in JSON. -/
def writeFloat (bits : UInt64) : Text :=
  if Decimal.isFinite bits then
    let sign : Text := if Decimal.isNegative bits then ['-'] else []
    if (Decimal.significand bits).1 = 0 then sign ++ ['0', '.', '0']
    else sign ++ writeDecimal (Decimal.shortest bits)
  else ['n', 'u', 'l', 'l']

/-- The start of a line at a level of nesting, or nothing in the compact layout. -/
def breakLine (layout : Layout) (level : Nat) : Text :=
  match layout with
  | .compact => []
  | .indented => '\n' :: List.replicate (2 * level) ' '

/-- What stands between a member's name and its value. -/
def colon : Layout → Text
  | .compact => [':']
  | .indented => [':', ' ']

mutual

/-- A value that stands at a level of nesting. -/
def write (layout : Layout) (level : Nat) : Json → Text
  | .null => ['n', 'u', 'l', 'l']
  | .bool true => ['t', 'r', 'u', 'e']
  | .bool false => ['f', 'a', 'l', 's', 'e']
  | .int n => writeInt n
  | .float bits => writeFloat bits
  | .str t => quote t
  | .arr [] => ['[', ']']
  | .arr (j :: rest) =>
    '[' :: breakLine layout (level + 1) ++ write layout (level + 1) j
      ++ writeItems layout (level + 1) rest ++ breakLine layout level ++ [']']
  | .obj [] => ['{', '}']
  | .obj (m :: rest) =>
    '{' :: breakLine layout (level + 1) ++ writeMember layout (level + 1) m
      ++ writeMembers layout (level + 1) rest ++ breakLine layout level ++ ['}']

/-- The items after the first, each behind a comma. -/
def writeItems (layout : Layout) (level : Nat) : List Json → Text
  | [] => []
  | j :: rest =>
    ',' :: breakLine layout level ++ write layout level j ++ writeItems layout level rest

/-- One member. -/
def writeMember (layout : Layout) (level : Nat) : Text × Json → Text
  | (name, value) => quote name ++ colon layout ++ write layout level value

/-- The members after the first, each behind a comma. -/
def writeMembers (layout : Layout) (level : Nat) : List (Text × Json) → Text
  | [] => []
  | m :: rest =>
    ',' :: breakLine layout level ++ writeMember layout level m
      ++ writeMembers layout level rest

end

/-- A value as a text of its own. -/
def render (layout : Layout) (j : Json) : Text := write layout 0 j

end QuizPages.Json
