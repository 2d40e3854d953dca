import QuizPages.Text.Basic

/-!
# Places in a YAML text

A `Mark` says where a character stands, a `Cursor` adds what is still to be read. Five
characters break lines; a carriage return with a line feed is one break. The character
classes are those of YAML 1.1.
-/

namespace QuizPages.Yaml

/-- A place: the octets before it, and line and column counted from zero, the column in
characters. -/
structure Mark where
  index : Nat
  line : Nat
  column : Nat
  deriving DecidableEq, Repr

namespace Mark

/-- After more text of the same line. -/
def move (m : Mark) (t : Text) : Mark :=
  { m with index := m.index + t.size, column := m.column + t.length }

/-- After a line break. -/
def newline (m : Mark) (t : Text) : Mark := ⟨m.index + t.size, m.line + 1, 0⟩

end Mark

/-- A place with the text that follows it. -/
structure Cursor where
  mark : Mark
  rest : Text
  deriving Repr

/-- The characters that a YAML text may hold. -/
def isAllowed (c : Char) : Bool :=
  let n := c.toNat
  n == 0x09 || n == 0x0a || n == 0x0d || (0x20 ≤ n && n ≤ 0x7e) || n == 0x85
    || (0xa0 ≤ n && n ≤ 0xd7ff) || (0xe000 ≤ n && n ≤ 0xfffd) || 0x10000 ≤ n

/-- A space or a tab. -/
def isBlank (c : Char) : Bool := c == ' ' || c == '\t'

/-- A line break. -/
def isBreak (c : Char) : Bool :=
  c == '\r' || c == '\n' || c == '\u0085' || c == '\u2028' || c == '\u2029'

/-- The text of a single-character line break inside a scalar: the two separators of Unicode
stay, all others become a line feed. -/
def breakText (c : Char) : Text :=
  if c == '\u2028' || c == '\u2029' then [c] else ['\n']

/-- The end of the text or a line break. -/
def endsLine : Text → Bool
  | [] => true
  | c :: _ => isBreak c

/-- The end of the text, a blank or a line break. -/
def endsWord : Text → Bool
  | [] => true
  | c :: _ => isBlank c || isBreak c

/-- The characters of names: ASCII letters, digits, `_` and `-`. -/
def isNameChar (c : Char) : Bool := c.isAlphanum || c == '_' || c == '-'

/-- Whether `---` or `...` comes next as a word of its own. -/
def isDocumentMark (t : Text) : Bool :=
  match t with
  | a :: b :: c :: rest =>
    ((a == '-' && b == '-' && c == '-') || (a == '.' && b == '.' && c == '.')) && endsWord rest
  | _ => false

namespace Cursor

/-- The start of a text. -/
def ofText (t : Text) : Cursor := ⟨⟨0, 0, 0⟩, t⟩

/-- After `n` characters of the same line. -/
def move (c : Cursor) (n : Nat) : Cursor := ⟨c.mark.move (c.rest.take n), c.rest.drop n⟩

/-- The longest run of characters of a class, which has no line break in it, and the place
after it. -/
def span (c : Cursor) (p : Char → Bool) : Text × Cursor :=
  let run := c.rest.takeWhile p
  (run, c.move run.length)

/-- After a run of characters of a class. -/
def skip (c : Cursor) (p : Char → Bool) : Cursor := (c.span p).2

/-- After the characters up to the end of the line. -/
def skipLine (c : Cursor) : Cursor := c.skip (!isBreak ·)

/-- The line break at the cursor as scalars hold it, and the place after it. -/
def lineBreak? (c : Cursor) : Option (Text × Cursor) :=
  match c.rest with
  | '\r' :: '\n' :: rest => some (['\n'], ⟨c.mark.newline ['\r', '\n'], rest⟩)
  | b :: rest => if isBreak b then some (breakText b, ⟨c.mark.newline [b], rest⟩) else none
  | [] => none

/-- After blanks, and after a comment if there is one; the line must end there. -/
def finishLine? (c : Cursor) : Option Cursor :=
  let c := c.skip isBlank
  let c := if c.rest.head? = some '#' then c.skipLine else c
  if endsLine c.rest then
    match c.lineBreak? with
    | some (_, c) => some c
    | none => some c
  else none

end Cursor
end QuizPages.Yaml
