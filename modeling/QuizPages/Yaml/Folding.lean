import QuizPages.Yaml.Cursor

/-!
# Folded text

Inside a scalar that runs over several lines a single line break becomes a space, and of
several the first is dropped. Blanks around a break do not count. `Folding` is the text read
so far with the blanks and breaks that wait for the next character.
-/

namespace QuizPages.Yaml

/-- Text read so far and what waits behind it. The texts are kept in reverse. -/
structure Folding where
  text : Text := []
  /-- Blanks not yet known to be inside a line. -/
  blanks : Text := []
  /-- Whether a line break waits. -/
  broken : Bool := false
  firstBreak : Text := []
  laterBreaks : Text := []

namespace Folding

/-- Settles what waits: the next character belongs to the scalar. -/
def flush (f : Folding) : Folding :=
  let pending :=
    if f.broken then
      if f.firstBreak = ['\n'] then
        if f.laterBreaks.isEmpty then [' '] else f.laterBreaks
      else f.laterBreaks ++ f.firstBreak
    else f.blanks
  { text := pending ++ f.text }

/-- A character of the scalar. -/
def push (f : Folding) (c : Char) : Folding :=
  let f := f.flush
  { f with text := c :: f.text }

/-- A blank: it counts only on a line that has not been broken. -/
def pushBlank (f : Folding) (c : Char) : Folding :=
  if f.broken then f else { f with blanks := c :: f.blanks }

/-- A line break. -/
def pushBreak (f : Folding) (b : Text) : Folding :=
  if f.broken then { f with laterBreaks := b.reverse ++ f.laterBreaks }
  else { f with broken := true, blanks := [], firstBreak := b.reverse }

/-- A break that leaves no trace, with the blanks that follow it. -/
def pushEscapedBreak (f : Folding) : Folding := { f.flush with broken := true }

/-- The text without what still waits. -/
def result (f : Folding) : Text := f.text.reverse

end Folding
end QuizPages.Yaml
