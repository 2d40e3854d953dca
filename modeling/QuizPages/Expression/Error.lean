import QuizPages.Text.Lines

/-!
# What is wrong with the text of an expression

A fault is reported with the text it was found in. Marks under the text show where, and where the
thing stands that it is a repetition of.
-/

namespace QuizPages.Expression

/-- A part of a text, by how many characters are in front of its two ends. -/
structure Span where
  start : Nat
  stop : Nat
  deriving DecidableEq, Repr, Inhabited

/-- Reasons why a text is no expression. -/
inductive Fault where
  | classEscape
  | classRangeReversed
  | classRangeEnd
  | classUnclosed
  | decimalInvalid
  | hexEmpty
  | hexInvalid
  | hexDigit
  | escapeUnfinished
  | escapeUnknown
  | flagDangling
  | flagRepeated
  | flagNegationRepeated
  | flagsUnfinished
  | flagUnknown
  | nameRepeated
  | nameEmpty
  | nameCharacter
  | nameUnfinished
  | groupUnclosed
  | groupUnopened
  | tooDeep
  | repetitionReversed
  | repetitionCount
  | repetitionUnclosed
  | repetitionMissing
  | wordEdgeUnclosed
  | wordEdgeUnknown
  | wordEdgeUnfinished
  | propertyInvalid
  | backreference
  | lookAround
  /-- Only allowed where characters are not limited to ASCII. -/
  | unicodeOnly
  | malformedOctets
  | propertyUnknown
  | propertyValueUnknown
  deriving DecidableEq, Repr

/-- How deep the parts of an expression may lie in each other. -/
def maxDepth : Nat := 250

namespace Fault

def message : Fault → Text
  | classEscape => "invalid escape sequence found in character class"
  | classRangeReversed => "invalid character class range, the start must be <= the end"
  | classRangeEnd => "invalid range boundary, must be a literal"
  | classUnclosed => "unclosed character class"
  | decimalInvalid => "decimal literal invalid"
  | hexEmpty => "hexadecimal literal empty"
  | hexInvalid => "hexadecimal literal is not a Unicode scalar value"
  | hexDigit => "invalid hexadecimal digit"
  | escapeUnfinished => "incomplete escape sequence, reached end of pattern prematurely"
  | escapeUnknown => "unrecognized escape sequence"
  | flagDangling => "dangling flag negation operator"
  | flagRepeated => "duplicate flag"
  | flagNegationRepeated => "flag negation operator repeated"
  | flagsUnfinished => "expected flag but got end of regex"
  | flagUnknown => "unrecognized flag"
  | nameRepeated => "duplicate capture group name"
  | nameEmpty => "empty capture group name"
  | nameCharacter => "invalid capture group character"
  | nameUnfinished => "unclosed capture group name"
  | groupUnclosed => "unclosed group"
  | groupUnopened => "unopened group"
  | tooDeep =>
    "exceed the maximum number of nested parentheses/brackets (" ++ Text.ofNat maxDepth ++ ")"
  | repetitionReversed => "invalid repetition count range, the start must be <= the end"
  | repetitionCount => "repetition quantifier expects a valid decimal"
  | repetitionUnclosed => "unclosed counted repetition"
  | repetitionMissing => "repetition operator missing expression"
  | wordEdgeUnclosed =>
    "special word boundary assertion is either unclosed or contains an invalid character"
  | wordEdgeUnknown =>
    "unrecognized special word boundary assertion, " ++
      "valid choices are: start, end, start-half or end-half"
  | wordEdgeUnfinished =>
    "found either the beginning of a special word boundary or a bounded repetition on a \\b " ++
      "with an opening brace, but no closing brace"
  | propertyInvalid => "invalid Unicode character class"
  | backreference => "backreferences are not supported"
  | lookAround => "look-around, including look-ahead and look-behind, is not supported"
  | unicodeOnly => "Unicode not allowed here"
  | malformedOctets => "pattern can match invalid UTF-8"
  | propertyUnknown => "Unicode property not found"
  | propertyValueUnknown => "Unicode property value not found"

end Fault

structure SyntaxError where
  fault : Fault
  span : Span
  /-- What the fault is a repetition of. -/
  earlier : Option Span := none
  deriving DecidableEq, Repr

namespace SyntaxError

/-- The line, counted from 0, and the column of a place in a text. -/
def lineAndColumn : Text → Nat → Nat × Nat
  | _, 0 => (0, 0)
  | [], _ => (0, 0)
  | c :: cs, n + 1 =>
    match lineAndColumn cs n with
    | (0, column) => if c = '\n' then (1, column) else (0, column + 1)
    | (line + 1, column) => (if c = '\n' then line + 2 else line + 1, column)

/-- The marks for columns from one to another, at least one, each part in turn. -/
def marks (column : Nat) : List (Nat × Nat) → Text
  | [] => []
  | (start, stop) :: rest =>
    let count := max 1 (stop - start)
    List.replicate (start - column) ' ' ++ List.replicate count '^'
      ++ marks (max column start + count) rest

/-- The marked parts of a text in their order. -/
def spans (e : SyntaxError) : List Span :=
  (e.span :: e.earlier.toList).mergeSort fun a b =>
    a.start < b.start || (a.start == b.start && a.stop ≤ b.stop)

/-- The error with the text and marks under it. The lines of a text with more than one have
numbers, and a part that goes on to another line is only told of. -/
def report (e : SyntaxError) (t : Text) : Text :=
  let place := lineAndColumn t
  let lines := Text.lines t
  let width :=
    let count := lines.length + (if t.getLast? == some '\n' then 1 else 0)
    if count ≤ 1 then 0 else (Text.ofNat count).length
  let label (i : Nat) : Text :=
    if width = 0 then List.replicate 4 ' '
    else
      let number := Text.ofNat (i + 1)
      List.replicate (width - number.length) ' ' ++ number ++ ": "
  let (within, across) := e.spans.partition fun s => (place s.start).1 == (place s.stop).1
  let shown := lines.zipIdx.flatMap fun (line, i) =>
    let here := within.filter fun s => (place s.start).1 == i
    let columns := here.map fun s => ((place s.start).2, (place s.stop).2)
    label i ++ line ++ ['\n'] ++
      (if here.isEmpty then []
        else List.replicate (label i).length ' ' ++ marks 0 columns ++ ['\n'])
  let rule : Text := if t.contains '\n' then List.replicate 79 '~' ++ ['\n'] else []
  let told := across.map fun s =>
    let ((a, b), (c, d)) := (place s.start, place s.stop)
    ("on line " ++ Text.ofNat (a + 1) ++ " (column " ++ Text.ofNat (b + 1) ++ ") through line "
      ++ Text.ofNat (c + 1) ++ " (column " ++ Text.ofNat d ++ ")" : Text)
  "regex parse error:\n" ++ rule ++ shown ++ rule
    ++ (if told.isEmpty then [] else Text.join ['\n'] told ++ ['\n'])
    ++ "error: " ++ e.fault.message

end SyntaxError
end QuizPages.Expression
