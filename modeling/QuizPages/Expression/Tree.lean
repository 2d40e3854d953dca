import QuizPages.Expression.Basic
import QuizPages.Expression.Error

/-!
# Expressions as they are written

Every part knows where it stands in the text, so that whatever turns out to be wrong with it later
can be shown there.
-/

namespace QuizPages.Expression

/-- What can be switched on and off inside an expression. -/
inductive Flag where
  | ignoreCase
  | multiLine
  | dotMatchesAll
  /-- Repetitions prefer to be short; which one is found does not matter for a search. -/
  | swapGreed
  | unicode
  /-- Carriage returns end lines too. -/
  | withReturns
  /-- Blanks and comments do not count. -/
  | ignoreBlanks
  deriving DecidableEq, Repr

/-- The flag of a letter. -/
def Flag.ofChar? : Char → Option Flag
  | 'i' => some ignoreCase
  | 'm' => some multiLine
  | 's' => some dotMatchesAll
  | 'U' => some swapGreed
  | 'u' => some unicode
  | 'R' => some withReturns
  | 'x' => some ignoreBlanks
  | _ => none

/-- A flag as written, or the `-` in front of those to be switched off. -/
structure FlagItem where
  span : Span
  flag : Option Flag
  deriving DecidableEq, Repr

/-- The flags of some items, each with what it is switched to. -/
def FlagItem.settings : List FlagItem → Bool → List (Flag × Bool)
  | [], _ => []
  | ⟨_, none⟩ :: items, _ => settings items false
  | ⟨_, some f⟩ :: items, on => (f, on) :: settings items on

/-- A character as written. -/
structure Literal where
  span : Span
  char : Char
  /-- Whether it is the number of an octet, `\x` with two digits. -/
  isOctet : Bool := false
  deriving DecidableEq, Repr

/-- The sets that have a letter of their own. -/
inductive LetterClass where
  | digit
  | space
  | word
  deriving DecidableEq, Repr

/-- How a set of characters is described by a property of Unicode. -/
inductive PropertyQuery where
  | named (name : Text)
  | valued (isNegated : Bool) (name value : Text)
  deriving DecidableEq, Repr

/-- What joins two sets in a class. -/
inductive ClassOperator where
  | intersection
  | difference
  | symmetricDifference
  deriving DecidableEq, Repr

/-- Sets of characters. -/
inductive Class where
  | empty (place : Nat)
  | literal (l : Literal)
  | range (span : Span) (first last : Literal)
  /-- A set of ASCII characters with a name. -/
  | ascii (span : Span) (isNegated : Bool) (ranges : List (Char × Char))
  | letter (span : Span) (isNegated : Bool) (c : LetterClass)
  | property (span : Span) (isNegated : Bool) (query : PropertyQuery)
  | bracketed (span : Span) (isNegated : Bool) (body : Class)
  | union (items : List Class)
  | joined (operator : ClassOperator) (first second : Class)
  deriving Repr

/-- What a place is tested for; the flags decide on the details. -/
inductive Test where
  | lineStart
  | lineStop
  | textStart
  | textStop
  | word (edge : WordEdge)
  deriving DecidableEq, Repr

/-- An expression as written. -/
inductive Tree where
  | empty (place : Nat)
  /-- Flags for all that follows in the group. -/
  | flags (span : Span) (items : List FlagItem)
  | literal (l : Literal)
  | dot (span : Span)
  | test (span : Span) (t : Test)
  | oneOf (c : Class)
  | repetition (span : Span) (low : Nat) (high : Option Nat) (of : Tree)
  | group (span : Span) (flags : List FlagItem) (of : Tree)
  | sequence (span : Span) (parts : List Tree)
  | choice (span : Span) (parts : List Tree)
  deriving Repr

/-! ## Where things stand -/

/-- From the start of the first to the end of the last. -/
def Span.around (first last : Span) : Span := ⟨first.start, last.stop⟩

def Class.span : Class → Span
  | empty place => ⟨place, place⟩
  | literal l => l.span
  | range s .. | ascii s .. | letter s .. | property s .. | bracketed s .. => s
  | union items => spans items
  | joined _ a b => .around a.span b.span
where
  spans : List Class → Span
    | [] => ⟨0, 0⟩
    | [c] => c.span
    | c :: rest => .around c.span (spans rest)

def Tree.span : Tree → Span
  | empty place => ⟨place, place⟩
  | literal l => l.span
  | oneOf c => c.span
  | flags s _ | dot s | test s _ | repetition s .. | group s .. | sequence s _ | choice s _ => s

/-! ## Depth -/

/-- The first part of a class that lies deeper than `room` allows. -/
def Class.tooDeep? (room : Nat) (c : Class) : Option Span :=
  match c, room with
  | bracketed s .., 0 => some s
  | bracketed _ _ body, room + 1 => body.tooDeep? room
  | union _, 0 => some c.span
  | union items, room + 1 => firstTooDeep? room items
  | joined .., 0 => some c.span
  | joined _ a b, room + 1 => (a.tooDeep? room).or (b.tooDeep? room)
  | _, _ => none
where
  firstTooDeep? (room : Nat) : List Class → Option Span
    | [] => none
    | c :: rest => (c.tooDeep? room).or (firstTooDeep? room rest)

/-- The first part of an expression that lies deeper than `room` allows. -/
def Tree.tooDeep? (room : Nat) (t : Tree) : Option Span :=
  match t, room with
  | oneOf c, room => c.tooDeep? room
  | repetition s .., 0 | group s .., 0 | sequence s _, 0 | choice s _, 0 => some s
  | repetition _ _ _ t, room + 1 | group _ _ t, room + 1 => t.tooDeep? room
  | sequence _ parts, room + 1 | choice _ parts, room + 1 => firstTooDeep? room parts
  | _, _ => none
where
  firstTooDeep? (room : Nat) : List Tree → Option Span
    | [] => none
    | t :: rest => (t.tooDeep? room).or (firstTooDeep? room rest)

end QuizPages.Expression
