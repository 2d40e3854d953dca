import QuizPages.Text.Folding

/-!
# Expressions

An expression is searched for in a text. Besides the characters of the part that it matches, it
may test the places between them, each by the characters on its two sides.

A search goes character by character: the derivative of an expression by a character matches what
may follow that character. Whether the place in front of it passes a test is known by then.
-/

namespace QuizPages

/-- Sets of characters. -/
inductive CharSet where
  | nothing
  | range (first last : Char)
  | runs (rs : List Run)
  | categories (ks : List Category)
  | alphabetic
  | uppercase
  | lowercase
  | space
  | word
  | union (a b : CharSet)
  | both (a b : CharSet)
  | complement (a : CharSet)
  /-- With the variants of its members in the other case. -/
  | folded (a : CharSet)
  /-- With the other case of the ASCII letters in it. -/
  | foldedAscii (a : CharSet)
  deriving DecidableEq, Repr

namespace CharSet

/-- Whether a character is in a set. -/
def has : CharSet → Char → Bool
  | nothing, _ => false
  | range first last, c => first ≤ c && c ≤ last
  | runs rs, c => rs.any (·.has c.toNat)
  | categories ks, c => ks.contains (Category.ofChar c)
  | alphabetic, c => Text.isAlphabetic c
  | uppercase, c => Text.isUppercase c
  | lowercase, c => Text.isLowercase c
  | space, c => Text.isSpace c
  | word, c => Text.isWord c
  | union a b, c => a.has c || b.has c
  | both a b, c => a.has c && b.has c
  | complement a, c => !a.has c
  | folded a, c => (Text.variants c).any fun d => a.has d
  | foldedAscii a, c => (Text.asciiVariants c).any fun d => a.has d

/-- One character. -/
def only (c : Char) : CharSet := range c c

/-- Every character. -/
def all : CharSet := complement nothing

def digit : CharSet := categories [.decimalNumber]

/-- The union of sets. -/
def any (sets : List CharSet) : CharSet := sets.foldr union nothing

end CharSet

/-! ## Places -/

/-- What a place has to do with words. -/
inductive WordEdge where
  /-- A word starts or ends. -/
  | either
  | neither
  | start
  | stop
  /-- No word is in front. -/
  | startHalf
  /-- No word is behind. -/
  | stopHalf
  deriving DecidableEq, Repr

/-- What a place between two characters is tested for. -/
inductive Boundary where
  | textStart
  | textStop
  /-- A line starts or ends here; lines are ended by a line feed, or else by that, a carriage return
  or both. -/
  | lineStart (withReturns : Bool)
  | lineStop (withReturns : Bool)
  /-- How words lie; words may have ASCII characters alone. -/
  | word (ascii : Bool) (edge : WordEdge)
  deriving DecidableEq, Repr

namespace Boundary

/-- Whether a character is of a word, if there is one. -/
def isWord (ascii : Bool) (c : Option Char) : Bool :=
  c.any fun c => if ascii then c.isAlphanum || c == '_' else Text.isWord c

/-- Whether a place passes a test, by the characters in front of it and behind it. -/
def holds (before after : Option Char) : Boundary → Bool
  | textStart => before.isNone
  | textStop => after.isNone
  | lineStart false => before.isNone || before == some '\n'
  | lineStop false => after.isNone || after == some '\n'
  | lineStart true =>
    before.isNone || before == some '\n' || (before == some '\x0d' && after != some '\n')
  | lineStop true =>
    after.isNone || after == some '\x0d' || (after == some '\n' && before != some '\x0d')
  | word ascii edge =>
    let (a, b) := (isWord ascii before, isWord ascii after)
    match edge with
    | .either => a != b
    | .neither => a == b
    | .start => !a && b
    | .stop => a && !b
    | .startHalf => !a
    | .stopHalf => !b

end Boundary

/-! ## Expressions -/

inductive Expression where
  | never
  | empty
  | char (set : CharSet)
  | boundary (b : Boundary)
  | seq (first second : Expression)
  | alt (first second : Expression)
  /-- At least `low` times, and at most `high` times if there is a bound. -/
  | times (low : Nat) (high : Option Nat) (e : Expression)
  deriving DecidableEq, Repr

namespace Expression

/-- Whether nothing at all matches at a place. -/
def nullable (before after : Option Char) : Expression → Bool
  | never => false
  | empty => true
  | char _ => false
  | boundary b => b.holds before after
  | seq a b => a.nullable before after && b.nullable before after
  | alt a b => a.nullable before after || b.nullable before after
  | times low _ e => low == 0 || e.nullable before after

/-- One after the other, without what can never match. -/
def andThen : Expression → Expression → Expression
  | never, _ => never
  | _, never => never
  | empty, b => b
  | seq a b, c => andThen a (andThen b c)
  | a, b => seq a b

/-- Whether an expression is one of those that an alternative is made of. -/
def isChoiceOf (e : Expression) : Expression → Bool
  | alt a b => e == a || isChoiceOf e b
  | b => e == b

/-- Either one, each choice once. -/
def orElse : Expression → Expression → Expression
  | never, b => b
  | alt a b, c => orElse a (orElse b c)
  | a, never => a
  | a, b => if isChoiceOf a b then b else alt a b

/-- What may follow a character, by the character in front of it. Where a repeated expression
matches nothing at the place in front of the character, all repetitions that are required may be
used up there. -/
def derivative (before : Option Char) (c : Char) : Expression → Expression
  | never => never
  | empty => never
  | char set => if set.has c then empty else never
  | boundary _ => never
  | seq a b =>
    let further := andThen (a.derivative before c) b
    if a.nullable before (some c) then orElse further (b.derivative before c) else further
  | alt a b => orElse (a.derivative before c) (b.derivative before c)
  | times low high e =>
    if high == some 0 then never
    else
      let low := if e.nullable before (some c) then 0 else low - 1
      andThen (e.derivative before c) (times low (high.map (· - 1)) e)

/-- Whether some part of a text from its start matches. -/
def matchesStart (before : Option Char) (e : Expression) : Text → Bool
  | [] => e.nullable before none
  | c :: cs =>
    e.nullable before (some c) || (e.derivative before c).matchesStart (some c) cs

/-- Whether some part of a text matches. -/
def occursIn (e : Expression) (t : Text) : Bool :=
  (seq (times 0 none (char .all)) e).matchesStart none t

end Expression
end QuizPages
