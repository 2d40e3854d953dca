import QuizPages.Text.Utf8

/-!
# Patterns of octets

Regular expressions over octets, matched octet by octet: the derivative of a pattern by an octet
matches what may follow that octet.
-/

namespace QuizPages

inductive Pattern where
  | nothing
  | empty
  /-- One octet inside some ranges, or outside all of them. -/
  | octet (negated : Bool) (ranges : List (UInt8 × UInt8))
  | seq (first second : Pattern)
  | alt (first second : Pattern)
  /-- Any number of repetitions. -/
  | many (p : Pattern)
  deriving DecidableEq, Repr

namespace Pattern

/-- Any octet. -/
def any : Pattern := .octet true []

/-- One given octet. -/
def exactly (b : UInt8) : Pattern := .octet false [(b, b)]

/-- Given octets one after another. -/
def ofOctets : Octets → Pattern
  | [] => .empty
  | b :: bs => .seq (exactly b) (ofOctets bs)

/-- Whether the empty list of octets matches. -/
def nullable : Pattern → Bool
  | nothing => false
  | empty => true
  | octet .. => false
  | seq a b => a.nullable && b.nullable
  | alt a b => a.nullable || b.nullable
  | many _ => true

/-- Whether one octet is in a class. -/
def admits (negated : Bool) (ranges : List (UInt8 × UInt8)) (b : UInt8) : Bool :=
  (ranges.any fun r => r.1 ≤ b && b ≤ r.2) != negated

/-- One after the other, without what can never match. -/
def andThen : Pattern → Pattern → Pattern
  | nothing, _ => nothing
  | _, nothing => nothing
  | empty, b => b
  | a, b => seq a b

/-- Whether a pattern is one of those that an alternative is made of. -/
def isChoiceOf (p : Pattern) : Pattern → Bool
  | alt a b => p == a || isChoiceOf p b
  | b => p == b

/-- Either one, each choice once. -/
def orElse : Pattern → Pattern → Pattern
  | nothing, b => b
  | alt a b, c => orElse a (orElse b c)
  | a, nothing => a
  | a, b => if isChoiceOf a b then b else alt a b

/-- What may follow an octet. -/
def derivative (b : UInt8) : Pattern → Pattern
  | nothing => nothing
  | empty => nothing
  | octet negated ranges => if admits negated ranges b then empty else nothing
  | seq p q =>
    if p.nullable then orElse (andThen (p.derivative b) q) (q.derivative b)
    else andThen (p.derivative b) q
  | alt p q => orElse (p.derivative b) (q.derivative b)
  | many p => andThen (p.derivative b) (many p)

/-- Whether octets match from the first to the last. -/
def accepts (p : Pattern) : Octets → Bool
  | [] => p.nullable
  | b :: bs => (p.derivative b).accepts bs

end Pattern
end QuizPages
