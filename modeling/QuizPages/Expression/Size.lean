import QuizPages.Expression.Basic

/-!
# How large expressions are

An expression stands for a machine with a state for every octet that it may be at. Its size is an
estimate of what these states take, in octets; repetitions with a count take as much as the parts
written out.
-/

namespace QuizPages

namespace CharSet

/-- Of how many runs without gaps some runs together consist. -/
def stretches (rs : List Run) : Nat :=
  let pieces := rs.flatMap fun r =>
    if r.step = 1 then [(r.first, r.last)]
    else (List.range ((r.last - r.first) / r.step + 1)).map fun i =>
      (r.first + i * r.step, r.first + i * r.step)
  let sorted := pieces.mergeSort fun a b => a.1 ≤ b.1
  (sorted.foldl (fun (count, next) (first, last) =>
    if count ≠ 0 && first ≤ next then (count, max next (last + 1)) else (count + 1, last + 1))
    (0, 0)).1

/-- The runs of some categories. -/
def runsOf (ks : List Category) : List Run := ks.flatMap fun k => (Category.tables.lookup k).getD []

/-- Of how many runs a set is made, at most. -/
def runCount : CharSet → Nat
  | nothing => 0
  | range .. => 1
  | runs rs => stretches rs
  | categories ks => stretches (runsOf ks)
  | alphabetic => stretches (runsOf alphabetics ++ Text.otherAlphabetic)
  | uppercase => stretches (runsOf [.upperLetter] ++ Text.otherUppercase)
  | lowercase => stretches (runsOf [.lowerLetter] ++ Text.otherLowercase)
  | space => 10
  | word =>
    stretches (runsOf (alphabetics ++ Category.marks ++ [.decimalNumber, .connector])
      ++ Text.otherAlphabetic)
  | union a b | both a b => a.runCount + b.runCount
  | complement a => a.runCount + 1
  | folded a | foldedAscii a => 2 * a.runCount
where
  alphabetics : List Category := .letterNumber :: Category.letters

/-- Whether a set has ASCII characters alone, as far as that can be told from how it is made. -/
def isAscii : CharSet → Bool
  | nothing => true
  | range _ last => last.toNat < 0x80
  | union a b => a.isAscii && b.isAscii
  | both a b => a.isAscii || b.isAscii
  | folded a | foldedAscii a => a.isAscii
  | _ => false

end CharSet

namespace Expression

/-- How large an expression may be. -/
def maxSize : Nat := 10485760

/-- The size of an expression. -/
def size : Expression → Nat
  | never | empty | boundary _ => 32
  | char s => if s.isAscii then 24 + 8 * s.runCount else 72 * s.runCount
  | seq a b => a.size + b.size
  | alt a b => a.size + b.size + 8
  | times low none e => if low = 0 then e.size + 40 else low * e.size + 40
  | times low (some high) e => low * e.size + (high - low) * (e.size + 40)

end Expression
end QuizPages
