/-!
# Shortest decimals

The decimal with the fewest digits that still names a given binary64 number. A finite number
is `m · 2 ^ q`; the reals that round to it form an interval, ends included when `m` is even.
For one digit, two digits, and so on, the two neighbours of the number on that decimal grid
are tried; the first grid with a hit wins, and of two hits the nearer.
-/

namespace QuizPages

/-- The number `digits · 10 ^ exponent`. -/
structure Decimal where
  digits : Nat
  exponent : Int
  deriving Repr, DecidableEq

namespace Decimal

/-- A quotient of natural numbers, not reduced. -/
structure Ratio where
  num : Nat
  den : Nat

namespace Ratio

/-- The number `n · 2 ^ q`. -/
def scale2 (n : Nat) (q : Int) : Ratio :=
  if 0 ≤ q then ⟨n * Nat.pow 2 q.toNat, 1⟩ else ⟨n, Nat.pow 2 (-q).toNat⟩

/-- The number `n · 10 ^ k`. -/
def scale10 (n : Nat) (k : Int) : Ratio :=
  if 0 ≤ k then ⟨n * Nat.pow 10 k.toNat, 1⟩ else ⟨n, Nat.pow 10 (-k).toNat⟩

def le (a b : Ratio) : Bool := a.num * b.den ≤ b.num * a.den

def lt (a b : Ratio) : Bool := a.num * b.den < b.num * a.den

/-- The whole part of `a / 10 ^ k`. -/
def floorAt (a : Ratio) (k : Int) : Nat :=
  if 0 ≤ k then a.num / (a.den * Nat.pow 10 k.toNat) else a.num * Nat.pow 10 (-k).toNat / a.den

/-- Twice `a` is at most the sum of `b` and `c`. -/
def nearerLow (a b c : Ratio) : Ordering :=
  compare (2 * a.num * (b.den * c.den)) ((b.num * c.den + c.num * b.den) * a.den)

end Ratio

/-- The least significand of a number that is not subnormal. -/
def leastNormal : Nat := 0x10000000000000

/-- The magnitude of a finite binary64 number: its fraction bits decide `m`, its exponent bits
`q`. -/
def significand (bits : UInt64) : Nat × Int :=
  let fraction := (bits &&& 0xfffffffffffff).toNat
  let field := ((bits >>> 52) &&& 0x7ff).toNat
  if field = 0 then (fraction, -1074) else (fraction + leastNormal, (field : Int) - 1075)

/-- Exponent bits all set mark infinities and not-a-numbers. -/
def isFinite (bits : UInt64) : Bool := ((bits >>> 52) &&& 0x7ff) != 0x7ff

/-- The sign bit. -/
def isNegative (bits : UInt64) : Bool := (bits >>> 63) == 1

/-- The place of the leading digit: `10 ^ k` is the largest power of ten not above `a`. -/
def leadingPlace (a : Ratio) : Int :=
  let whole := a.num / a.den
  if 0 < whole then (Nat.toDigits 10 whole).length - 1
  else
    -- the denominator's length bounds how far below one the number can be
    let rec below : Nat → Nat → Int
      | 0, j => -j
      | room + 1, j => if a.den ≤ a.num * Nat.pow 10 j then -j else below room (j + 1)
    below (Nat.toDigits 10 a.den).length 1

/-- Without the zeros at the end of the digits. -/
def strip : Nat → Decimal → Decimal
  | 0, d => d
  | room + 1, d =>
    if d.digits ≠ 0 ∧ d.digits % 10 = 0 then strip room ⟨d.digits / 10, d.exponent + 1⟩ else d

/-- The shortest decimal of the magnitude of a finite, nonzero number. -/
def shortest (bits : UInt64) : Decimal :=
  let (m, q) := significand bits
  let value := Ratio.scale2 (4 * m) (q - 2)
  let high := Ratio.scale2 (4 * m + 2) (q - 2)
  -- just above a power of two the neighbours below lie twice as close
  let low := Ratio.scale2 (if m = leastNormal ∧ q ≠ -1074 then 4 * m - 1 else 4 * m - 2) (q - 2)
  let inside (d : Ratio) : Bool :=
    if m % 2 = 0 then low.le d && d.le high else low.lt d && d.lt high
  let place := leadingPlace value
  let rec search : Nat → Nat → Decimal
    | 0, _ => ⟨value.floorAt (place - 16), place - 16⟩
    | room + 1, count =>
      let k := place - (count : Int) + 1
      let a := value.floorAt k
      let below := Ratio.scale10 a k
      let above := Ratio.scale10 (a + 1) k
      match inside below && 0 < a, inside above with
      | true, true =>
        match value.nearerLow below above with
        | .lt => ⟨a, k⟩
        | .gt => ⟨a + 1, k⟩
        | .eq => if a % 2 = 0 then ⟨a, k⟩ else ⟨a + 1, k⟩
      | true, false => ⟨a, k⟩
      | false, true => ⟨a + 1, k⟩
      | false, false => search room (count + 1)
  (search 17 1).strip 20

end Decimal
end QuizPages
