import QuizPages.Text.Basic

/-!
# Reading decimals

`Decimal.read?` reads digits with at most one point among or beside them and an optional power of
ten, and rounds to the nearest binary64 number. A decimal too large for a finite number reads as
infinity.
-/

namespace QuizPages.Decimal

/-- The value of digits, most significant first. -/
def ofDigits (ds : Text) : Nat := ds.foldl (fun n d => 10 * n + (d.toNat - 48)) 0

/-- The power of ten at the end of a decimal: nothing, or the letter, a sign and digits. -/
def readPower? : Text → Option Int
  | [] => some 0
  | e :: t =>
    if e != 'e' && e != 'E' then none
    else
      match t with
      | '-' :: ds => (digits? ds).map fun n => -n
      | '+' :: ds => digits? ds
      | ds => digits? ds
where
  digits? (ds : Text) : Option Int :=
    if ds.isEmpty || !ds.all Char.isDigit then none else some (ofDigits ds)

/-- The number `n · 10 ^ power`. Decimals of more than 310 digits before the point are infinite,
those with more than 400 zeros after it vanish. -/
def toFloat (n : Nat) (power : Int) : Float :=
  let size : Int := (Text.ofNat n).length + power
  if n = 0 || size < -400 then 0.0
  else if 310 < size then 1.0 / 0.0
  else Float.ofScientific n (decide (power < 0)) power.natAbs

/-- A decimal with an optional sign in front. -/
def read? (t : Text) : Option Float :=
  match t with
  | '-' :: t => (unsigned? t).map fun f => -f
  | '+' :: t => unsigned? t
  | t => unsigned? t
where
  unsigned? (t : Text) : Option Float :=
    let whole := t.takeWhile Char.isDigit
    let rest := t.dropWhile Char.isDigit
    let (fraction, rest) :=
      match rest with
      | '.' :: rest => (rest.takeWhile Char.isDigit, rest.dropWhile Char.isDigit)
      | rest => ([], rest)
    if whole.isEmpty && fraction.isEmpty then none
    else (readPower? rest).map fun power =>
      toFloat (ofDigits (whole ++ fraction)) (power - fraction.length)

end QuizPages.Decimal
