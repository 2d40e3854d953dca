import QuizPages.Json.Basic

/-!
# Reading JSON

`Json.read?` accepts exactly one value with blanks around it, nested at most `maxDepth` deep.
A number without fraction and exponent that fits 64 bits is whole; any other becomes a
binary64 number: the first digits that fit 64 bits, times or over a power of ten.
-/

namespace QuizPages.Json

/-- How deep arrays and objects may nest. -/
def maxDepth : Nat := 127

/-- The blanks that may stand between tokens. -/
def isBlank (c : Char) : Bool := c == ' ' || c == '\n' || c == '\t' || c == '\r'

def skipBlanks (t : Text) : Text := t.dropWhile isBlank

/-- Four hexadecimal digits. -/
def hexUnit? : Text → Option (Nat × Text)
  | a :: b :: c :: d :: rest => do
    let a ← Text.hexDigit? a
    let b ← Text.hexDigit? b
    let c ← Text.hexDigit? c
    let d ← Text.hexDigit? d
    some (4096 * a + 256 * b + 16 * c + d, rest)
  | _ => none

/-- The character that a letter names after a backslash. -/
def shortEscape? (c : Char) : Option Char :=
  if c = '"' ∨ c = '\\' ∨ c = '/' then some c
  else if c = 'n' then some '\n'
  else if c = 'r' then some '\r'
  else if c = 't' then some '\t'
  else if c = 'b' then some '\x08'
  else if c = 'f' then some '\x0c'
  else none

/-- A character given by one 16-bit unit or by a pair of surrogates; `t` follows the first
unit. -/
def unitChar? (unit : Nat) (t : Text) : Option (Char × Text) :=
  if 0xD800 ≤ unit ∧ unit < 0xDC00 then
    match t with
    | '\\' :: 'u' :: rest => do
      let (low, rest) ← hexUnit? rest
      if 0xDC00 ≤ low ∧ low < 0xE000 then
        some (Char.ofNat (0x10000 + 0x400 * (unit - 0xD800) + (low - 0xDC00)), rest)
      else none
    | _ => none
  else if 0xDC00 ≤ unit ∧ unit < 0xE000 then none
  else some (Char.ofNat unit, t)

/-- The characters of a string up to its closing quotation mark. The fuel is the length of the
text. -/
def readChars : Nat → Text → Option (Text × Text)
  | 0, _ => none
  | _, [] => none
  | fuel + 1, c :: rest =>
    if c = '"' then some ([], rest)
    else if c = '\\' then
      match rest with
      | [] => none
      | 'u' :: rest => do
        let (unit, rest) ← hexUnit? rest
        let (c, rest) ← unitChar? unit rest
        let (cs, rest) ← readChars fuel rest
        some (c :: cs, rest)
      | e :: rest => do
        let c ← shortEscape? e
        let (cs, rest) ← readChars fuel rest
        some (c :: cs, rest)
    else if c.toNat < 0x20 then none
    else do
      let (cs, rest) ← readChars fuel rest
      some (c :: cs, rest)

/-- A string after its opening quotation mark. -/
def readString (t : Text) : Option (Text × Text) := readChars (t.length + 1) t

/-- The value of digits, most significant first. -/
def digitsValue (ds : Text) : Nat := ds.foldl (fun n d => 10 * n + (d.toNat - 48)) 0

/-- The longest leading digits whose value stays below `2 ^ 64`, after `start`, and the number
of digits left out. -/
def significantDigits : (start : Nat) → Text → Nat × Nat
  | n, [] => (n, 0)
  | n, d :: ds =>
    let next := 10 * n + (d.toNat - 48)
    if next < UInt64.size then significantDigits next ds else (n, ds.length + 1)

/-- The product `f · 10 ^ exponent`, by one multiplication or division for each power of ten up to
`10 ^ 308`; `none` beyond the largest number. -/
def scaleFloat : Nat → Float → Int → Option Float
  | 0, f, _ => some f
  | fuel + 1, f, exponent =>
    if exponent.natAbs ≤ 308 then
      let power := Float.ofScientific 1 false exponent.natAbs
      if 0 ≤ exponent then
        let g := f * power
        if g.isInf then none else some g
      else some (f / power)
    else if f == 0.0 then some f
    else if 0 ≤ exponent then none
    else scaleFloat fuel (f / Float.ofScientific 1 false 308) (exponent + 308)

/-- The number of a sign, the digits before and after a point, and a power of ten. -/
def floatOf? (negative : Bool) (whole fraction : Text) (exponent : Int) : Option Json :=
  let (n, leftOut) := significantDigits 0 whole
  let (n, kept) :=
    if leftOut = 0 then
      let (n, cut) := significantDigits n fraction
      (n, fraction.length - cut)
    else
      match fraction with
      | [] => (n, 0)
      | ds =>
        let (n, cut) := significantDigits n ds
        (n, ds.length - cut)
  let power := exponent + (leftOut : Int) - (kept : Int)
  (scaleFloat 64 (Float.ofNat n) power).map fun f =>
    .float (if negative then -f else f).toBits

/-- The exponent after its letter: a sign, and at least one digit. -/
def readExponent (t : Text) : Option (Int × Text) :=
  let (negative, t) :=
    match t with
    | '+' :: rest => (false, rest)
    | '-' :: rest => (true, rest)
    | t => (false, t)
  let ds := t.takeWhile Char.isDigit
  if ds.isEmpty then none
  else
    let n : Int := digitsValue ds
    some (if negative then -n else n, t.dropWhile Char.isDigit)

/-- A number after its sign. A whole part of several digits does not start with a zero. -/
def readNumber (negative : Bool) (t : Text) : Option (Json × Text) :=
  let whole := t.takeWhile Char.isDigit
  let rest := t.dropWhile Char.isDigit
  if whole.isEmpty ∨ (whole.length ≠ 1 ∧ whole.head? = some '0') then none
  else
    match rest with
    | '.' :: rest =>
      let fraction := rest.takeWhile Char.isDigit
      let rest := rest.dropWhile Char.isDigit
      if fraction.isEmpty then none
      else
        match rest with
        | e :: rest' =>
          if e = 'e' ∨ e = 'E' then do
            let (power, rest) ← readExponent rest'
            let j ← floatOf? negative whole fraction power
            some (j, rest)
          else (floatOf? negative whole fraction 0).map (·, rest)
        | [] => (floatOf? negative whole fraction 0).map (·, rest)
    | e :: rest' =>
      if e = 'e' ∨ e = 'E' then do
        let (power, rest) ← readExponent rest'
        let j ← floatOf? negative whole [] power
        some (j, rest)
      else (wholeNumber whole).map (·, rest)
    | [] => (wholeNumber whole).map (·, rest)
where
  /-- Minus zero, and what does not fit 64 bits, are no whole numbers. -/
  wholeNumber (ds : Text) : Option Json :=
    let n : Int := digitsValue ds
    let n := if negative then -n else n
    if fits64 n ∧ ¬ (negative ∧ n = 0) then some (.int n)
    else floatOf? negative ds [] 0

mutual

/-- One value. The fuel bounds the number of tokens, `depth` the nesting. -/
def readValue : (fuel depth : Nat) → Text → Option (Json × Text)
  | 0, _, _ => none
  | fuel + 1, depth, t =>
    match t with
    | 'n' :: 'u' :: 'l' :: 'l' :: rest => some (.null, rest)
    | 't' :: 'r' :: 'u' :: 'e' :: rest => some (.bool true, rest)
    | 'f' :: 'a' :: 'l' :: 's' :: 'e' :: rest => some (.bool false, rest)
    | '"' :: rest => do
      let (cs, rest) ← readString rest
      some (.str cs, rest)
    | '[' :: rest =>
      match depth with
      | 0 => none
      | depth + 1 =>
        match skipBlanks rest with
        | ']' :: rest => some (.arr [], rest)
        | rest => do
          let (items, rest) ← readItems fuel depth rest
          some (.arr items, rest)
    | '{' :: rest =>
      match depth with
      | 0 => none
      | depth + 1 =>
        match skipBlanks rest with
        | '}' :: rest => some (.obj [], rest)
        | rest => do
          let (members, rest) ← readMembers fuel depth rest
          some (.obj members, rest)
    | '-' :: rest => readNumber true rest
    | t => readNumber false t

/-- The items of an array up to its closing bracket, from the first item on. -/
def readItems : (fuel depth : Nat) → Text → Option (List Json × Text)
  | 0, _, _ => none
  | fuel + 1, depth, t => do
    let (j, rest) ← readValue fuel depth t
    match skipBlanks rest with
    | ',' :: rest => do
      let (items, rest) ← readItems fuel depth (skipBlanks rest)
      some (j :: items, rest)
    | ']' :: rest => some ([j], rest)
    | _ => none

/-- The members of an object up to its closing brace, from the first name on. -/
def readMembers : (fuel depth : Nat) → Text → Option (List (Text × Json) × Text)
  | 0, _, _ => none
  | fuel + 1, depth, t =>
    match t with
    | '"' :: rest => do
      let (name, rest) ← readString rest
      match skipBlanks rest with
      | ':' :: rest => do
        let (j, rest) ← readValue fuel depth (skipBlanks rest)
        match skipBlanks rest with
        | ',' :: rest => do
          let (members, rest) ← readMembers fuel depth (skipBlanks rest)
          some ((name, j) :: members, rest)
        | '}' :: rest => some ([(name, j)], rest)
        | _ => none
      | _ => none
    | _ => none

end

/-- The value that a text holds, with blanks around it. -/
def read? (t : Text) : Option Json := do
  let (j, rest) ← readValue (2 * t.length + 2) maxDepth (skipBlanks t)
  if (skipBlanks rest).isEmpty then some j else none

end QuizPages.Json
