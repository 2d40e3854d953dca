import QuizPages.Decimal.Reader
import QuizPages.Json.Reader
import QuizPages.Yaml.Value

/-!
# What a scalar means

A plain scalar without a tag is null, a truth value, a number or, failing these, a string. Whole
numbers of 64 bits are numbers; larger ones up to 128 bits are refused, and beyond that they are
read as decimals.
-/

namespace QuizPages.Yaml

/-- What a reading of a scalar comes to. -/
inductive Reading (α : Type) where
  /-- The scalar is no such thing. -/
  | other
  /-- The scalar is one, but out of the range that is kept. -/
  | refused
  | read (value : α)

def null? (t : Text) : Bool :=
  t == "null".toList || t == "Null".toList || t == "NULL".toList || t == "~".toList

def bool? (t : Text) : Option Bool :=
  if t == "true".toList || t == "True".toList || t == "TRUE".toList then some true
  else if t == "false".toList || t == "False".toList || t == "FALSE".toList then some false
  else none

/-- Digits of a base up to 16. -/
def digits? (base : Nat) (t : Text) : Option Nat :=
  if t.isEmpty then none else t.foldlM (fun n c => (digit? c).map (base * n + ·)) 0
where
  digit? (c : Char) : Option Nat :=
    match Text.hexDigit? c with
    | some d => if d < base then some d else none
    | none => none

/-- Several digits of which the first is a zero are no number. -/
def zeroPadded (t : Text) : Bool :=
  let ds :=
    match t with
    | '-' :: ds => ds
    | '+' :: ds => ds
    | ds => ds
  match ds with
  | '0' :: d :: ds => (d :: ds).all Char.isDigit
  | _ => false

/-- The ways in which digits may spell a whole number of which the decimal form is `decimal`:
with a base in front, or in base ten. -/
def wholeForms (padded : Bool) (t : Text) : List Nat :=
  let based :=
    match t with
    | '0' :: 'x' :: ds => (digits? 16 ds).toList
    | '0' :: 'o' :: ds => (digits? 8 ds).toList
    | '0' :: 'b' :: ds => (digits? 2 ds).toList
    | _ => []
  based ++ (if padded then [] else (digits? 10 t).toList)

/-- A whole number. -/
def int? (t : Text) : Reading Int :=
  let padded := zeroPadded t
  match t with
  | '-' :: ds =>
    match wholeForms padded ds with
    | [] => .other
    | n :: _ =>
      if n ≤ 0x8000000000000000 then .read (-(n : Int))
      else if n ≤ 0x80000000000000000000000000000000 then .refused else .other
  | t =>
    let ds :=
      match t with
      | '+' :: ds => ds
      | ds => ds
    match wholeForms padded ds with
    | [] => .other
    | n :: _ =>
      if n < UInt64.size then .read n
      else if n < UInt64.size * UInt64.size then .refused else .other

/-- The bits of a number that may be infinite or not a number; zero has no sign. -/
def floatBits (f : Float) : UInt64 :=
  if f.isNaN then 0x7FF8000000000000 else if f == 0.0 then 0 else f.toBits

/-- A binary64 number: one of the words for infinity and for what is not a number, or a decimal
of finite value. -/
def float? (t : Text) : Option UInt64 :=
  let (plus, bare) :=
    match t with
    | '+' :: bare => (true, bare)
    | bare => (false, bare)
  if plus && (bare.head? == some '+' || bare.head? == some '-') then none
  else if isInfinity bare then some (floatBits (1.0 / 0.0))
  else if bare.head? == some '-' && isInfinity bare.tail then some (floatBits (-1.0 / 0.0))
  else if t == ".nan".toList || t == ".NaN".toList || t == ".NAN".toList then
    some (floatBits (0.0 / 0.0))
  else
    match Decimal.read? bare with
    | some f => if f.isFinite then some (floatBits f) else none
    | none => none
where
  isInfinity (t : Text) : Bool :=
    t == ".inf".toList || t == ".Inf".toList || t == ".INF".toList

/-- The value of a plain scalar without a tag. -/
def Value.ofPlain? (t : Text) : Option Value :=
  if t.isEmpty || null? t then some .null
  else
    match bool? t with
    | some b => some (.bool b)
    | none =>
      match int? t with
      | .read n => some (.int n)
      | .refused => none
      | .other =>
        match if zeroPadded t then none else float? t with
        | some bits => some (.float bits)
        | none => some (.str t)

/-- The value of a scalar under a tag that names a kind of scalar, or under no tag. -/
def Value.ofScalar? (tag : Option (List UInt8)) (plain : Bool) (t : Text) : Option Value :=
  let untagged := if plain then ofPlain? t else some (.str t)
  match tag with
  | none => untagged
  | some tag =>
    if tag == standard "bool" then (bool? t).map .bool
    else if tag == standard "int" then
      match int? t with
      | .read n => some (.int n)
      | _ => none
    else if tag == standard "float" then (float? t).map .float
    else if tag == standard "null" then if null? t then some .null else none
    else if tag.head? == some 33 then untagged
    else some (.str t)
where
  /-- The tag of a kind of scalar. -/
  standard (kind : Text) : List UInt8 :=
    ("tag:yaml.org,2002:".toList ++ kind).map fun c => UInt8.ofNat c.toNat

end QuizPages.Yaml
