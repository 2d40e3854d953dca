import QuizPages.Text.Basic

/-!
# YAML values

What a YAML text means once plain scalars have become numbers, truth values and nulls.
`Value.same` is the equality of keys: the order of a mapping's entries does not count.
-/

namespace QuizPages.Yaml

inductive Value where
  | null
  | bool (value : Bool)
  | int (value : Int)
  /-- A binary64 number by its bits; there is one zero and one that is not a number. -/
  | float (bits : UInt64)
  | str (text : Text)
  | sequence (items : List Value)
  | mapping (entries : List (Value × Value))
  /-- A value with a tag of the document's own, as octets. -/
  | tagged (tag : List UInt8) (value : Value)

namespace Value

/-- A tag is the same with and without its leading `!`. -/
def bareTag : List UInt8 → List UInt8
  | 33 :: b :: bs => b :: bs
  | bs => bs

mutual

/-- Whether two values are equal as keys. -/
def same : Value → Value → Bool
  | .null, .null => true
  | .bool a, .bool b => a == b
  | .int a, .int b => a == b
  | .float a, .float b => a == b
  | .str a, .str b => a == b
  | .sequence as, .sequence bs => sameItems as bs
  | .mapping as, .mapping bs => as.length == bs.length && sameEntries as bs
  | .tagged s a, .tagged t b => bareTag s == bareTag t && same a b
  | _, _ => false

def sameItems : List Value → List Value → Bool
  | [], [] => true
  | a :: as, b :: bs => same a b && sameItems as bs
  | _, _ => false

/-- Every entry of the first list is in the second. -/
def sameEntries : List (Value × Value) → List (Value × Value) → Bool
  | [], _ => true
  | e :: es, bs => (bs.any fun b => sameEntry e b) && sameEntries es bs

def sameEntry : Value × Value → Value × Value → Bool
  | (k, v), b => same k b.1 && same v b.2

end

/-- The text of a string, whatever its tags. -/
def text? : Value → Option Text
  | .str t => some t
  | .tagged _ v => v.text?
  | _ => none

/-- Whether no key comes twice. -/
def distinctKeys : List (Value × Value) → Bool
  | [] => true
  | e :: es => !(es.any fun f => f.1.same e.1) && distinctKeys es

end Value
end QuizPages.Yaml
