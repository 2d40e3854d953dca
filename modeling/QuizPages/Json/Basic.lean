import QuizPages.Text.Basic

/-!
# JSON values

A number is a whole number or a binary64 number given by its bits. The members of an object
are in the order in which they are written; `Json.sorted` puts them in the order of their
names, each name once.
-/

namespace QuizPages

inductive Json where
  | null
  | bool (value : Bool)
  /-- A number without fraction or exponent. -/
  | int (value : Int)
  /-- A binary64 number, by its bits. -/
  | float (bits : UInt64)
  | str (text : Text)
  | arr (items : List Json)
  | obj (members : List (Text × Json))

namespace Json

/-- Whether a whole number is written as one: it fits 64 bits, signed or unsigned. -/
def fits64 (n : Int) : Bool := -0x8000000000000000 ≤ n && n < UInt64.size

/-- Puts a member in its place by name; a name that is there already gives way. -/
def insertMember (name : Text) (value : Json) : List (Text × Json) → List (Text × Json)
  | [] => [(name, value)]
  | (n, v) :: rest =>
    match name.compare n with
    | .lt => (name, value) :: (n, v) :: rest
    | .eq => (name, value) :: rest
    | .gt => (n, v) :: insertMember name value rest

mutual

/-- With the members of every object in the order of their names. Of two members of one name
the later stays. -/
def sorted : Json → Json
  | .arr items => .arr (sortedItems items)
  | .obj members => .obj (sortedMembers members [])
  | j => j

/-- What `sorted` does to the items of an array. -/
def sortedItems : List Json → List Json
  | [] => []
  | j :: rest => sorted j :: sortedItems rest

/-- What `sorted` does to members, put in place one after another. -/
def sortedMembers : List (Text × Json) → List (Text × Json) → List (Text × Json)
  | [], done => done
  | (n, v) :: rest, done => sortedMembers rest (insertMember n (sorted v) done)

end

/-- The value of the first member with a name. -/
def get? (name : Text) : Json → Option Json
  | .obj members => (members.find? fun m => m.1 == name).map (·.2)
  | _ => none

end Json
end QuizPages
