import QuizPages.Report.Item

/-!
# Items as JSON

The written form leaves out what is absent, a `disabled` that is false and an empty list of
errors. The reader takes the members of an object in any order and passes over unknown ones; it
also takes an array of the members in their order, of which those that have a default may be
missing at the end.
-/

namespace QuizPages

namespace Item

/-! ## Words -/

def Kind.word : Kind → Text
  | page => "page"
  | quiz => "quiz"
  | error => "error"

def Kind.all : List Kind := [page, quiz, error]

end Item

def Severity.word : Severity → Text
  | error => "error"
  | warning => "warning"

def Severity.all : List Severity := [error, warning]

namespace Item

/-! ## Writing -/

/-- A member that is written only if it is there. -/
def member? (name : Text) (write : α → Json) (value : Option α) : List (Text × Json) :=
  (value.map fun v => (name, write v)).toList

def writeWord (n : UInt64) : Json := .int n.toNat

def writeLine (n : UInt32) : Json := .int n.toNat

def writeRange (r : LineRange) : Json :=
  .obj [("start", writeLine r.start), ("end", writeLine r.stop)]

def writeFacts (f : Facts) : Json :=
  .obj (member? "size" writeWord f.size
    ++ member? "hash" .str f.digest
    ++ member? "quizzes" writeWord f.quizzes
    ++ (if f.disabled then [("disabled".toList, .bool true)] else [])
    ++ [("truncated".toList, .bool f.truncated)])

def writeFault (f : Fault) : Json := .obj [("code", .str f.code), ("message", .str f.message)]

/-- The written form of an item. -/
def toJson (i : Item) : Json :=
  .obj ([("kind".toList, .str i.kind.word)]
    ++ member? "path" .str i.path
    ++ member? "range" writeRange i.range
    ++ member? "excerpt" .str i.excerpt
    ++ member? "data" id i.data
    ++ member? "severity" (fun s => .str s.word) i.severity
    ++ [("meta".toList, writeFacts i.facts)]
    ++ (if i.faults.isEmpty then [] else [("errors".toList, .arr (i.faults.map writeFault))]))

/-! ## Reading -/

/-- The members of a record: those of an object by name, or those of an array by place. A member
that is missing from an object is `none`; an array holds at least `least` members and no more
than there are names. -/
def members? (names : List Text) (least : Nat) : Json → Option (List (Option Json))
  | .obj given => some (names.map fun n => Json.get? n (.obj given))
  | .arr items =>
    if least ≤ items.length && items.length ≤ names.length then
      some (items.map some ++ List.replicate (names.length - items.length) none)
    else none
  | _ => none

/-- A member that may be missing or null. -/
def optional? (read : Json → Option α) : Option Json → Option (Option α)
  | none | some .null => some none
  | some j => (read j).map some

/-- A member that may be missing. -/
def default? (read : Json → Option α) (default : α) : Option Json → Option α
  | none => some default
  | some j => read j

/-- A member that must be there. -/
def required? (read : Json → Option α) : Option Json → Option α
  | none => none
  | some j => read j

def readText? : Json → Option Text
  | .str t => some t
  | _ => none

def readBool? : Json → Option Bool
  | .bool b => some b
  | _ => none

/-- A natural number below a bound. -/
def readNat? (bound : Nat) : Json → Option Nat
  | .int (.ofNat n) => if n < bound then some n else none
  | _ => none

def readWord? (j : Json) : Option UInt64 := (readNat? UInt64.size j).map UInt64.ofNat

def readLine? (j : Json) : Option UInt32 := (readNat? UInt32.size j).map UInt32.ofNat

/-- One of a few words, alone or as the only name of an object that holds null under it. -/
def readWordOf? (word : α → Text) (all : List α) : Json → Option α
  | .str t => all.find? fun a => word a == t
  | .obj [(t, .null)] => all.find? fun a => word a == t
  | _ => none

def readRange? (j : Json) : Option LineRange := do
  match ← members? ["start", "end"] 2 j with
  | [start, stop] => some ⟨← required? readLine? start, ← required? readLine? stop⟩
  | _ => none

def readFault? (j : Json) : Option Fault := do
  match ← members? ["code", "message"] 2 j with
  | [code, message] => some ⟨← required? readText? code, ← required? readText? message⟩
  | _ => none

def readFaults? : Json → Option (List Fault)
  | .arr items => items.mapM readFault?
  | _ => none

def readFacts? (j : Json) : Option Facts := do
  match ← members? ["size", "hash", "quizzes", "disabled", "truncated"] 3 j with
  | [size, digest, quizzes, disabled, truncated] =>
    some {
      size := ← optional? readWord? size
      digest := ← optional? readText? digest
      quizzes := ← optional? readWord? quizzes
      disabled := ← default? readBool? false disabled
      truncated := ← default? readBool? false truncated }
  | _ => none

/-- The item that a value is the written form of. The members of its data come in the order of
their names. -/
def ofJson? (j : Json) : Option Item := do
  match ← members? ["kind", "path", "range", "excerpt", "data", "severity", "meta", "errors"] 7 j
    with
  | [kind, path, range, excerpt, data, severity, facts, faults] =>
    some {
      kind := ← required? (readWordOf? Kind.word Kind.all) kind
      path := ← optional? readText? path
      range := ← optional? readRange? range
      excerpt := ← optional? readText? excerpt
      data := ← optional? (fun d => some d.sorted) data
      severity := ← optional? (readWordOf? Severity.word Severity.all) severity
      facts := ← required? readFacts? facts
      faults := ← default? readFaults? [] faults }
  | _ => none

end Item
end QuizPages
