import QuizPages.Json.Basic

/-!
# Report items

Everything that is reported is an item: a page, a quiz or a fault. Sizes and counts are words of
64 bits and line numbers words of 32 bits, as in the written form.
-/

namespace QuizPages

/-- Lines of a file, counted from 1, both ends included. -/
structure LineRange where
  start : UInt32
  stop : UInt32
  deriving DecidableEq, Repr

inductive Severity where
  | error
  | warning
  deriving DecidableEq, Repr

/-- What is wrong: a stable code and a sentence. -/
structure Fault where
  code : Text
  message : Text
  deriving DecidableEq, Repr

namespace Item

inductive Kind where
  | page
  | quiz
  | error
  deriving DecidableEq, Repr

/-- Facts about what an item stands for. -/
structure Facts where
  /-- The size in octets. -/
  size : Option UInt64 := none
  /-- The digest of the content. -/
  digest : Option Text := none
  /-- How many quizzes were rendered. -/
  quizzes : Option UInt64 := none
  /-- Whether the page asks to be left as it is. -/
  disabled : Bool := false
  /-- Whether the excerpt is cut. -/
  truncated : Bool := false
  deriving DecidableEq, Repr

end Item

/-- One thing that is reported. -/
structure Item where
  kind : Item.Kind
  path : Option Text := none
  range : Option LineRange := none
  excerpt : Option Text := none
  /-- A payload of any shape. -/
  data : Option Json := none
  severity : Option Severity := none
  facts : Item.Facts := {}
  faults : List Fault := []

namespace Item

def ofPage (path : Text) : Item := { kind := .page, path := some path }

def ofQuiz (path : Text) (range : LineRange) (excerpt : Text) : Item :=
  { kind := .quiz, path := some path, range := some range, excerpt := some excerpt }

def ofFault (severity : Severity) (fault : Fault) : Item :=
  { kind := .error, severity := some severity, faults := [fault] }

/-- Whether an item reports a fault that counts as an error. -/
def isError (i : Item) : Bool := i.kind == .error && i.severity == some .error

end Item

/-- How many items are errors. -/
def errorCount (items : List Item) : Nat := (items.filter Item.isError).length

end QuizPages
