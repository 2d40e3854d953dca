import QuizPages.Text.Basic

/-!
# Log records

A record comes from a part of the program. Filters call the parts by names that start with the
name of the program.
-/

namespace QuizPages

/-- How the program calls itself. -/
def programName : Text := "quizmark"

/-- How much a record matters; `trace` matters least. -/
inductive Level where
  | error
  | warn
  | info
  | debug
  | trace
  deriving DecidableEq, Repr

namespace Level

def name : Level → Text
  | error => "ERROR"
  | warn => "WARN"
  | info => "INFO"
  | debug => "DEBUG"
  | trace => "TRACE"

/-- From 1 for errors to 5. -/
def rank : Level → Nat
  | error => 1
  | warn => 2
  | info => 3
  | debug => 4
  | trace => 5

end Level

/-- The parts of the program that have something to log. -/
inductive Part where
  /-- What holds for every command. -/
  | commandLine
  | assets
  | page
  /-- The command that renders one page. -/
  | render
  | build
  | list
  | lint
  | scan
  deriving DecidableEq, Repr

/-- The name of a part, from the program down. -/
def Part.name (p : Part) : Text :=
  programName ++ (match p with
    | commandLine => "::cli"
    | assets => "::assets"
    | page => "::page"
    | render => "::flows::page"
    | build => "::flows::build"
    | list => "::quiz::api"
    | lint => "::quiz::lint"
    | scan => "::backends::scan")

/-- One record of a log. -/
structure Record where
  part : Part
  level : Level
  text : Text
  deriving DecidableEq, Repr

end QuizPages
