import QuizPages.Json.Printer
import QuizPages.Report.Written

/-!
# Reports

The items of a report as one text: JSON values one after another or in an array, a Markdown
summary by kind, or the bare excerpts.
-/

namespace QuizPages

namespace Report

inductive Format where
  | jsonl
  | json
  | markdown
  | raw
  deriving DecidableEq, Repr, Inhabited

/-- The format of a name, in letters of either case. -/
def Format.ofName? (name : Text) : Option Format :=
  let name := String.ofList name.lower
  if name == "jsonl" then some .jsonl
  else if name == "json" then some .json
  else if name == "md" || name == "markdown" then some .markdown
  else if name == "raw" then some .raw
  else none

/-- What is said about a name that no format has. -/
def Format.unknown (name : Text) : Text := "Unknown format: " ++ name

/-- How a report is written. -/
structure Style where
  format : Format := .jsonl
  pretty : Bool := false
  deriving DecidableEq, Repr

namespace Style

def layout (s : Style) : Json.Layout := if s.pretty then .indented else .compact

end Style

/-! ## Markdown -/

/-- A text as code. -/
def code (t : Text) : Text := '\x60' :: t ++ ['\x60']

/-- A word for how bad a fault is. -/
def severityWord : Option Severity → Text
  | some .warning => "warning"
  | _ => "error"

/-- The line for one fault of an item. -/
def faultLine (i : Item) (f : Fault) : Text :=
  "- **" ++ f.code ++ "** (" ++ severityWord i.severity ++ "): " ++ f.message ++ place ++ "\n"
where
  place : Text :=
    match i.path with
    | none => []
    | some p =>
      ' ' :: code p ++ (match i.range with
        | none => []
        | some r => ':' :: Text.ofNat r.start.toNat)

/-- The line for a page; a page without a path has none. -/
def pageLine (i : Item) : Text :=
  match i.path with
  | none => []
  | some p => "- " ++ code p ++ remark ++ "\n"
where
  remark : Text :=
    if i.facts.disabled then " (quizzes disabled)"
    else
      match i.facts.quizzes with
      | none => []
      | some n => " (" ++ Text.ofNat n.toNat ++ " quizzes)"

/-- The paragraphs for a quiz. -/
def quizEntry (i : Item) : Text := title ++ excerpt ++ truncated ++ "\n"
where
  title : Text :=
    match i.path with
    | none => []
    | some p =>
      "### " ++ code p ++ (match i.range with
        | none => []
        | some r => " (lines " ++ Text.ofNat r.start.toNat ++ "-" ++ Text.ofNat r.stop.toNat ++ ")")
        ++ "\n"
  excerpt : Text :=
    match i.excerpt with
    | none => []
    | some t => "\n> " ++ t ++ "\n"
  truncated : Text := if i.facts.truncated then "\n> (question truncated)\n" else []

/-- A heading, the entries of the items of one kind, and an empty line; nothing for no items. -/
def chapter (heading : Text) (items : List Item) (entry : Item → Text) : Text :=
  if items.isEmpty then [] else "## " ++ heading ++ "\n\n" ++ items.flatMap entry ++ "\n"

/-- The items by kind: errors, pages, quizzes. -/
def markdown (items : List Item) : Text :=
  chapter "Errors" (items.filter (·.kind == .error)) (fun i => i.faults.flatMap (faultLine i))
    ++ chapter "Pages" (items.filter (·.kind == .page)) pageLine
    ++ chapter "Quizzes" (items.filter (·.kind == .quiz)) quizEntry

/-! ## All formats -/

/-- A report in a style. -/
def render (style : Style) (items : List Item) : Text :=
  match style.format with
  | .jsonl =>
    Text.join (if style.pretty then "\n\n" else "\n")
      (items.map fun i => i.toJson.render style.layout)
  | .json => (Json.arr (items.map Item.toJson)).render style.layout
  | .markdown => markdown items
  | .raw => Text.join "\n---\n" (items.filterMap (·.excerpt))

end Report
end QuizPages
