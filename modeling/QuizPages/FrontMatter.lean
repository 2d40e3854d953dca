import QuizPages.Text.Lines
import QuizPages.Text.Space
import QuizPages.Yaml.Reader

/-!
# Front matter

A page may open with a YAML mapping between a line `---` and a line `---` or `...`. Without the
closing line nothing is front matter. Both lines belong to the front matter, which is kept as
it is written.
-/

namespace QuizPages

/-- Whether a line opens front matter. -/
def opensFrontMatter (line : Text) : Bool := line.trimEnd == "---".toList

/-- Whether a line closes front matter. -/
def closesFrontMatter (line : Text) : Bool :=
  line.trimEnd == "---".toList || line.trimEnd == "...".toList

/-- The lines through the first that closes front matter, and the lines after it. -/
def throughClosing? : List Text → Option (List Text × List Text)
  | [] => none
  | l :: ls =>
    if closesFrontMatter l then some ([l], ls)
    else (throughClosing? ls).map fun (front, rest) => (l :: front, rest)

/-- The front matter of a page with its two delimiter lines, and the text after it. -/
def splitFrontMatter (t : Text) : Text × Text :=
  match t.pieces with
  | [] => ([], t)
  | first :: rest =>
    if opensFrontMatter first then
      match throughClosing? rest with
      | some (front, body) => (first ++ front.flatten, body.flatten)
      | none => ([], t)
    else ([], t)

/-- What follows the first line feed. -/
def afterFirstFeed : Text → Text
  | [] => []
  | c :: cs => if c = '\n' then cs else afterFirstFeed cs

/-- A text without the line feed at its end, if there is one. -/
def withoutLastFeed : Text → Text
  | [] => []
  | [c] => if c = '\n' then [] else [c]
  | c :: cs => c :: withoutLastFeed cs

/-- The text between the delimiter lines of front matter. -/
def frontMatterBody (front : Text) : Text :=
  Text.throughLastFeed (withoutLastFeed (afterFirstFeed front))

/-- The entries of a page's front matter under string keys, in the order of the text. -/
structure Metadata where
  entries : List (Text × Yaml.Value) := []

namespace Metadata

/-- The metadata that a YAML value holds: none unless it is a mapping. -/
def ofValue : Yaml.Value → Metadata
  | .mapping entries => ⟨entries.filterMap fun e => e.1.text?.map fun k => (k, e.2)⟩
  | _ => {}

/-- The metadata of front matter; `none` for malformed YAML. -/
def ofFrontMatter? (front : Text) : Option Metadata :=
  let body := frontMatterBody front
  if body.isBlank then some {} else (Yaml.Value.read? body).map ofValue

/-- The string under a key. Of two entries with one key the later counts. -/
def get? (m : Metadata) (key : Text) : Option Text := do
  let e ← m.entries.reverse.find? (·.1 == key)
  e.2.text?

/-- Whether the page asks to be left as it is. -/
def disablesQuizzes (m : Metadata) : Bool := m.get? "quiz" == some "disable".toList

end Metadata
end QuizPages
