import QuizPages.Assets
import QuizPages.Digest
import QuizPages.Page
import QuizPages.Report.Item

/-!
# Rendering a page

The quizzes in the body give way to HTML, then the assets are appended. A disabled page stays as
it is. The report has one item for the page and one for each block that was left in place.
-/

namespace QuizPages

/-- The final text of a page with the items that tell about it, the item of the page first. -/
structure PageOutput where
  text : Text
  items : List Item

namespace PageOutput

/-- How many blocks were left in place. -/
def failures (o : PageOutput) : Nat := errorCount o.items

/-- How many quizzes were rendered. -/
def rendered (o : PageOutput) : UInt64 := (o.items.head?.bind (·.facts.quizzes)).getD 0

def disabled (o : PageOutput) : Bool := o.items.head?.any (·.facts.disabled)

end PageOutput

namespace Page

/-- The body with its quizzes rendered, unless the page is disabled. -/
def renderedBody (p : Page) : Rendered :=
  if p.disabled then ⟨p.body, []⟩ else Document.render p.body

/-- The text of the page with a rendered body, and with the assets unless it is disabled. -/
def finalText (p : Page) (assets : Option Assets) : Text :=
  let text := p.frontMatter ++ p.renderedBody.text
  match assets with
  | some a => if p.disabled then text else text ++ a.style ++ a.script
  | none => text

/-- The item of a page with its final text. -/
def item (p : Page) (text : Text) : Item :=
  { Item.ofPage p.path with
    facts :=
      { size := some (UInt64.ofNat text.size)
        digest := some (Digest.ofOctets text.octets)
        quizzes := some (UInt64.ofNat p.renderedBody.count)
        disabled := p.disabled } }

/-- The item of a block that was left in place. -/
def failureItem (p : Page) (o : Outcome) (e : FormatError) : Item :=
  { Item.ofFault .error
      ⟨e.code, "quiz " ++ Text.ofNat o.sequence ++ " skipped: " ++ e.message⟩ with
    path := some p.path
    range := some ⟨o.startLine + p.lineOffset, o.endLine + p.lineOffset⟩ }

/-- The page rendered, with the assets appended if there are any. -/
def render (p : Page) (assets : Option Assets) : PageOutput :=
  let text := p.finalText assets
  ⟨text, p.item text :: p.renderedBody.failures.map fun (o, e) => p.failureItem o e⟩

/-! ## What is logged -/

/-- A warning if the front matter cannot be read; what is wrong with it is not said. -/
def readingRecords (p : Page) : List Record :=
  if p.metadata.isNone then
    [⟨.page, .warn, "Ignoring malformed front matter in " ++ p.path ++ ": <yaml>"⟩]
  else []

/-- An error for each block that was left in place, then a count. -/
def renderingRecords (p : Page) : List Record :=
  if p.disabled then [⟨.page, .info, "Quizzes disabled for " ++ p.path⟩]
  else
    let r := p.renderedBody
    (r.failures.map fun (o, e) =>
      ⟨.page, .error, "Failed to process quiz " ++ Text.ofNat o.sequence ++ " in " ++ p.path
        ++ " (line " ++ Text.ofNat (o.startLine + p.lineOffset).toNat ++ "): " ++ e.message⟩)
      ++ [⟨.page, .debug, p.path ++ ": rendered " ++ Text.ofNat r.count ++ " of "
        ++ Text.ofNat r.outcomes.length ++ " quizzes"⟩]

/-- What is logged while a page is read and rendered. -/
def records (p : Page) : List Record := p.readingRecords ++ p.renderingRecords

end Page
end QuizPages
