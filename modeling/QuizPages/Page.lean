import QuizPages.Document
import QuizPages.FrontMatter

/-!
# Pages

A page is a path and a text; the text splits into front matter and a body. Line numbers of the
body become those of the page by adding the lines of the front matter.
-/

namespace QuizPages

structure Page where
  /-- How the page is called in reports and logs. -/
  path : Text
  /-- What the front matter says; `none` if it cannot be read. -/
  metadata : Option Metadata
  frontMatter : Text
  body : Text

namespace Page

/-- The page of a text. -/
def ofText (path text : Text) : Page :=
  let (front, body) := splitFrontMatter text
  { path, metadata := Metadata.ofFrontMatter? front, frontMatter := front, body }

/-- How many lines the front matter takes. -/
def lineOffset (p : Page) : UInt32 := UInt32.ofNat p.frontMatter.feeds

/-- Whether the page asks to be left as it is. Front matter that cannot be read asks nothing. -/
def disabled (p : Page) : Bool := p.metadata.any Metadata.disablesQuizzes

end Page
end QuizPages
