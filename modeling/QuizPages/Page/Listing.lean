import QuizPages.Digest
import QuizPages.Page
import QuizPages.Report.Item

/-!
# Listing the quizzes of a page

One item for each block: what the quiz asks and how many answers it has, or why it is none.
-/

namespace QuizPages.Page

/-- The most octets of a question that are shown. -/
def maxExcerpt : Nat := 200

/-- The lines of a block within the page. -/
def rangeOf (p : Page) (b : Block) : LineRange :=
  ⟨b.startLine + p.lineOffset, b.endLine + p.lineOffset⟩

/-- The item of a quiz with its number among the quizzes and that of its block. -/
def quizItem (p : Page) (b : Block) (q : Quiz) (id sequence : Nat) : Item :=
  let (excerpt, cut) := Text.truncate q.question maxExcerpt
  { Item.ofQuiz p.path (p.rangeOf b) excerpt with
    data := some (.obj [("answers", .int q.answers.length), ("correct", .int q.correctCount),
      ("index", .int id), ("multi_select", .bool q.multiSelect), ("sequence", .int sequence)])
    facts := { digest := some (Digest.ofOctets b.body.octets), truncated := cut } }

/-- The item of a block that holds no quiz. -/
def brokenItem (p : Page) (b : Block) (e : FormatError) : Item :=
  { Item.ofFault .error ⟨e.code, e.message⟩ with path := some p.path, range := some (p.rangeOf b) }

/-- The items of blocks, from the given numbers on. -/
def itemsFrom (p : Page) (id sequence : Nat) : List Block → List Item
  | [] => []
  | b :: later =>
    match Quiz.parse b.body with
    | .ok q => p.quizItem b q id sequence :: itemsFrom p (id + 1) (sequence + 1) later
    | .error e => p.brokenItem b e :: itemsFrom p id (sequence + 1) later

/-- One item for each block of the body, also if the page is disabled. -/
def list (p : Page) : List Item := p.itemsFrom 0 0 (Block.all p.body)

end QuizPages.Page
