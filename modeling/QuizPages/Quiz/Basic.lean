import QuizPages.Text.Lines

/-!
# Quizzes

The body of a quiz is line oriented: a question line, answer lines, a line `content:` and
lines of raw HTML. Empty lines at both edges do not count. Lines between the question and
`content:` that are no answers are passed over.
-/

namespace QuizPages

/-- One answer that a reader may pick. -/
structure Answer where
  text : Text
  correct : Bool
  deriving DecidableEq, Repr

/-- A structurally valid quiz. -/
structure Quiz where
  question : Text
  answers : List Answer
  contentLines : List Text
  deriving DecidableEq, Repr

/-- Why a body is no quiz. -/
inductive FormatError where
  /-- Every line is empty. -/
  | empty
  /-- The first line is not a question. -/
  | missingQuestion
  /-- No line is `content:`. -/
  | missingContentMarker
  deriving DecidableEq, Repr

namespace FormatError

/-- The stable code used in reports. -/
def code : FormatError → Text
  | empty => "EMPTY_QUIZ"
  | missingQuestion => "MISSING_QUESTION"
  | missingContentMarker => "MISSING_CONTENT_MARKER"

def message : FormatError → Text
  | empty => "quiz content is empty"
  | missingQuestion => "quiz must start with 'question: '"
  | missingContentMarker => "quiz must include 'content:' section"

end FormatError

namespace Quiz

/-- What a question line starts with. -/
def questionLead : Text := "question: "

/-- What the line of a correct answer starts with. -/
def correctLead : Text := "answer-correct: "

/-- What the line of any other answer starts with. -/
def answerLead : Text := "answer: "

/-- The line in front of the content. -/
def contentMarker : Text := "content:"

/-- How many answers are correct. -/
def correctCount (q : Quiz) : Nat := (q.answers.filter (·.correct)).length

/-- A quiz with more than one correct answer lets the reader pick several. -/
def multiSelect (q : Quiz) : Bool := 1 < q.correctCount

/-- The content lines as one text. -/
def content (q : Quiz) : Text := Text.join ['\n'] q.contentLines

/-- The answer that a line gives, if it is an answer line. -/
def answer? (line : Text) : Option Answer :=
  match Text.after? correctLead line with
  | some t => some ⟨t, true⟩
  | none => (Text.after? answerLead line).map (⟨·, false⟩)

/-- The lines without the empty ones at the start and at the end. Lines of blanks are kept. -/
def withoutEdges (lines : List Text) : List Text :=
  ((lines.dropWhile List.isEmpty).reverse.dropWhile List.isEmpty).reverse

/-- The quiz that lines without empty edges hold. -/
def ofLines : List Text → Except FormatError Quiz
  | [] => .error .empty
  | first :: rest =>
    match Text.after? questionLead first with
    | none => .error .missingQuestion
    | some question =>
      match rest.dropWhile (· != contentMarker) with
      | [] => .error .missingContentMarker
      | _ :: content =>
        .ok ⟨question, (rest.takeWhile (· != contentMarker)).filterMap answer?, content⟩

/-- The quiz that a body holds. -/
def parse (body : Text) : Except FormatError Quiz := ofLines (withoutEdges (Text.lines body))

end Quiz
end QuizPages
