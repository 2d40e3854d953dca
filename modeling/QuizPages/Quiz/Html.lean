import QuizPages.Quiz.Basic

/-!
# The HTML of a quiz

A fragment holds a form with one input for each answer, and the content in a hidden section.
Question, answers and content are put in as they are. The identifier of an input is made of
the number of the quiz on its page and the index of the answer.
-/

namespace QuizPages.Quiz

/-- The identifier of one answer's input. -/
def inputId (id index : Nat) : Text :=
  "quiz-" ++ Text.ofNat id ++ '-' :: Text.ofNat index

/-- The type of the inputs: several may be picked, or one. -/
def inputType (q : Quiz) : Text := if q.multiSelect then "checkbox" else "radio"

/-- One answer: its input and its label. -/
def answerHtml (kind : Text) (id index : Nat) (a : Answer) : Text :=
  "<div><input type=\"" ++ kind ++ "\" name=\"answer\" value=\"" ++ Text.ofNat index
    ++ "\" id=\"" ++ inputId id index ++ "\"" ++ (if a.correct then " correct" else "")
    ++ "><label for=\"" ++ inputId id index ++ "\">" ++ a.text ++ "</label></div>"

/-- The answers from one index on. -/
def answersHtml (kind : Text) (id : Nat) : Nat → List Answer → Text
  | _, [] => []
  | index, a :: rest => answerHtml kind id index a ++ answersHtml kind id (index + 1) rest

/-- The fragment that stands for a quiz on its page. -/
def html (q : Quiz) (id : Nat) : Text :=
  "<div class=\"quiz\"><h3>" ++ q.question ++ "</h3><form><fieldset>"
    ++ answersHtml q.inputType id 0 q.answers
    ++ "</fieldset><button type=\"submit\" class=\"quiz-button\">Submit</button></form>"
    ++ "<section class=\"content hidden\">" ++ q.content ++ "</section></div>"

end QuizPages.Quiz
