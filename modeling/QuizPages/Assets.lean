import QuizPages.FileTree.Access
import QuizPages.Log

/-!
# Assets

The stylesheet and the script that all quizzes of a page share. They come with the program or
from a directory; if that cannot be read, pages get neither.
-/

namespace QuizPages

/-- What is appended to a page, ready to be written. -/
structure Assets where
  style : Text
  script : Text
  deriving DecidableEq, Repr

namespace Assets

/-- The stylesheet that comes with the program. -/
def stylesheet : Text := ([
  ".quiz \x7b",
  "  margin: 1.5em 0;",
  "  padding: 1em 1.2em;",
  "  border: 1px solid rgba(0, 0, 0, 0.12);",
  "  border-radius: 6px;",
  "\x7d",
  "",
  ".quiz h3 \x7b",
  "  margin-top: 0;",
  "\x7d",
  "",
  ".quiz fieldset \x7b",
  "  border: none;",
  "  margin: 0;",
  "  padding: 0;",
  "\x7d",
  "",
  ".quiz fieldset > div \x7b",
  "  margin: 0.3em 0;",
  "  padding: 0.3em 0.5em;",
  "  border-radius: 4px;",
  "\x7d",
  "",
  ".quiz fieldset > div.correct \x7b",
  "  background-color: rgba(0, 200, 83, 0.15);",
  "\x7d",
  "",
  ".quiz fieldset > div.wrong \x7b",
  "  background-color: rgba(255, 82, 82, 0.15);",
  "\x7d",
  "",
  ".quiz label \x7b",
  "  margin-left: 0.4em;",
  "  cursor: pointer;",
  "\x7d",
  "",
  ".quiz-button \x7b",
  "  margin-top: 0.8em;",
  "  padding: 0.4em 1.2em;",
  "  border: none;",
  "  border-radius: 4px;",
  "  background-color: #4051b5;",
  "  color: #fff;",
  "  cursor: pointer;",
  "\x7d",
  "",
  ".quiz-button:disabled \x7b",
  "  opacity: 0.6;",
  "  cursor: default;",
  "\x7d",
  "",
  ".quiz .content \x7b",
  "  margin-top: 1em;",
  "\x7d",
  "",
  ".quiz .hidden \x7b",
  "  display: none;",
  "\x7d"].map fun line => line ++ "\n").flatMap String.toList

/-- The script that comes with the program. -/
def behaviour : Text := ([
  "document.querySelectorAll(\".quiz\").forEach((quiz) => \x7b",
  "  const form = quiz.querySelector(\"form\");",
  "  const fieldset = form.querySelector(\"fieldset\");",
  "  const section = quiz.querySelector(\"section.content\");",
  "",
  "  form.addEventListener(\"submit\", (event) => \x7b",
  "    event.preventDefault();",
  "    const selected = fieldset.querySelectorAll('input[name=\"answer\"]:checked');",
  "    const correct = fieldset.querySelectorAll('input[name=\"answer\"][correct]');",
  "",
  "    let isCorrect = selected.length === correct.length;",
  "    selected.forEach((input) => \x7b",
  "      if (!input.hasAttribute(\"correct\")) \x7b",
  "        isCorrect = false;",
  "      \x7d",
  "    \x7d);",
  "",
  "    for (const child of fieldset.children) \x7b",
  "      child.classList.remove(\"correct\", \"wrong\");",
  "    \x7d",
  "    selected.forEach((input) => \x7b",
  "      input.parentElement.classList.add(input.hasAttribute(\"correct\") ? \"correct\" : \"wrong\");",
  "    \x7d);",
  "",
  "    section.classList.toggle(\"hidden\", !isCorrect);",
  "  \x7d);",
  "\x7d);"].map fun line => line ++ "\n").flatMap String.toList

/-- A stylesheet and a script in their elements. -/
def ofText (css js : Text) : Assets where
  style := "<style type=\"text/css\">" ++ css ++ "</style>"
  script := "<script type=\"text/javascript\" defer>" ++ js ++ "</script>"

def bundled : Assets := ofText stylesheet behaviour

/-- Nothing to append. -/
def none : Assets := ⟨[], []⟩

/-- What is appended to a page. -/
def snippet (a : Assets) : Text := a.style ++ a.script

def isEmpty (a : Assets) : Bool := a.style.isEmpty && a.script.isEmpty

/-- The text of a file in a directory, or what to say about it. -/
def readIn (t : FileTree) (dir : Path) (name : Text) : Except Text Text :=
  let path := dir.join ⟨name⟩
  match t.readText path with
  | .ok text => .ok text
  | .error e => .error ("Failed to read " ++ path.text ++ ": " ++ e.message)

/-- The assets in a directory. -/
def ofDirectory (t : FileTree) (dir : Path) : Except Text Assets := do
  let css ← readIn t dir "quiz.css"
  let js ← readIn t dir "quiz.js"
  return ofText css js

/-- The assets in a directory, or those of the program, and what there is to say. -/
def load (t : FileTree) : Option Path → Assets × List Record
  | .none => (bundled, [])
  | some dir =>
    match ofDirectory t dir with
    | .ok assets => (assets, [])
    | .error e => (none, [⟨.assets, .error, "Failed to load CSS/JS resources: " ++ e⟩])

end Assets
end QuizPages
