import QuizPages.Block
import QuizPages.Quiz.Html

/-!
# Documents with their quizzes rendered

Every well-formed block gives way to its HTML; a malformed block stays as it is. Rendered
quizzes are numbered from zero without gaps, blocks by their place among all blocks.
-/

namespace QuizPages

/-- What became of one block. -/
structure Outcome where
  /-- The place among all blocks of the document, from zero. -/
  sequence : Nat
  startLine : UInt32
  endLine : UInt32
  /-- The number of the rendered quiz, or why the block stayed. -/
  result : Except FormatError Nat

/-- A document's text after rendering, with one outcome for each block. -/
structure Rendered where
  text : Text
  outcomes : List Outcome

namespace Rendered

/-- How many quizzes were rendered. -/
def count (r : Rendered) : Nat := (r.outcomes.filter (·.result.isOk)).length

/-- The blocks that stayed, each with its reason. -/
def failures (r : Rendered) : List (Outcome × FormatError) :=
  r.outcomes.filterMap fun o =>
    match o.result with
    | .ok _ => none
    | .error e => some (o, e)

end Rendered

namespace Document

/-- Renders the blocks that start at or after `cursor`. `rest` is the document from the cursor
on, `id` the number of the next rendered quiz, `sequence` that of the next block. -/
def renderFrom (cursor : Nat) (rest : Text) (id sequence : Nat) : List Block → Rendered
  | [] => ⟨rest, []⟩
  | b :: later =>
    let gap := rest.takeOctets (b.start - cursor)
    let after := rest.dropOctets (b.stop - cursor)
    match Quiz.parse b.body with
    | .ok quiz =>
      let r := renderFrom b.stop after (id + 1) (sequence + 1) later
      ⟨gap ++ quiz.html id ++ r.text, ⟨sequence, b.startLine, b.endLine, .ok id⟩ :: r.outcomes⟩
    | .error e =>
      let r := renderFrom b.stop after id (sequence + 1) later
      ⟨gap ++ b.raw ++ r.text, ⟨sequence, b.startLine, b.endLine, .error e⟩ :: r.outcomes⟩

/-- A document with its quizzes rendered. -/
def render (document : Text) : Rendered := renderFrom 0 document 0 0 (Block.all document)

end Document
end QuizPages
