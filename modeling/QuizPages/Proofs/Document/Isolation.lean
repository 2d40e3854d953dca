import Mathlib.Data.List.Forall2
import QuizPages.Proofs.Document.Transcript

/-!
# Blocks do not disturb each other

Two documents that differ in the body of one block are cut alike in front of the block and behind
it. Their renderings then agree piece by piece, except that the quizzes behind the block are
numbered one higher or lower if only one of the two bodies holds a quiz: `render_around`.
-/

namespace QuizPages.Document

open Block

/-- A block between two texts. -/
def around (before body after : Text) : Text :=
  before ++ (Marker.start.text ++ (body ++ (Marker.stop.text ++ after)))

/-! ## Pieces that agree -/

/-- Two pieces are the same, except that the number of a quiz is larger by `shift` in the second
and that the second may stand elsewhere. -/
structure Piece.SameUpTo (shift : Int) (x x' : Piece) : Prop where
  gap : x'.gap = x.gap
  raw : x'.block.raw = x.block.raw
  body : x'.block.body = x.block.body
  /-- Both fail with one reason, or none does. -/
  failed : ∀ e, x'.outcome.result = .error e ↔ x.outcome.result = .error e
  /-- What fails stays as it is. -/
  stays : ∀ e, x.outcome.result = .error e → x.output = x.block.raw ∧ x'.output = x'.block.raw
  /-- What is rendered is one quiz under its two numbers. -/
  rendered : ∀ id, x.outcome.result = .ok id → ∃ q id', Quiz.parse x.block.body = .ok q ∧
    x'.outcome.result = .ok id' ∧ (id' : Int) = id + shift ∧
    x.output = q.html id ∧ x'.output = q.html id'

/-- The gap and the body decide about a piece, up to its numbers. -/
theorem sameUpTo_pieceOf {part part' : Text × Block} (cuts : cut part' = cut part) {shift : Int}
    {id id' : Nat} (ids : (id' : Int) = id + shift) (sequence sequence' : Nat) :
    (pieceOf id sequence part).SameUpTo shift (pieceOf id' sequence' part') := by
  obtain ⟨gap, b⟩ := part
  obtain ⟨gap', b'⟩ := part'
  obtain ⟨rfl, body⟩ := Prod.mk.inj cuts
  simp only at body
  have raw : b'.raw = b.raw := by rw [Block.raw, Block.raw, body]
  rcases parsed : Quiz.parse b.body with e | q
  · refine ⟨rfl, raw, body, ?_, ?_, ?_⟩ <;>
      simp [pieceOf, outcomeOf, fragment, body, parsed, Except.map, Block.raw]
  · refine ⟨rfl, raw, body, ?_, ?_, ?_⟩ <;>
      simp [pieceOf, outcomeOf, fragment, body, parsed, Except.map, ids]

/-- Where the cuts agree, pieces differ by the numbers they start from. -/
theorem forall₂_sameUpTo {parts parts' : List (Text × Block)}
    (cuts : parts'.map cut = parts.map cut) {shift : Int} {id id' : Nat}
    (ids : (id' : Int) = id + shift) (sequence sequence' : Nat) :
    List.Forall₂ (Piece.SameUpTo shift) (piecesFrom id sequence parts)
      (piecesFrom id' sequence' parts') := by
  induction parts generalizing parts' id id' sequence sequence' with
  | nil =>
    obtain rfl := List.map_eq_nil_iff.1 cuts
    exact .nil
  | cons part parts ih =>
    obtain ⟨part', parts', rfl, first, cuts⟩ := List.map_eq_cons_iff.1 cuts
    have body : part'.2.body = part.2.body := congrArg Prod.snd first
    refine .cons (sameUpTo_pieceOf first ids sequence sequence') (ih cuts ?_ _ _)
    rw [body]
    push_cast
    omega

/-! ## Two documents -/

/-- The cover of a text that ends outside a block goes on with the block and what is behind it. -/
theorem exists_cover_around {before : Text} {parts : List (Text × Block)} {gap : Text}
    (cover : Cover [] before parts gap) (outside : ¬ Marker.start.text <:+: gap) {body : Text}
    (free : ¬ Marker.stop.text <:+: body) (after : Text) :
    ∃ b later tail, b.body = body ∧ b.start = before.size ∧
      Cover (before ++ b.raw) after later tail ∧
      Cover [] (around before body after) (parts ++ (gap, b) :: later) tail := by
  let b := placedAt (around before body after) before.size body
  have placed : PlacedAfter before b := placedAfter_placedAt after rfl
  obtain ⟨l, rfl⟩ := Layout.exists_text_eq after
  have whole : around before body l.text = before ++ (b.raw ++ l.text) := by
    simp [around, b, placedAt, Block.raw]
  obtain ⟨later, tail, behind, -⟩ := exists_cover l (whole.trans (List.append_assoc _ _ _).symm)
  refine ⟨b, later, tail, rfl, rfl, behind, ?_⟩
  rw [whole]
  exact cover.append_block outside free placed behind

/-- **Isolation**: where a block comes behind a text that ends outside a block, another body in its
place changes that block alone. The pieces in front of it are the same in both renderings; those
behind it have the same gaps, blocks and outcomes, up to the numbers of their quizzes, which move by
the quizzes that the block itself gains or loses. -/
theorem render_around {before : Text} (outside : ¬ Marker.start.text <:+: afterAll before)
    {body body' : Text} (free : ¬ Marker.stop.text <:+: body)
    (free' : ¬ Marker.stop.text <:+: body') (after : Text) :
    ∃ front x x' behind behind' tail,
      Transcript (around before body after) (front ++ x :: behind) tail ∧
      Transcript (around before body' after) (front ++ x' :: behind') tail ∧
      front.length = (Block.all before).length ∧
      (x'.gap = x.gap ∧ x.block.start = before.size ∧ x.block.body = body ∧
        x'.block.start = before.size ∧ x'.block.body = body') ∧
      (∀ y ∈ front, y.SameUpTo 0 y) ∧
      List.Forall₂ (Piece.SameUpTo (quizzesIn body' - quizzesIn body)) behind behind' := by
  obtain ⟨parts, gap, cover, found⟩ := exists_cover_all before
  rw [cover.afterAll_eq] at outside
  obtain ⟨b, later, tail, rfl, start, behind, whole⟩ :=
    exists_cover_around cover outside free after
  obtain ⟨b', later', tail', rfl, start', behind', whole'⟩ :=
    exists_cover_around cover outside free' after
  obtain ⟨cuts, rfl⟩ := behind.cut_unique behind'
  -- The block has one number in both documents: it counts what is in front of it.
  obtain ⟨id, append⟩ := exists_piecesFrom_append 0 0 parts
  have told := transcript_of_cover whole
  have told' := transcript_of_cover whole'
  rw [append, piecesFrom] at told told'
  refine ⟨_, _, _, _, _, _, told, told', ?_, ⟨rfl, start, rfl, start', rfl⟩, ?_, ?_⟩
  · rw [length_piecesFrom, ← found, List.length_map]
  · exact List.forall₂_same.1 (forall₂_sameUpTo rfl (by simp) 0 0)
  · refine forall₂_sameUpTo cuts ?_ _ _
    push_cast
    omega

/-- A quiz and an end marker that closes nothing. -/
def quizBefore : Text := "<?quiz?>question: a\ncontent:<?/quiz?> <?/quiz?> "

/-- A quiz and a block that stays. -/
def quizBehind : Text := "<?quiz?>\nquestion: c\ncontent:\n<?/quiz?>\n<?quiz?><?/quiz?>"

/-- No quiz, with a start marker in it. -/
def nestedBody : Text := "\n<?quiz?>\nquestion: b\ncontent:\n"

def quizBody : Text := "\nquestion: b\ncontent:\n"

theorem render_around_quizBehind :
    ¬ Marker.start.text <:+: afterAll quizBefore ∧ ¬ Marker.stop.text <:+: nestedBody ∧
    ¬ Marker.stop.text <:+: quizBody ∧
    ∃ front x x' behind behind' tail,
      Transcript (around quizBefore nestedBody quizBehind) (front ++ x :: behind) tail ∧
      Transcript (around quizBefore quizBody quizBehind) (front ++ x' :: behind') tail ∧
      front.length = 1 ∧ List.Forall₂ (Piece.SameUpTo 1) behind behind' := by
  have outside : ¬ Marker.start.text <:+: afterAll quizBefore :=
    Text.cut?_eq_none_iff.1 (by decide +kernel)
  have free : ¬ Marker.stop.text <:+: nestedBody := Text.cut?_eq_none_iff.1 (by decide +kernel)
  have free' : ¬ Marker.stop.text <:+: quizBody := Text.cut?_eq_none_iff.1 (by decide +kernel)
  have one : (Block.all quizBefore).length = 1 := by decide +kernel
  have gained : (quizzesIn quizBody : Int) - quizzesIn nestedBody = 1 := by decide +kernel
  obtain ⟨front, x, x', behind, behind', tail, told, told', lengths, -, -, agree⟩ :=
    render_around outside free free' quizBehind
  rw [gained] at agree
  exact ⟨outside, free, free', front, x, x', behind, behind', tail, told, told',
    lengths.trans one, agree⟩

end QuizPages.Document
