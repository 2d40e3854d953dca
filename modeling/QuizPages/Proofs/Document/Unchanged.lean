import QuizPages.Proofs.Document.SecondPass
import QuizPages.Proofs.Document.Transcript
import QuizPages.Proofs.Quiz.Decoding

/-!
# Documents that stay as they are

A fragment and the block it stands for part at their second character, whatever comes behind them. So
the first rendered block already tells the rendering from the document, and nothing behind it can make
up for that: a rendering is the document again exactly if no block is rendered
(`render_text_eq_self_iff`).
-/

namespace QuizPages

/-- No fragment goes on, or ends, as a block does. -/
theorem Quiz.html_append_ne (q : Quiz) (id : Nat) (body x y : Text) :
    q.html id ++ x ≠ Marker.start.text ++ body ++ Marker.stop.text ++ y := by
  have element : opening = '<' :: 'd' :: opening.drop 2 := rfl
  have marker : Marker.start.text = '<' :: '?' :: Marker.start.text.drop 2 := rfl
  intro same
  rw [html_eq_append, element, marker] at same
  cases same

theorem Quiz.fails_iff {body : Text} : fails body = true ↔ ∃ e, parse body = .error e := by
  rcases parsed : parse body with e | q
  · simp [fails_of_error parsed]
  · simp [fails_of_ok parsed]

/-- Where rendering changes nothing, no block holds a quiz. -/
theorem Layout.splice_eq_text_iff {l : Layout} {id : Nat} :
    l.splice id = l.text ↔ ∀ body ∈ l.bodies, Quiz.fails body = true := by
  refine ⟨?_, fun h => splice_eq_text h id⟩
  -- The parts in front of the first rendered block are the same and cancel.
  induction l generalizing id with
  | tail => exact fun _ _ hb => absurd hb List.not_mem_nil
  | block gap body _ _ later ih =>
    intro same
    have block_same : Document.fragment id body ++ later.splice (id + Document.quizzesIn body) =
        Marker.start.text ++ body ++ Marker.stop.text ++ later.text := by
      rw [splice, text] at same
      simpa using List.append_cancel_left same
    rcases parsed : Quiz.parse body with e | q
    · rw [Document.fragment, parsed] at block_same
      have later_same := ih (List.append_cancel_left block_same)
      rintro b (_ | ⟨_, later_mem⟩)
      · exact Quiz.fails_of_error parsed
      · exact later_same b later_mem
    · rw [Document.fragment, parsed] at block_same
      exact absurd block_same (q.html_append_ne id body _ _)

namespace Document

theorem count_eq_zero_iff (document : Text) :
    (render document).count = 0 ↔
      ∀ b ∈ Block.all document, ∃ e, Quiz.parse b.body = .error e := by
  rw [count_eq_countP, List.countP_eq_zero]
  refine forall₂_congr fun b _ => ?_
  rcases Quiz.parse b.body with e | q <;> simp [Except.isOk, Except.toBool]

/-- The output of a piece is the block itself exactly if the block is not rendered. -/
theorem output_eq_raw_iff (id sequence : Nat) (part : Text × Block) :
    (pieceOf id sequence part).output = part.2.raw ↔
      ∃ e, (pieceOf id sequence part).outcome.result = .error e := by
  rcases parsed : Quiz.parse part.2.body with e | q
  · obtain ⟨result, output⟩ := pieceOf_of_error parsed id sequence
    exact iff_of_true output ⟨e, result⟩
  · obtain ⟨result, output⟩ := pieceOf_of_ok parsed id sequence
    have differs : q.html id ≠ part.2.raw := fun same =>
      q.html_append_ne id part.2.body [] [] (congrArg (· ++ []) same)
    simp [output, result, differs]

/-- **Unchanged documents**: a document is rendered to itself exactly if no quiz is rendered, that is
if no block of it holds one. Piece by piece, what stands for a block is the block itself exactly if
its outcome is a failure. -/
theorem render_text_eq_self_iff (document : Text) :
    ((render document).text = document ↔ (render document).count = 0) ∧
    ((render document).count = 0 ↔
      ∀ b ∈ Block.all document, ∃ e, Quiz.parse b.body = .error e) ∧
    ∃ pieces tail, Transcript document pieces tail ∧
      ∀ x ∈ pieces, x.output = x.block.raw ↔ ∃ e, x.outcome.result = .error e := by
  refine ⟨?_, count_eq_zero_iff document, ?_⟩
  · obtain ⟨l, rfl⟩ := Layout.exists_text_eq document
    rw [render_layout_text, Layout.splice_eq_text_iff, Layout.forall_bodies_iff, count_eq_zero_iff]
    exact forall₂_congr fun b _ => Quiz.fails_iff
  · obtain ⟨parts, tail, cover, -⟩ := Block.exists_cover_all document
    refine ⟨piecesFrom 0 0 parts, tail, transcript_of_cover cover, fun x hx => ?_⟩
    obtain ⟨id, sequence, part, -, rfl⟩ := exists_part_of_mem hx
    exact output_eq_raw_iff id sequence part

end Document
end QuizPages
