import Mathlib.Data.List.Forall2
import QuizPages.Proofs.Document.Transcript
import QuizPages.Proofs.Text.LineEnds

/-!
# Documents with other line ends

Markers have no line ends in them, so a document is cut at the same places whatever ends its lines,
and its bodies hold the same quizzes. Its rendering has the same outcomes and fragments; what stays
keeps the line ends it has (`exists_transcripts_crlf`).
-/

namespace QuizPages

/-! ## Cutting -/

/-- A lead without line ends is found whatever ends the lines. -/
theorem Text.after?_crlf {lead : Text} (no_return : '\r' ∉ lead) (no_feed : '\n' ∉ lead) (t : Text) :
    after? lead t.crlf = (after? lead t).map crlf := by
  induction lead generalizing t with
  | nil => rfl
  | cons a lead ih =>
    obtain ⟨a_return, no_return⟩ : '\r' ≠ a ∧ '\r' ∉ lead := by simpa using no_return
    obtain ⟨a_feed, no_feed⟩ : '\n' ≠ a ∧ '\n' ∉ lead := by simpa using no_feed
    cases t with
    | nil => rfl
    | cons c t =>
      by_cases feed : c = '\n'
      · rw [feed, crlf_feed, after?, after?, if_neg (Ne.symm a_return), if_neg (Ne.symm a_feed)]
        rfl
      · rw [crlf_cons feed, after?, after?]
        split
        · exact ih no_return no_feed t
        · rfl

theorem Marker.return_notMem_text (m : Marker) : '\r' ∉ m.text := by
  cases m <;> decide

theorem Marker.crlf_text (m : Marker) : m.text.crlf = m.text :=
  Text.crlf_of_plain (newline_notMem_text m)

/-- A text is cut at the same marker whatever ends its lines. -/
theorem Text.cut?_crlf (m : Marker) (t : Text) :
    cut? m.text t.crlf = (cut? m.text t).map fun r => (r.1.crlf, r.2.crlf) := by
  have starts (t : Text) : after? m.text t.crlf = (after? m.text t).map crlf :=
    after?_crlf m.return_notMem_text (Marker.newline_notMem_text m) t
  induction t with
  | nil => simp [cut?, m.text_ne_nil]
  | cons c t ih =>
    by_cases feed : c = '\n'
    · subst feed
      -- Neither of the two characters starts a marker.
      have none_here : after? m.text ('\n' :: t) = none := by cases m <;> rfl
      have none_first : after? m.text ('\r' :: '\n' :: crlf t) = none := by cases m <;> rfl
      have none_second : after? m.text ('\n' :: crlf t) = none := by cases m <;> rfl
      rw [crlf_feed, cut?, none_first, cut?, none_second, ih, cut?, none_here]
      simp [Option.map_map, Function.comp_def]
    · have here := starts (c :: t)
      rw [crlf_cons feed] at here ⊢
      rw [cut?, cut?, here]
      rcases after? m.text (c :: t) with - | rest
      · simp [ih, Option.map_map, Function.comp_def, crlf_cons feed]
      · rfl

theorem infix_crlf_iff {m : Marker} {t : Text} : m.text <:+: t.crlf ↔ m.text <:+: t := by
  rw [← not_iff_not, ← Text.cut?_eq_none_iff, ← Text.cut?_eq_none_iff, Text.cut?_crlf,
    Option.map_eq_none_iff]

/-- The first block of a text is the same whatever ends its lines. -/
theorem Block.next?_crlf (t : Text) :
    next? t.crlf = (next? t).map fun r => (r.1.crlf, r.2.1.crlf, r.2.2.crlf) := by
  simp only [next?, Text.cut?_crlf, Option.bind_eq_bind]
  rcases Text.cut? Marker.start.text t with - | ⟨gap, rest⟩
  · rfl
  · simp only [Option.map_some, Option.bind_some, Text.cut?_crlf]
    rcases Text.cut? Marker.stop.text rest with - | ⟨body, rest⟩ <;> rfl

theorem blockless_crlf {t : Text} (h : Blockless t) : Blockless t.crlf := by
  rw [← Block.next?_eq_none_iff] at h ⊢
  rw [Block.next?_crlf, h, Option.map_none]

/-! ## Covers -/

/-- A gap and a block with the line ends of a text, and the same two with other line ends. -/
structure Block.SameCut (part part' : Text × Block) : Prop where
  gap : part'.1 = part.1.crlf
  body : part'.2.body = part.2.body.crlf
  startLine : part'.2.startLine = part.2.startLine
  endLine : part'.2.endLine = part.2.endLine
  /-- One quiz, or one fault. -/
  parse : Quiz.parse part'.2.body = Quiz.parse part.2.body

theorem Quiz.parse_crlf {body : Text} (free : '\r' ∉ body) : parse body.crlf = parse body := by
  rw [parse, parse, Text.lines_crlf free]

/-- **Cuts**: a text is covered by the same gaps and blocks whatever ends its lines. -/
theorem Block.Cover.exists_crlf {before rest : Text} {parts : List (Text × Block)} {tail : Text}
    (cover : Cover before rest parts tail) (free : '\r' ∉ rest) :
    ∃ parts', Cover before.crlf rest.crlf parts' tail.crlf ∧ List.Forall₂ SameCut parts parts' := by
  induction parts generalizing before rest with
  | nil =>
    obtain rfl : rest = tail := cover.rest_eq
    exact ⟨[], ⟨rfl, by simp, by simp, blockless_crlf cover.blockless, trivial⟩, .nil⟩
  | cons part parts ih =>
    obtain ⟨gap, b⟩ := part
    have whole : rest = gap ++ (b.raw ++ (woven parts ++ tail)) := by simp [cover.rest_eq]
    have free_later : '\r' ∉ woven parts ++ tail := fun h => free (by simp [whole, h])
    have free_body : '\r' ∉ b.body := fun h => free (by simp [whole, raw, h])
    obtain ⟨parts', later, cuts⟩ := ih cover.of_cons free_later
    let b' : Block := { b with body := b.body.crlf, start := (before ++ gap).crlf.size }
    have raw' : b'.raw = b.raw.crlf := by simp [b', raw, Marker.crlf_text]
    have placed : PlacedAfter (before.crlf ++ gap.crlf) b' := by
      obtain ⟨-, startLine, endLine⟩ := cover.placed.1
      refine ⟨by simp [b'], ?_, ?_⟩
      · simpa [b'] using startLine
      · simpa [b'] using endLine
    have gap_free : ¬ Marker.start.text <:+: gap.crlf := fun h =>
      cover.gap_free _ List.mem_cons_self (infix_crlf_iff.1 h)
    have body_free : ¬ Marker.stop.text <:+: b'.body := fun h =>
      cover.body_free _ List.mem_cons_self (infix_crlf_iff.1 h)
    refine ⟨(gap.crlf, b') :: parts', ?_, .cons ⟨rfl, rfl, rfl, rfl, ?_⟩ cuts⟩
    · rw [Text.crlf_append, Text.crlf_append, ← raw'] at later
      have next := Cover.cons gap_free body_free placed later
      rwa [raw', ← Text.crlf_append, ← Text.crlf_append, ← whole] at next
    · exact Quiz.parse_crlf free_body

/-! ## Renderings -/

namespace Document

/-- Two pieces with one outcome: the second has the line ends of the other text where it stays as
it is, and the same fragment where it is rendered. -/
structure Piece.SameUpToEnds (x x' : Piece) : Prop where
  gap : x'.gap = x.gap.crlf
  raw : x'.block.raw = x.block.raw.crlf
  outcome : x'.outcome = x.outcome
  /-- What fails stays as it is. -/
  stays : ∀ e, x.outcome.result = .error e → x.output = x.block.raw ∧ x'.output = x'.block.raw
  rendered : ∀ id, x.outcome.result = .ok id → ∃ q, Quiz.parse x.block.body = .ok q ∧
    x.output = q.html id ∧ x'.output = q.html id

theorem sameUpToEnds_pieceOf {part part' : Text × Block} (cuts : Block.SameCut part part')
    (id sequence : Nat) :
    (pieceOf id sequence part).SameUpToEnds (pieceOf id sequence part') := by
  have raw : part'.2.raw = part.2.raw.crlf := by
    simp [Block.raw, cuts.body, Marker.crlf_text]
  have outcome : outcomeOf id sequence part'.2 = outcomeOf id sequence part.2 := by
    rw [outcomeOf, outcomeOf, cuts.startLine, cuts.endLine, cuts.parse]
  have parse := cuts.parse
  refine ⟨cuts.gap, raw, outcome, ?_, ?_⟩
  · rcases parsed : Quiz.parse part.2.body with e | q <;>
      simp [pieceOf, outcomeOf, fragment, parsed, parse, Except.map, Block.raw]
  · rcases parsed : Quiz.parse part.2.body with e | q <;>
      simp [pieceOf, outcomeOf, fragment, parsed, parse, Except.map]

theorem forall₂_sameUpToEnds {parts parts' : List (Text × Block)}
    (cuts : List.Forall₂ Block.SameCut parts parts') (id sequence : Nat) :
    List.Forall₂ Piece.SameUpToEnds (piecesFrom id sequence parts)
      (piecesFrom id sequence parts') := by
  induction cuts generalizing id sequence with
  | nil => exact .nil
  | @cons part part' _ _ first _ ih =>
    have count : quizzesIn part'.2.body = quizzesIn part.2.body := by
      rw [quizzesIn, quizzesIn, first.parse]
    refine .cons (sameUpToEnds_pieceOf first id sequence) ?_
    rw [count]
    exact ih _ _

/-- **Renderings**: a document is rendered piece by piece alike whatever ends its lines. -/
theorem exists_transcripts_crlf {document : Text} (free : '\r' ∉ document) :
    ∃ pieces pieces' tail, Transcript document pieces tail ∧
      Transcript document.crlf pieces' tail.crlf ∧
      List.Forall₂ Piece.SameUpToEnds pieces pieces' := by
  obtain ⟨parts, tail, cover, -⟩ := Block.exists_cover_all document
  obtain ⟨parts', cover', cuts⟩ := cover.exists_crlf free
  exact ⟨piecesFrom 0 0 parts, piecesFrom 0 0 parts', tail, transcript_of_cover cover,
    transcript_of_cover cover', forall₂_sameUpToEnds cuts 0 0⟩

/-- Pieces that are the same up to line ends have the same outcomes. -/
theorem map_outcome_of_forall₂ {pieces pieces' : List Piece}
    (same : List.Forall₂ Piece.SameUpToEnds pieces pieces') :
    pieces'.map Piece.outcome = pieces.map Piece.outcome := by
  induction same with
  | nil => rfl
  | cons first _ ih => rw [List.map_cons, List.map_cons, first.outcome, ih]

end Document
end QuizPages
