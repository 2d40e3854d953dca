import QuizPages.Proofs.Block.Context
import QuizPages.Proofs.Document.Splice

/-!
# Rendering, told by position

A walk with a cursor and two counters renders a document. What it makes of a block depends on the
block and on its place alone: the number of a quiz is the number of blocks before it that hold one
(`quizzesBefore`). A `Transcript` tells a document and its rendering side by side, gap by gap and
block by block; every cover of the document gives one. Main statement: `render_eq_splice`.
-/

namespace QuizPages.Document

open Block

/-- How many of the first `i` bodies hold a quiz, which is the number the next quiz gets. -/
def quizzesBefore (bodies : List Text) (i : Nat) : Nat :=
  (bodies.take i).countP fun body => (Quiz.parse body).isOk

@[simp] theorem quizzesBefore_zero (bodies : List Text) : quizzesBefore bodies 0 = 0 := by
  simp [quizzesBefore]

theorem quizzesBefore_cons (body : Text) (bodies : List Text) (i : Nat) :
    quizzesBefore (body :: bodies) (i + 1) = quizzesIn body + quizzesBefore bodies i := by
  rw [quizzesBefore, List.take_succ_cons, List.countP_cons, Nat.add_comm]
  rfl

theorem quizzesIn_of_ok {body : Text} {q : Quiz} (h : Quiz.parse body = .ok q) :
    quizzesIn body = 1 := by
  rw [quizzesIn, h]
  rfl

theorem quizzesIn_of_error {body : Text} {e : FormatError} (h : Quiz.parse body = .error e) :
    quizzesIn body = 0 := by
  rw [quizzesIn, h]
  rfl

/-! ## Outcomes -/

/-- What becomes of the block with a number when `id` is the number of the next quiz. -/
def outcomeOf (id sequence : Nat) (b : Block) : Outcome :=
  ⟨sequence, b.startLine, b.endLine, (Quiz.parse b.body).map fun _ => id⟩

theorem outcomesFrom_eq_mapIdx (id sequence : Nat) (blocks : List Block) :
    outcomesFrom id sequence blocks = blocks.mapIdx fun i b =>
      outcomeOf (id + quizzesBefore (blocks.map Block.body) i) (sequence + i) b := by
  induction blocks generalizing id sequence with
  | nil => rfl
  | cons b later ih =>
    rw [outcomesFrom, ih, List.mapIdx_cons]
    simp only [List.map_cons, quizzesBefore_cons, quizzesBefore_zero, Nat.add_assoc,
      Nat.add_comm 1]
    rfl

theorem outcomesFrom_cons_of_ok {b : Block} {q : Quiz} (h : Quiz.parse b.body = .ok q)
    (id sequence : Nat) (later : List Block) :
    outcomesFrom id sequence (b :: later) =
      ⟨sequence, b.startLine, b.endLine, .ok id⟩ :: outcomesFrom (id + 1) (sequence + 1) later := by
  rw [outcomesFrom, quizzesIn_of_ok h, h]
  rfl

theorem outcomesFrom_cons_of_error {b : Block} {e : FormatError}
    (h : Quiz.parse b.body = .error e) (id sequence : Nat) (later : List Block) :
    outcomesFrom id sequence (b :: later) =
      ⟨sequence, b.startLine, b.endLine, .error e⟩ :: outcomesFrom id (sequence + 1) later := by
  rw [outcomesFrom, quizzesIn_of_error h, h]
  rfl

/-- The numbers of the rendered quizzes follow each other without a gap. -/
theorem outcomesFrom_ids (id sequence : Nat) (blocks : List Block) :
    (outcomesFrom id sequence blocks).filterMap (·.result.toOption) =
      List.range' id ((outcomesFrom id sequence blocks).filter (·.result.isOk)).length := by
  induction blocks generalizing id sequence with
  | nil => rfl
  | cons b later ih =>
    rcases parsed : Quiz.parse b.body with e | q
    · rw [outcomesFrom_cons_of_error parsed, List.filter_cons_of_neg Bool.false_ne_true, ← ih]
      rfl
    · rw [outcomesFrom_cons_of_ok parsed, List.filter_cons_of_pos rfl, List.length_cons,
        List.range'_succ, ← ih (id + 1) (sequence + 1)]
      rfl

/-- The number of rendered quizzes is that of the blocks that hold one. -/
theorem countP_outcomesFrom (id sequence : Nat) (blocks : List Block) :
    (outcomesFrom id sequence blocks).countP (·.result.isOk) =
      blocks.countP fun b => (Quiz.parse b.body).isOk := by
  induction blocks generalizing id sequence with
  | nil => rfl
  | cons b later ih =>
    rcases parsed : Quiz.parse b.body with e | q
    · rw [outcomesFrom_cons_of_error parsed, List.countP_cons, List.countP_cons, ih, parsed]
      rfl
    · rw [outcomesFrom_cons_of_ok parsed, List.countP_cons, List.countP_cons, ih, parsed]
      rfl

theorem count_eq_countP (document : Text) :
    (render document).count = (Block.all document).countP fun b => (Quiz.parse b.body).isOk := by
  rw [Rendered.count, ← List.countP_eq_length_filter, render_outcomes, countP_outcomesFrom]

/-- Each outcome is a quiz or a failure. -/
theorem count_add_failures (r : Rendered) :
    r.count + r.failures.length = r.outcomes.length := by
  rw [Rendered.count, Rendered.failures]
  induction r.outcomes with
  | nil => rfl
  | cons o later ih =>
    rw [List.filter_cons, List.filterMap_cons]
    rcases result : o.result with e | id
    · have failed : (Except.error e : Except FormatError Nat).isOk = false := rfl
      simp only [failed, Bool.false_eq_true, if_false, List.length_cons]
      omega
    · have rendered : (Except.ok id : Except FormatError Nat).isOk = true := rfl
      simp only [rendered, if_true, List.length_cons]
      omega

/-! ## Pieces -/

/-- A gap and the block after it, with what became of the block and what stands for it. -/
structure Piece where
  gap : Text
  block : Block
  outcome : Outcome
  /-- What stands for the block in the rendered document. -/
  output : Text

/-- The piece of a gap and a block when `id` is the number of the next quiz. -/
def pieceOf (id sequence : Nat) (part : Text × Block) : Piece where
  gap := part.1
  block := part.2
  outcome := outcomeOf id sequence part.2
  output := fragment id part.2.body

/-- A block that holds no quiz stays. -/
theorem pieceOf_of_error {part : Text × Block} {e : FormatError}
    (h : Quiz.parse part.2.body = .error e) (id sequence : Nat) :
    (pieceOf id sequence part).outcome.result = .error e ∧
      (pieceOf id sequence part).output = part.2.raw := by
  simp [pieceOf, outcomeOf, fragment, h, Except.map, Block.raw]

/-- A block that holds a quiz is rendered with the next number. -/
theorem pieceOf_of_ok {part : Text × Block} {q : Quiz} (h : Quiz.parse part.2.body = .ok q)
    (id sequence : Nat) :
    (pieceOf id sequence part).outcome.result = .ok id ∧
      (pieceOf id sequence part).output = q.html id := by
  simp [pieceOf, outcomeOf, fragment, h, Except.map]

/-- The pieces of gaps and blocks from the given numbers on. -/
def piecesFrom (id sequence : Nat) : List (Text × Block) → List Piece
  | [] => []
  | part :: later =>
    pieceOf id sequence part :: piecesFrom (id + quizzesIn part.2.body) (sequence + 1) later

theorem length_piecesFrom (id sequence : Nat) (parts : List (Text × Block)) :
    (piecesFrom id sequence parts).length = parts.length := by
  induction parts generalizing id sequence with
  | nil => rfl
  | cons part later ih => rw [piecesFrom, List.length_cons, List.length_cons, ih]

theorem piecesFrom_map_part (id sequence : Nat) (parts : List (Text × Block)) :
    (piecesFrom id sequence parts).map (fun x => (x.gap, x.block)) = parts := by
  induction parts generalizing id sequence with
  | nil => rfl
  | cons part later ih =>
    rw [piecesFrom, List.map_cons, ih]
    rfl

/-- Pieces are numbered from the first number on. -/
theorem piecesFrom_map_sequence (id sequence : Nat) (parts : List (Text × Block)) :
    (piecesFrom id sequence parts).map (·.outcome.sequence) =
      List.range' sequence parts.length := by
  induction parts generalizing id sequence with
  | nil => rfl
  | cons part later ih =>
    rw [piecesFrom, List.map_cons, ih, List.length_cons, List.range'_succ]
    rfl

/-- Every piece is that of one of the parts, and numbers do not go down. -/
theorem exists_part_of_mem {id sequence : Nat} {parts : List (Text × Block)} {x : Piece}
    (h : x ∈ piecesFrom id sequence parts) :
    ∃ id' sequence' part, id ≤ id' ∧ x = pieceOf id' sequence' part := by
  induction parts generalizing id sequence with
  | nil => cases h
  | cons part later ih =>
    obtain rfl | later_mem := List.mem_cons.1 h
    · exact ⟨id, sequence, part, Nat.le_refl id, rfl⟩
    · obtain ⟨id', sequence', part', le, eq⟩ := ih later_mem
      exact ⟨id', sequence', part', Nat.le_trans (Nat.le_add_right id _) le, eq⟩

/-- The numbers behind some parts do not depend on what is behind them. -/
theorem exists_piecesFrom_append (id sequence : Nat) (parts : List (Text × Block)) :
    ∃ id', ∀ later, piecesFrom id sequence (parts ++ later) =
      piecesFrom id sequence parts ++ piecesFrom id' (sequence + parts.length) later := by
  induction parts generalizing id sequence with
  | nil => exact ⟨id, fun later => rfl⟩
  | cons part parts ih =>
    obtain ⟨id', append⟩ := ih (id + quizzesIn part.2.body) (sequence + 1)
    refine ⟨id', fun later => ?_⟩
    have place : sequence + (part :: parts).length = sequence + 1 + parts.length := by
      rw [List.length_cons]
      omega
    rw [List.cons_append, piecesFrom, append, piecesFrom, place, List.cons_append]

/-- What the pieces put in the place of their blocks, by position. -/
theorem piecesFrom_map_text (id sequence : Nat) (parts : List (Text × Block)) :
    (piecesFrom id sequence parts).map (fun x => x.gap ++ x.output) =
      parts.mapIdx fun i part =>
        part.1 ++ fragment (id + quizzesBefore (parts.map (·.2.body)) i) part.2.body := by
  induction parts generalizing id sequence with
  | nil => rfl
  | cons part later ih =>
    rw [piecesFrom, List.map_cons, ih, List.mapIdx_cons]
    simp only [List.map_cons, quizzesBefore_cons, quizzesBefore_zero, Nat.add_assoc]
    rfl

/-! ## Transcripts -/

/-- A document and its rendering side by side: the same gaps and the same tail, and between them
each block on the one side and what stands for it on the other. -/
structure Transcript (document : Text) (pieces : List Piece) (tail : Text) : Prop where
  cover : Cover [] document (pieces.map fun x => (x.gap, x.block)) tail
  blocks : Block.all document = pieces.map Piece.block
  outcomes : (render document).outcomes = pieces.map Piece.outcome
  text : (render document).text = (pieces.flatMap fun x => x.gap ++ x.output) ++ tail

/-- The walk over a part of a document makes the pieces of that part. -/
theorem renderFrom_of_cover {before rest : Text} {parts : List (Text × Block)} {tail : Text}
    (cover : Cover before rest parts tail) (id sequence : Nat) :
    renderFrom before.size rest id sequence (parts.map Prod.snd) =
      ⟨((piecesFrom id sequence parts).flatMap fun x => x.gap ++ x.output) ++ tail,
        (piecesFrom id sequence parts).map Piece.outcome⟩ := by
  -- The cursor stands behind what is read already, and all three numbers move with the parts.
  induction parts generalizing before rest id sequence with
  | nil =>
    obtain rfl : rest = tail := cover.rest_eq
    rfl
  | cons part parts ih =>
    obtain ⟨gap, b⟩ := part
    have whole : rest = gap ++ (b.raw ++ (woven parts ++ tail)) := by
      simp [cover.rest_eq]
    have place : b.start = before.size + gap.size := by
      rw [cover.placed.1.start, Text.size_append]
    rw [whole, List.map_cons, renderFrom_cons place, cover.placed.1.stop_eq, ih cover.of_cons,
      piecesFrom, List.flatMap_cons, List.append_assoc, List.append_assoc]
    rfl

/-- **Transcripts**: every cover of a document tells its rendering. -/
theorem transcript_of_cover {document : Text} {parts : List (Text × Block)} {tail : Text}
    (cover : Cover [] document parts tail) : Transcript document (piecesFrom 0 0 parts) tail := by
  have found : Block.all document = parts.map Prod.snd := cover.allFrom_eq rfl
  have run := renderFrom_of_cover cover 0 0
  rw [← found] at run
  have rendered : render document = _ := run
  refine ⟨?_, ?_, ?_, ?_⟩
  · rwa [piecesFrom_map_part]
  · have blocks := congrArg (List.map Prod.snd) (piecesFrom_map_part 0 0 parts)
    rw [List.map_map] at blocks
    exact found.trans blocks.symm
  · rw [rendered]
  · rw [rendered]

/-- **Rendering by position**: a document is rendered by leaving its gaps and its tail as they
are and putting the fragment of its quiz in the place of each block that holds one. Quizzes are
numbered by the blocks before them that hold one, outcomes by all blocks before them. -/
theorem render_eq_splice (document : Text) :
    let blocks := Block.all document
    let bodies := blocks.map Block.body
    let rendered := render document
    (∃ parts tail, Cover [] document parts tail ∧ parts.map Prod.snd = blocks ∧
      rendered.text = (parts.mapIdx fun i part =>
        part.1 ++ fragment (quizzesBefore bodies i) part.2.body).flatten ++ tail) ∧
    rendered.outcomes = blocks.mapIdx (fun i b =>
      ⟨i, b.startLine, b.endLine, (Quiz.parse b.body).map fun _ => quizzesBefore bodies i⟩) ∧
    rendered.outcomes.filterMap (·.result.toOption) = List.range rendered.count ∧
    rendered.count + rendered.failures.length = blocks.length := by
  intro blocks bodies rendered
  have outcomes : rendered.outcomes = outcomesFrom 0 0 blocks := render_outcomes document
  refine ⟨?_, ?_, ?_, ?_⟩
  · obtain ⟨parts, tail, cover, found⟩ := exists_cover_all document
    have same_bodies : parts.map (·.2.body) = bodies := by
      rw [show bodies = (Block.all document).map Block.body from rfl, ← found, List.map_map]
      rfl
    refine ⟨parts, tail, cover, found, ?_⟩
    rw [(transcript_of_cover cover).text, List.flatMap_def, piecesFrom_map_text, same_bodies]
    simp only [Nat.zero_add]
  · rw [outcomes, outcomesFrom_eq_mapIdx]
    simp only [Nat.zero_add]
    rfl
  · rw [Rendered.count, outcomes, outcomesFrom_ids, List.range_eq_range']
  · rw [count_add_failures, outcomes, length_outcomesFrom]

end QuizPages.Document
