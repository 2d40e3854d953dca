import QuizPages.Proofs.Document.Transcript
import QuizPages.Proofs.Quiz.Fields

/-!
# The fields of a rendered document

Each rendered block brings the form of its quiz into the document, and a block that stays brings none.
Quizzes of one document have different numbers, and the numbers only rise from block to block, so no
identifier is given to two fields of a document: `fieldsTold`.
-/

namespace QuizPages.Document

open Quiz

/-- The fields that a piece brings into the document. -/
def Piece.fields (x : Piece) : List Field :=
  match x.outcome.result, Quiz.parse x.block.body with
  | .ok id, .ok q => q.fields id
  | _, _ => []

/-- A block that stays brings no field, and a rendered one the form with its number. -/
structure Piece.FieldsTold (x : Piece) : Prop where
  stays : ∀ e, x.outcome.result = .error e → x.output = x.block.raw ∧ x.fields = []
  rendered : ∀ id, x.outcome.result = .ok id → Form x.block.body id x.output x.fields

theorem fields_of_ok {part : Text × Block} {q : Quiz} (h : Quiz.parse part.2.body = .ok q)
    (id sequence : Nat) : (pieceOf id sequence part).fields = q.fields id := by
  have block : (pieceOf id sequence part).block = part.2 := rfl
  rw [Piece.fields, (pieceOf_of_ok h id sequence).1, block, h]

theorem fields_of_error {part : Text × Block} {e : FormatError}
    (h : Quiz.parse part.2.body = .error e) (id sequence : Nat) :
    (pieceOf id sequence part).fields = [] := by
  rw [Piece.fields, (pieceOf_of_error h id sequence).1]

theorem fieldsTold_pieceOf (id sequence : Nat) (part : Text × Block) :
    (pieceOf id sequence part).FieldsTold := by
  rcases parsed : Quiz.parse part.2.body with e | q
  · obtain ⟨result, output⟩ := pieceOf_of_error parsed id sequence
    refine ⟨fun _ _ => ⟨output, fields_of_error parsed id sequence⟩, fun id' found => ?_⟩
    rw [result] at found
    cases found
  · obtain ⟨result, output⟩ := pieceOf_of_ok parsed id sequence
    refine ⟨fun e found => ?_, fun id' found => ?_⟩
    · rw [result] at found
      cases found
    · obtain rfl := Except.ok.inj (result.symm.trans found)
      rw [output, fields_of_ok parsed]
      exact form_of_parse parsed id

/-! ## Identifiers -/

/-- The identifier of a field of a piece is made of a number from `id` on. -/
theorem exists_id_of_mem {id sequence : Nat} {parts : List (Text × Block)} {x : Piece} {f : Field}
    (hx : x ∈ piecesFrom id sequence parts) (hf : f ∈ x.fields) :
    ∃ id' index, id ≤ id' ∧ f.id = inputId id' index := by
  obtain ⟨id', sequence', part, le, rfl⟩ := exists_part_of_mem hx
  rcases parsed : Quiz.parse part.2.body with e | q
  · rw [fields_of_error parsed] at hf
    cases hf
  · rw [fields_of_ok parsed] at hf
    obtain ⟨index, found⟩ := id_of_mem_fields hf
    exact ⟨id', index, le, found⟩

/-- No two fields have one identifier: those of one quiz differ in the index, those of two quizzes in
the number. -/
theorem nodup_ids (id sequence : Nat) (parts : List (Text × Block)) :
    (((piecesFrom id sequence parts).flatMap Piece.fields).map Field.id).Nodup := by
  induction parts generalizing id sequence with
  | nil => exact List.nodup_nil
  | cons part later ih =>
    rw [piecesFrom, List.flatMap_cons, List.map_append, List.nodup_append]
    rcases parsed : Quiz.parse part.2.body with e | q
    · rw [fields_of_error parsed]
      exact ⟨List.nodup_nil, ih _ _, fun a ha => absurd ha List.not_mem_nil⟩
    · rw [fields_of_ok parsed, quizzesIn_of_ok parsed]
      refine ⟨q.nodup_fields id, ih _ _, ?_⟩
      intro a ha b hb same
      obtain ⟨f, hf, rfl⟩ := List.mem_map.1 ha
      obtain ⟨g, hg, rfl⟩ := List.mem_map.1 hb
      obtain ⟨x, hx, hg⟩ := List.mem_flatMap.1 hg
      obtain ⟨index, first⟩ := id_of_mem_fields hf
      obtain ⟨id', index', above, second⟩ := exists_id_of_mem hx hg
      rw [first, second] at same
      obtain ⟨rfl, -⟩ := inputId_injective2 same
      omega

end QuizPages.Document
