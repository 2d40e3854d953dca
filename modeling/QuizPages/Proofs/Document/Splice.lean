import QuizPages.Document
import QuizPages.Proofs.Block.Layout

/-!
# Rendering as a splice

Rendering walks a document with a cursor, the number of the next quiz and the number of the next
block. On a layout it is a splice: the gaps and the tail stay, and each body gives way to what
stands for it (`render_text`).
-/

namespace QuizPages

namespace Document

/-- How many quizzes a body holds: one or none. -/
def quizzesIn (body : Text) : Nat := if (Quiz.parse body).isOk then 1 else 0

/-- What stands for a block when `id` is the number of the next quiz. -/
def fragment (id : Nat) (body : Text) : Text :=
  match Quiz.parse body with
  | .ok q => q.html id
  | .error _ => Marker.start.text ++ body ++ Marker.stop.text

/-- The outcomes of blocks from the given numbers on. -/
def outcomesFrom (id sequence : Nat) : List Block → List Outcome
  | [] => []
  | b :: later =>
    ⟨sequence, b.startLine, b.endLine, (Quiz.parse b.body).map fun _ => id⟩ ::
      outcomesFrom (id + quizzesIn b.body) (sequence + 1) later

theorem length_outcomesFrom (id sequence : Nat) (blocks : List Block) :
    (outcomesFrom id sequence blocks).length = blocks.length := by
  induction blocks generalizing id sequence with
  | nil => rfl
  | cons b later ih => simp [outcomesFrom, ih]

/-- One step of rendering: the gap stays, the block gives way to what stands for it, and the
cursor is behind the block. -/
theorem renderFrom_cons {cursor : Nat} {gap : Text} {b : Block} (h : b.start = cursor + gap.size)
    (rest : Text) (id sequence : Nat) (later : List Block) :
    renderFrom cursor (gap ++ (b.raw ++ rest)) id sequence (b :: later) =
      let r := renderFrom b.stop rest (id + quizzesIn b.body) (sequence + 1) later
      ⟨gap ++ (fragment id b.body ++ r.text),
        ⟨sequence, b.startLine, b.endLine, (Quiz.parse b.body).map fun _ => id⟩ :: r.outcomes⟩ := by
  have before : b.start - cursor = gap.size := by omega
  have through : b.stop - cursor = (gap ++ b.raw).size := by
    rw [Block.stop, Text.size_append]
    omega
  have after : Text.dropOctets (b.stop - cursor) (gap ++ (b.raw ++ rest)) = rest := by
    rw [through, ← List.append_assoc, Text.dropOctets_size_append]
  simp only [renderFrom, before, after, Text.takeOctets_size_append]
  rcases parsed : Quiz.parse b.body with e | q <;>
    simp [fragment, quizzesIn, parsed, Except.isOk, Except.toBool, Except.map, Block.raw]

end Document

namespace Layout

/-- The bodies of the blocks. -/
def bodies : Layout → List Text
  | tail _ _ => []
  | block _ body _ _ later => body :: later.bodies

/-- The document with each block replaced by what stands for it, `id` being the number of the
first quiz. -/
def splice (id : Nat) : Layout → Text
  | tail t _ => t
  | block gap body _ _ later =>
    gap ++ (Document.fragment id body ++ later.splice (id + Document.quizzesIn body))

theorem blocksFrom_map_body (document : Text) (offset : Nat) (l : Layout) :
    (l.blocksFrom document offset).map Block.body = l.bodies := by
  induction l generalizing offset with
  | tail => rfl
  | block gap body _ _ later ih =>
    rw [blocksFrom, List.map_cons, ih]
    rfl

theorem all_text_map_body (l : Layout) : (Block.all l.text).map Block.body = l.bodies := by
  rw [all_text, blocksFrom_map_body]

/-- What is said of all bodies of a layout is said of all blocks of its text. -/
theorem forall_bodies_iff {l : Layout} {P : Text → Prop} :
    (∀ body ∈ l.bodies, P body) ↔ ∀ b ∈ Block.all l.text, P b.body := by
  rw [← all_text_map_body, List.forall_mem_map]

theorem renderFrom_text (document : Text) (l : Layout) (cursor id sequence : Nat) :
    Document.renderFrom cursor l.text id sequence (l.blocksFrom document cursor) =
      ⟨l.splice id, Document.outcomesFrom id sequence (l.blocksFrom document cursor)⟩ := by
  induction l generalizing cursor id sequence with
  | tail => rfl
  | block gap body _ _ later ih =>
    let b := Block.placedAt document (cursor + gap.size) body
    have whole : gap ++ (Marker.start.text ++ (body ++ (Marker.stop.text ++ later.text))) =
        gap ++ (b.raw ++ later.text) := by
      simp [b, Block.raw, Block.placedAt]
    rw [text, whole, blocksFrom, Document.renderFrom_cons rfl, ih]
    rfl

/-- **Splice**: a document is rendered block by block, each where it stands. -/
theorem render_text (l : Layout) :
    Document.render l.text = ⟨l.splice 0, Document.outcomesFrom 0 0 (Block.all l.text)⟩ := by
  rw [Document.render, all_text, renderFrom_text]

end Layout

namespace Document

theorem render_outcomes (document : Text) :
    (render document).outcomes = outcomesFrom 0 0 (Block.all document) := by
  obtain ⟨l, rfl⟩ := Layout.exists_text_eq document
  rw [l.render_text]

theorem render_layout_text (l : Layout) : (render l.text).text = l.splice 0 := by
  rw [l.render_text]

/-- A document without a block stays as it is. -/
theorem render_of_blockless {t : Text} (h : Blockless t) : render t = ⟨t, []⟩ := by
  rw [render, Block.all, Block.allFrom_of_blockless t 0 h]
  rfl

end Document
end QuizPages
