import QuizPages.Block
import QuizPages.Proofs.Marker.Seam

/-!
# Layouts

A layout is a document cut at its blocks: gaps without a start marker, bodies without an end
marker, and a tail that holds no block. Every text has one (`exists_text_eq`), and the blocks
found in a text are those of its layout (`all_text`), so what is said of a document's blocks is
proved by induction on its layout.
-/

namespace QuizPages

/-- No block lies in the text: its first start marker, if it has one, is followed by no end
marker. -/
def Blockless (t : Text) : Prop :=
  ∀ before after, t = before ++ Marker.start.text ++ after →
    ¬ Marker.start.text <:+: before → ¬ Marker.stop.text <:+: after

/-! ## Cutting at a marker -/

/-- A part without the marker in front of a seam is passed over. -/
theorem Text.cut?_append {m : Marker} {x y : Text} (seam : Marker.Apart x y)
    (free : ¬ m.text <:+: x) :
    Text.cut? m.text (x ++ y) = (Text.cut? m.text y).map fun r => (x ++ r.1, r.2) := by
  induction x with
  | nil => simp
  | cons c x ih =>
    have missing : Text.after? m.text (c :: (x ++ y)) = none := by
      rw [Text.after?_eq_none_iff, ← Marker.leading?_eq_some_iff, seam.leading?,
        Marker.leading?_eq_some_iff]
      exact fun first => free first.isInfix
    rw [List.cons_append, Text.cut?, missing,
      ih seam.of_cons fun inner => free (List.infix_cons inner), Option.map_map]
    rfl

theorem Text.cut?_text_append (m : Marker) (t : Text) :
    Text.cut? m.text (m.text ++ t) = some ([], t) := by
  cases m <;> simp [Marker.text, Text.cut?, Text.after?]

/-- The text is cut at the first marker. -/
theorem Text.cut?_append_text {m : Marker} {x : Text} (free : ¬ m.text <:+: x) (t : Text) :
    Text.cut? m.text (x ++ (m.text ++ t)) = some (x, t) := by
  rw [Text.cut?_append (Marker.apart_text_right m x t) free, Text.cut?_text_append]
  simp

namespace Block

theorem next?_append {gap body : Text} (gap_free : ¬ Marker.start.text <:+: gap)
    (body_free : ¬ Marker.stop.text <:+: body) (rest : Text) :
    next? (gap ++ (Marker.start.text ++ (body ++ (Marker.stop.text ++ rest)))) =
      some (gap, body, rest) := by
  simp [next?, Text.cut?_append_text gap_free, Text.cut?_append_text body_free]

theorem next?_eq_none_iff {t : Text} : next? t = none ↔ Blockless t := by
  constructor
  · rintro h before after rfl free
    rw [List.append_assoc, next?, Text.cut?_append_text free] at h
    rcases found : Text.cut? Marker.stop.text after with - | r
    · exact Text.cut?_eq_none_iff.1 found
    · simp [found] at h
  · intro h
    rcases found : Text.cut? Marker.start.text t with - | ⟨before, after⟩
    · simp [next?, found]
    · have free := Text.not_infix_of_cut? Marker.start.text_ne_nil found
      have missing := h before after (Text.cut?_eq_append found) free
      simp [next?, found, Text.cut?_eq_none_iff.2 missing]

theorem free_of_next? {t gap body rest : Text} (h : next? t = some (gap, body, rest)) :
    ¬ Marker.start.text <:+: gap ∧ ¬ Marker.stop.text <:+: body := by
  simp only [next?, Option.bind_eq_bind, Option.bind_eq_some_iff, Option.some.injEq,
    Prod.mk.injEq, Prod.exists] at h
  obtain ⟨g, r, hg, b, r', hb, rfl, rfl, rfl⟩ := h
  exact ⟨Text.not_infix_of_cut? Marker.start.text_ne_nil hg,
    Text.not_infix_of_cut? Marker.stop.text_ne_nil hb⟩

/-- The block with a body that starts at an offset of a document. -/
def placedAt (document : Text) (start : Nat) (body : Text) : Block where
  body := body
  start := start
  startLine := Text.lineAt document start
  endLine := Text.lineAt document
    (start + (Marker.start.text ++ body ++ Marker.stop.text).size - 1)

theorem allFrom_of_blockless (document : Text) (offset : Nat) {t : Text} (h : Blockless t) :
    allFrom document offset t = [] := by
  rw [allFrom]
  split
  · rfl
  · rename_i found
    rw [next?_eq_none_iff.2 h] at found
    cases found

/-- One step of the search: a gap and a block are taken from the front. -/
theorem allFrom_append (document : Text) (offset : Nat) {gap body : Text}
    (gap_free : ¬ Marker.start.text <:+: gap) (body_free : ¬ Marker.stop.text <:+: body)
    (rest : Text) :
    allFrom document offset
        (gap ++ (Marker.start.text ++ (body ++ (Marker.stop.text ++ rest)))) =
      placedAt document (offset + gap.size) body ::
        allFrom document (placedAt document (offset + gap.size) body).stop rest := by
  have first := next?_append gap_free body_free rest
  rw [allFrom]
  split
  · rename_i missing
    rw [first] at missing
    cases missing
  · rename_i found
    rw [first] at found
    cases found
    rfl

end Block

theorem blockless_of_stop_free {t : Text} (free : ¬ Marker.stop.text <:+: t) : Blockless t := by
  rintro before after rfl - inside
  exact free (inside.trans (List.suffix_append _ after).isInfix)

/-- A part without a start marker in front of a seam adds no block. -/
theorem blockless_append_iff {x y : Text} (seam : Marker.Apart x y)
    (free : ¬ Marker.start.text <:+: x) : Blockless (x ++ y) ↔ Blockless y := by
  rw [← Block.next?_eq_none_iff, ← Block.next?_eq_none_iff, Block.next?, Block.next?,
    Text.cut?_append seam free]
  rcases Text.cut? Marker.start.text y with - | ⟨before, after⟩ <;> simp

/-! ## Layouts -/

/-- A document cut at its blocks. -/
inductive Layout where
  /-- What comes after the last block. -/
  | tail (t : Text) (blockless : Blockless t)
  /-- A gap, the body of the block after it, and what comes later. -/
  | block (gap body : Text) (gap_free : ¬ Marker.start.text <:+: gap)
      (body_free : ¬ Marker.stop.text <:+: body) (later : Layout)

namespace Layout

/-- The document that is cut. -/
def text : Layout → Text
  | tail t _ => t
  | block gap body _ _ later =>
    gap ++ (Marker.start.text ++ (body ++ (Marker.stop.text ++ later.text)))

/-- Every text can be cut at its blocks. -/
theorem exists_text_eq (t : Text) : ∃ l : Layout, l.text = t := by
  rcases found : Block.next? t with - | ⟨gap, body, rest⟩
  · exact ⟨tail t (Block.next?_eq_none_iff.1 found), rfl⟩
  · obtain ⟨gap_free, body_free⟩ := Block.free_of_next? found
    obtain ⟨later, rfl⟩ := exists_text_eq rest
    refine ⟨block gap body gap_free body_free later, ?_⟩
    rw [Block.next?_eq_append found]
    simp [text]
termination_by t.length
decreasing_by exact Block.length_lt_of_next? found

/-- The blocks of a layout that lies in a document from an offset on. -/
def blocksFrom (document : Text) (offset : Nat) : Layout → List Block
  | tail _ _ => []
  | block gap body _ _ later =>
    let b := Block.placedAt document (offset + gap.size) body
    b :: later.blocksFrom document b.stop

theorem allFrom_text (document : Text) (offset : Nat) (l : Layout) :
    Block.allFrom document offset l.text = l.blocksFrom document offset := by
  induction l generalizing offset with
  | tail t blockless => exact Block.allFrom_of_blockless document offset blockless
  | block gap body gap_free body_free later ih =>
    rw [text, Block.allFrom_append document offset gap_free body_free, ih]
    rfl

/-- **Layouts**: the blocks of a text are those of its layout. -/
theorem all_text (l : Layout) : Block.all l.text = l.blocksFrom l.text 0 :=
  allFrom_text l.text 0 l

end Layout
end QuizPages
