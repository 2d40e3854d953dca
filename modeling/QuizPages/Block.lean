import QuizPages.Marker
import QuizPages.Text.Lines

/-!
# Quiz blocks

A block runs from a start marker to the next end marker. Blocks are found from left to right
and do not overlap; a start marker inside a block is part of its body.
-/

namespace QuizPages

/-- One pair of markers in a document with the text between them. -/
structure Block where
  /-- The text between the markers. -/
  body : Text
  /-- The octet offset of the start marker. -/
  start : Nat
  /-- The line of the start marker. -/
  startLine : UInt32
  /-- The line of the end marker. -/
  endLine : UInt32
  deriving DecidableEq, Repr

namespace Block

/-- The block as it stands in the document, markers included. -/
def raw (b : Block) : Text := Marker.start.text ++ b.body ++ Marker.stop.text

/-- The octet offset just after the end marker. -/
def stop (b : Block) : Nat := b.start + b.raw.size

end Block

/-- The text before and after the first occurrence of `needle`. -/
def Text.cut? (needle : Text) : Text → Option (Text × Text)
  | [] => if needle = [] then some ([], []) else none
  | c :: cs =>
    match Text.after? needle (c :: cs) with
    | some rest => some ([], rest)
    | none => (cut? needle cs).map fun (before, rest) => (c :: before, rest)

theorem Text.cut?_eq_append {needle t before rest : Text}
    (h : Text.cut? needle t = some (before, rest)) : t = before ++ needle ++ rest := by
  induction t generalizing before rest with
  | nil =>
    by_cases hn : needle = []
    · simp_all [Text.cut?]
    · simp [Text.cut?, hn] at h
  | cons c cs ih =>
    unfold Text.cut? at h
    split at h
    · rename_i r hr
      obtain ⟨rfl, rfl⟩ := by simpa using h
      simpa using Text.after?_eq_some_iff.1 hr
    · obtain ⟨⟨b, r⟩, hb, he⟩ := Option.map_eq_some_iff.1 h
      obtain ⟨rfl, rfl⟩ := by simpa using he
      simp [ih hb]

theorem Text.cut?_eq_none_iff {needle t : Text} : Text.cut? needle t = none ↔ ¬ needle <:+: t := by
  induction t with
  | nil => by_cases h : needle = [] <;> simp [Text.cut?, h]
  | cons c cs ih =>
    rw [List.infix_cons_iff, not_or, ← ih, ← Text.after?_eq_none_iff]
    simp only [Text.cut?]
    rcases Text.after? needle (c :: cs) with - | rest <;> simp

/-- What is in front of the first occurrence holds no other. -/
theorem Text.not_infix_of_cut? {needle t before rest : Text} (nonempty : needle ≠ [])
    (h : Text.cut? needle t = some (before, rest)) : ¬ needle <:+: before := by
  induction t generalizing before with
  | nil => simp [Text.cut?, nonempty] at h
  | cons c cs ih =>
    unfold Text.cut? at h
    split at h
    · obtain ⟨rfl, -⟩ := by simpa using h
      simpa using nonempty
    · rename_i missing
      obtain ⟨⟨b, r⟩, hb, he⟩ := Option.map_eq_some_iff.1 h
      obtain ⟨rfl, rfl⟩ := by simpa using he
      rw [List.infix_cons_iff, not_or]
      refine ⟨fun first => Text.after?_eq_none_iff.1 missing ?_, ih hb⟩
      rw [Text.cut?_eq_append hb, List.append_assoc]
      exact first.trans (List.prefix_append (c :: b) _)

namespace Block

/-- The gap before the first block of a text, the block's body, and the text after it. -/
def next? (t : Text) : Option (Text × Text × Text) := do
  let (gap, rest) ← Text.cut? Marker.start.text t
  let (body, rest) ← Text.cut? Marker.stop.text rest
  some (gap, body, rest)

theorem next?_eq_append {t gap body rest : Text} (h : next? t = some (gap, body, rest)) :
    t = gap ++ Marker.start.text ++ body ++ Marker.stop.text ++ rest := by
  simp only [next?, Option.bind_eq_bind, Option.bind_eq_some_iff, Option.some.injEq,
    Prod.mk.injEq, Prod.exists] at h
  obtain ⟨g, r, hg, b, r', hb, rfl, rfl, rfl⟩ := h
  rw [Text.cut?_eq_append hg, Text.cut?_eq_append hb]
  simp

/-- A text gets shorter by the block taken from its front. -/
theorem length_lt_of_next? {t gap body rest : Text} (h : next? t = some (gap, body, rest)) :
    rest.length < t.length := by
  rw [next?_eq_append h]
  simp [Marker.text]
  omega

/-- The blocks of `rest`, which is what a document holds from an offset on. -/
def allFrom (document : Text) (offset : Nat) (rest : Text) : List Block :=
  match _h : next? rest with
  | none => []
  | some (gap, body, later) =>
    let start := offset + gap.size
    let stop := start + (Marker.start.text ++ body ++ Marker.stop.text).size
    { body, start
      startLine := Text.lineAt document start
      endLine := Text.lineAt document (stop - 1) } :: allFrom document stop later
termination_by rest.length
decreasing_by exact length_lt_of_next? ‹_›

/-- Every block of a document, from left to right. -/
def all (document : Text) : List Block := allFrom document 0 document

end Block
end QuizPages
