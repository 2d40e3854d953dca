import QuizPages.Proofs.Json.RoundTrip
import QuizPages.Proofs.Text.Paragraphs

/-!
# The lines of a written value

No line feed stands in a string or a number. So a value in the compact layout is one line, and one in the
indented layout has no empty line: `feed_notMem_render`, `oneParagraph_render`. Both are read off the
places where a layout breaks lines (`Lays.write`).
-/

namespace QuizPages.Json

/-! ## Tokens -/

theorem feed_notMem_writeInt (n : Int) : '\n' ∉ writeInt n := by
  cases n with
  | ofNat n => exact Text.notMem_ofNat rfl n
  | negSucc n =>
    exact List.not_mem_cons_of_ne_of_not_mem (by decide) (Text.notMem_ofNat rfl (n + 1))

theorem feed_notMem_quote (t : Text) : '\n' ∉ quote t := by
  unfold quote
  simp only [List.cons_append, List.mem_cons, List.mem_append, List.mem_flatMap, List.not_mem_nil,
    or_false, not_or, not_exists, not_and]
  exact ⟨by decide, fun c _ => (escaped_escapeChar c).feed_notMem, by decide⟩

/-! ## Values -/

/-- Whether a property of texts holds of what a layout puts between tokens, and of all texts without line
feeds, and is kept when texts are laid end to end. -/
structure Lays (layout : Layout) (P : Text → Prop) : Prop where
  append {s t : Text} : P s → P t → P (s ++ t)
  plain {t : Text} : '\n' ∉ t → P t
  /-- A line that something nested stands on. -/
  deeper (level : Nat) {t : Text} : P t → P (breakLine layout (level + 1) ++ t)
  /-- A line that starts with the end of an array or an object. -/
  close (level : Nat) {c : Char} : c ≠ '\n' → P (breakLine layout level ++ [c])

theorem lays_compact : Lays .compact ('\n' ∉ ·) where
  append hs ht := by
    rw [List.mem_append, not_or]
    exact ⟨hs, ht⟩
  plain h := h
  deeper _ _ h := h
  close _ _ other mem := other (List.mem_singleton.1 mem).symm

theorem lays_indented : Lays .indented Text.OneParagraph where
  append := Text.OneParagraph.append
  plain := Text.OneParagraph.of_notMem
  deeper level t h := by
    have blanks : '\n' ∉ List.replicate (2 * (level + 1)) ' ' := by
      intro mem
      cases List.eq_of_mem_replicate mem
    refine Text.OneParagraph.cons_feed ?_ ?_ ((Text.OneParagraph.of_notMem blanks).append h)
    · intro c first
      obtain rfl : ' ' = c := Option.some.inj first
      decide
    · exact List.cons_ne_nil ' ' _
  close level c other := by
    have blanks : '\n' ∉ List.replicate (2 * level) ' ' ++ [c] := by
      simp [other.symm]
    refine Text.OneParagraph.cons_feed ?_ ?_ (Text.OneParagraph.of_notMem blanks)
    · intro d first same
      exact blanks (List.mem_of_mem_head? (same ▸ first))
    · exact List.append_ne_nil_of_right_ne_nil _ (List.cons_ne_nil c [])

namespace Lays

variable {layout : Layout} {P : Text → Prop}

/-- Something nested behind a mark. -/
theorem behind (h : Lays layout P) {c : Char} (other : c ≠ '\n') (level : Nat) {t : Text} (ht : P t) :
    P (c :: breakLine layout (level + 1) ++ t) := by
  have first : P [c] := h.plain fun mem => other (List.mem_singleton.1 mem).symm
  rw [List.cons_append, ← List.singleton_append]
  exact h.append first (h.deeper level ht)

theorem member (h : Lays layout P) {level : Nat} {m : Text × Json} (value : P (write layout level m.2)) :
    P (writeMember layout level m) := by
  obtain ⟨name, j⟩ := m
  have colon : '\n' ∉ Json.colon layout := by cases layout <;> decide
  rw [writeMember]
  exact h.append (h.append (h.plain (feed_notMem_quote name)) (h.plain colon)) value

theorem items (h : Lays layout P) {level : Nat} {js : List Json}
    (each : ∀ j ∈ js, P (write layout (level + 1) j)) : P (writeItems layout (level + 1) js) := by
  induction js with
  | nil =>
    rw [writeItems]
    exact h.plain List.not_mem_nil
  | cons j js ih =>
    obtain ⟨first, later⟩ := List.forall_mem_cons.1 each
    rw [writeItems]
    exact h.append (h.behind (by decide) level first) (ih later)

theorem members (h : Lays layout P) {level : Nat} {ms : List (Text × Json)}
    (each : ∀ m ∈ ms, P (write layout (level + 1) m.2)) : P (writeMembers layout (level + 1) ms) := by
  induction ms with
  | nil =>
    rw [writeMembers]
    exact h.plain List.not_mem_nil
  | cons m ms ih =>
    obtain ⟨first, later⟩ := List.forall_mem_cons.1 each
    rw [writeMembers]
    exact h.append (h.behind (by decide) level (h.member first)) (ih later)

/-- What holds of tokens and line breaks holds of a written value. -/
theorem write (h : Lays layout P) {depth : Nat} {j : Json} (readable : Readable depth j) (level : Nat) :
    P (Json.write layout level j) := by
  induction readable generalizing level with
  | null =>
    rw [Json.write]
    exact h.plain (by decide)
  | bool value => cases value <;> rw [Json.write] <;> exact h.plain (by decide)
  | int =>
    rw [Json.write]
    exact h.plain (feed_notMem_writeInt _)
  | str text =>
    rw [Json.write]
    exact h.plain (feed_notMem_quote text)
  | @arr _ items _ ih =>
    cases items with
    | nil =>
      rw [Json.write]
      exact h.plain (by decide)
    | cons j items =>
      obtain ⟨first, later⟩ := List.forall_mem_cons.1 ih
      rw [Json.write, List.append_assoc]
      refine h.append (h.append (h.behind (by decide) level (first (level + 1))) ?_) ?_
      · exact h.items fun k mem => later k mem (level + 1)
      · exact h.close level (by decide)
  | @obj _ members _ ih =>
    cases members with
    | nil =>
      rw [Json.write]
      exact h.plain (by decide)
    | cons m members =>
      obtain ⟨first, later⟩ := List.forall_mem_cons.1 ih
      rw [Json.write, List.append_assoc]
      refine h.append (h.append (h.behind (by decide) level (h.member (first (level + 1)))) ?_) ?_
      · exact h.members fun x mem => later x mem (level + 1)
      · exact h.close level (by decide)

end Lays

/-- A value in the compact layout is one line. -/
theorem feed_notMem_render {depth : Nat} {j : Json} (h : Readable depth j) :
    '\n' ∉ render .compact j :=
  lays_compact.write h 0

/-- A value in the indented layout has no empty line. -/
theorem oneParagraph_render {depth : Nat} {j : Json} (h : Readable depth j) :
    Text.OneParagraph (render .indented j) :=
  lays_indented.write h 0

end QuizPages.Json
