import QuizPages.Proofs.Marker.Pairing

/-!
# The roles of markers

Next to the blocks of its text a marker has one of five roles, said by its place alone. The role
is the one the pairing machine gives it: `Sectioned.heldAmong_iff`.
-/

namespace QuizPages.Marker

/-- What a marker is to the blocks of its text. -/
inductive Role where
  /-- The start marker of a block. -/
  | opener
  /-- The end marker of a block. -/
  | closer
  /-- A start marker inside what `outer` opened. -/
  | nested (outer : Occurrence)
  /-- An end marker outside all blocks. -/
  | unmatched
  /-- The first start marker behind the last block. -/
  | loose
  deriving DecidableEq

/-- The first start marker behind the blocks. -/
def loose? (blocks : List Block) (os : List Occurrence) : Option Occurrence :=
  os.find? fun o => o.marker = .start ∧ ∀ b ∈ blocks, b.stop ≤ o.offset

/-- The marker that opened what `o` lies in: that of the block whose body holds `o`, or the loose
one if it comes before `o`. -/
def outer? (blocks : List Block) (loose : Option Occurrence) (o : Occurrence) :
    Option Occurrence :=
  ((blocks.find? (·.bodyHolds o)).map Block.opening).or (loose.filter (·.offset < o.offset))

/-- Whether a marker is an end marker outside the spans of the blocks. -/
def outside (blocks : List Block) (o : Occurrence) : Bool :=
  o.marker = .stop ∧ ∀ b ∈ blocks, b.spans o = false

/-- The role of a marker, by its place among the blocks. -/
def HeldAmong (blocks : List Block) (loose : Option Occurrence) (o : Occurrence) : Role → Prop
  | .opener => ∃ b ∈ blocks, o = b.opening
  | .closer => ∃ b ∈ blocks, o = b.closing
  | .nested outer => o.marker = .start ∧ outer? blocks loose o = some outer
  | .unmatched => outside blocks o = true
  | .loose => loose = some o

/-- The role the machine gives a marker when `opened` is open. -/
def roleAt (loose : Option Occurrence) : Option Occurrence × Occurrence → Role
  | (none, o) =>
    match o.marker with
    | .start => if loose = some o then .loose else .opener
    | .stop => .unmatched
  | (some outer, o) =>
    match o.marker with
    | .start => .nested outer
    | .stop => .closer

/-! ## What a role depends on -/

theorem spans_opening (b : Block) : b.spans b.opening = true := by
  have := b.closing_offset_add_size
  have := b.start_add_size_le_closing
  have := stop.size_text_pos
  exact Block.spans_iff.2 ⟨Nat.le_refl _, show b.start < b.stop by omega⟩

theorem spans_closing (b : Block) : b.spans b.closing = true := by
  have := b.closing_offset_add_size
  have := b.start_add_size_le_closing
  have := stop.size_text_pos
  exact Block.spans_iff.2 ⟨by omega, by omega⟩

theorem spans_of_bodyHolds {b : Block} {o : Occurrence} (h : b.bodyHolds o = true) :
    b.spans o = true := by
  have := b.closing_offset_add_size
  have := stop.size_text_pos
  have := o.marker.size_text_pos
  obtain ⟨after, before⟩ := Block.bodyHolds_iff.1 h
  exact Block.spans_iff.2 ⟨by omega, by omega⟩

/-- Only the blocks that span a marker count for its role. -/
theorem heldAmong_filter_iff (blocks : List Block) (loose : Option Occurrence) (o : Occurrence)
    (r : Role) :
    HeldAmong (blocks.filter (·.spans o)) loose o r ↔ HeldAmong blocks loose o r := by
  cases r with
  | opener =>
    refine exists_congr fun b => ?_
    rw [List.mem_filter, and_assoc]
    refine and_congr_right fun _ => and_iff_right_of_imp ?_
    rintro rfl
    exact spans_opening b
  | closer =>
    refine exists_congr fun b => ?_
    rw [List.mem_filter, and_assoc]
    refine and_congr_right fun _ => and_iff_right_of_imp ?_
    rintro rfl
    exact spans_closing b
  | nested outer =>
    have same : (fun b : Block => decide (b.spans o = true ∧ b.bodyHolds o = true)) =
        (·.bodyHolds o) := by
      funext b
      rw [Bool.decide_and, Bool.decide_eq_true, Bool.decide_eq_true, Bool.and_eq_right_iff_imp]
      exact spans_of_bodyHolds
    simp only [HeldAmong, outer?, List.find?_filter, same]
  | unmatched =>
    simp only [HeldAmong, outside, decide_eq_true_eq, List.mem_filter]
    refine and_congr_right fun _ => forall_congr' fun b => ?_
    rcases b.spans o <;> simp
  | loose => rfl

/-- A loose marker further on does not count either. -/
theorem heldAmong_none_iff {blocks : List Block} {loose : Option Occurrence} {o : Occurrence}
    (h : ∀ u ∈ loose, o.offset < u.offset) (r : Role) :
    HeldAmong blocks loose o r ↔ HeldAmong blocks none o r := by
  cases r with
  | opener | closer | unmatched => rfl
  | nested outer =>
    have later : loose.filter (·.offset < o.offset) = none := by
      rw [Option.filter_eq_none_iff]
      intro u hu
      have := h u hu
      simp only [decide_eq_true_eq]
      omega
    simp only [HeldAmong, outer?, later, Option.filter_none]
  | loose =>
    simp only [HeldAmong, reduceCtorEq, iff_false]
    rintro rfl
    exact absurd (h o rfl) (Nat.lt_irrefl _)

/-! ## The markers around one block -/

theorem heldAmong_gap_iff {b : Block} {o : Occurrence} (stops : o.marker = .stop)
    (before : o.offset < b.start) (r : Role) : HeldAmong [b] none o r ↔ r = .unmatched := by
  rw [← heldAmong_filter_iff]
  have apart : b.spans o = false := by
    rw [← Bool.not_eq_true, Block.spans_iff]
    omega
  cases r <;> simp [HeldAmong, outside, apart, stops]

theorem heldAmong_opening_iff (b : Block) (r : Role) :
    HeldAmong [b] none b.opening r ↔ r = .opener := by
  have outer : b.bodyHolds b.opening = false := by
    have := start.size_text_pos
    rw [← Bool.not_eq_true, Block.bodyHolds_iff, Block.opening]
    simp only
    omega
  cases r <;> simp [HeldAmong, outside, outer?, outer, spans_opening]
  simp [Block.opening, Block.closing]

theorem heldAmong_body_iff {b : Block} {o : Occurrence} (starts : o.marker = .start)
    (inside : b.bodyHolds o = true) (r : Role) :
    HeldAmong [b] none o r ↔ r = .nested b.opening := by
  have ne : o ≠ b.opening := by
    rintro rfl
    have := start.size_text_pos
    have := (Block.bodyHolds_iff.1 inside).1
    simp only [Block.opening] at this
    omega
  have ne' : o ≠ b.closing := by
    rintro rfl
    cases starts
  cases r with
  | nested outer =>
    simp only [HeldAmong, outer?, starts, inside, List.find?_cons_of_pos, Option.map_some,
      Option.some_or, Option.some.injEq, true_and, Role.nested.injEq]
    exact eq_comm
  | _ => simp [HeldAmong, outside, starts, ne, ne']

theorem heldAmong_closing_iff (b : Block) (r : Role) :
    HeldAmong [b] none b.closing r ↔ r = .closer := by
  cases r <;> simp [HeldAmong, outside, spans_closing]
  · simp [Block.opening, Block.closing]
  · intro h
    cases h

/-! ## The roles in a run -/

namespace Sectioned

variable {n : Nat} {os : List Occurrence} {blocks : List Block} {loose : Option Occurrence}

/-- Nothing behind a block counts for a marker in front of its end. -/
theorem heldAmong_cons_iff_of_lt {b : Block} (rest : Sectioned b.stop os blocks loose)
    {o : Occurrence} (before : o.offset < b.stop) (r : Role) :
    HeldAmong (b :: blocks) loose o r ↔ HeldAmong [b] none o r := by
  have none_spans : blocks.filter (·.spans o) = [] := by
    rw [List.filter_eq_nil_iff]
    intro c hc
    have := rest.le_start hc
    rw [Block.spans_iff]
    omega
  have loose_later : ∀ u ∈ loose, o.offset < u.offset := fun u hu => by
    have := rest.le_loose hu
    omega
  rw [heldAmong_none_iff loose_later, ← heldAmong_filter_iff (b :: blocks),
    ← heldAmong_filter_iff [b], List.filter_cons, List.filter_cons, none_spans, List.filter_nil]

/-- A block does not count for a marker behind it. -/
theorem heldAmong_cons_iff_of_le {b : Block} {o : Occurrence} (behind : b.stop ≤ o.offset)
    (r : Role) : HeldAmong (b :: blocks) loose o r ↔ HeldAmong blocks loose o r := by
  have apart : b.spans o = false := by
    rw [← Bool.not_eq_true, Block.spans_iff]
    omega
  rw [← heldAmong_filter_iff (b :: blocks), ← heldAmong_filter_iff blocks, List.filter_cons, apart]
  rfl

/-- The markers from the gap in front of a block to the end of the block. -/
theorem heldAmong_section_iff {gap body : List Occurrence} {b : Block}
    (rest : Sectioned b.stop os blocks loose) (gap_stop : ∀ o ∈ gap, o.marker = .stop)
    (gap_place : ∀ o ∈ gap, o.offset < b.start) (body_start : ∀ o ∈ body, o.marker = .start)
    (body_place : ∀ o ∈ body, b.bodyHolds o = true) {x : Option Occurrence × Occurrence}
    (hx : x ∈ gap.map (none, ·) ++ (none, b.opening) ::
      (body.map (some b.opening, ·) ++ [(some b.opening, b.closing)])) (r : Role) :
    HeldAmong (b :: blocks) loose x.2 r ↔ r = roleAt loose x := by
  have spanned : ∀ {o : Occurrence}, b.spans o = true → o.offset < b.stop :=
    fun h => (Block.spans_iff.1 h).2
  have opening_before : b.start < b.stop := spanned (spans_opening b)
  simp only [List.mem_append, List.mem_map, List.mem_cons, List.not_mem_nil, or_false] at hx
  obtain ⟨o, ho, rfl⟩ | rfl | ⟨o, ho, rfl⟩ | rfl := hx
  · rw [heldAmong_cons_iff_of_lt rest (Nat.lt_trans (gap_place o ho) opening_before),
      heldAmong_gap_iff (gap_stop o ho) (gap_place o ho)]
    simp [roleAt, gap_stop o ho]
  · have ne : loose ≠ some b.opening := fun e => by
      have := rest.le_loose e
      simp only [Block.opening] at this
      omega
    rw [heldAmong_cons_iff_of_lt rest opening_before, heldAmong_opening_iff]
    have opens : b.opening.marker = .start := rfl
    simp [roleAt, opens, ne]
  · have before := spanned (spans_of_bodyHolds (body_place o ho))
    rw [heldAmong_cons_iff_of_lt rest before,
      heldAmong_body_iff (body_start o ho) (body_place o ho)]
    simp [roleAt, body_start o ho]
  · rw [heldAmong_cons_iff_of_lt rest (spanned (spans_closing b)), heldAmong_closing_iff]
    rfl

/-- The markers behind the last block, one of them a start marker. -/
theorem heldAmong_loose_iff {gap body : List Occurrence} {u : Occurrence}
    (gap_stop : ∀ o ∈ gap, o.marker = .stop) (opens : u.marker = .start)
    (body_start : ∀ o ∈ body, o.marker = .start) (body_place : ∀ o ∈ body, u.offset < o.offset)
    {x : Option Occurrence × Occurrence}
    (hx : x ∈ gap.map (none, ·) ++ (none, u) :: body.map (some u, ·)) (r : Role) :
    HeldAmong [] (some u) x.2 r ↔ r = roleAt (some u) x := by
  simp only [List.mem_append, List.mem_map, List.mem_cons] at hx
  obtain ⟨o, ho, rfl⟩ | rfl | ⟨o, ho, rfl⟩ := hx
  · have stops := gap_stop o ho
    have ne : u ≠ o := fun e => by simp [e, stops] at opens
    cases r <;> simp [HeldAmong, outside, roleAt, stops, ne]
  · have self : (some u).filter (·.offset < u.offset) = none := by simp [Option.filter]
    cases r <;> simp [HeldAmong, outside, outer?, roleAt, opens, self]
  · have starts := body_start o ho
    have before := body_place o ho
    have ne : u ≠ o := fun e => Nat.lt_irrefl _ (e ▸ before)
    cases r <;> simp [HeldAmong, outside, outer?, roleAt, starts, before, ne, Option.filter]
    exact eq_comm

/-- **Roles**: a marker has the role that the machine gives it, and no other. -/
theorem heldAmong_iff (h : Sectioned n os blocks loose) :
    ∀ x ∈ trace none os, ∀ r, HeldAmong blocks loose x.2 r ↔ r = roleAt loose x := by
  induction h with
  | stops stop =>
    intro x hx r
    rw [(run_stops stop).1] at hx
    obtain ⟨o, ho, rfl⟩ := List.mem_map.1 hx
    have stops := stop o ho
    cases r <;> simp [HeldAmong, outside, roleAt, stops]
  | loose gap_stop _ opens _ body_start body_place =>
    intro x hx r
    rw [(run_loose gap_stop body_start opens).1] at hx
    exact heldAmong_loose_iff gap_stop opens body_start body_place hx r
  | @block n gap body later b blocks loose gap_stop gap_place _ body_start body_place rest ih =>
    intro x hx r
    have split : trace none (gap ++ b.opening :: (body ++ b.closing :: later)) =
        (gap.map (none, ·) ++ (none, b.opening) ::
          (body.map (some b.opening, ·) ++ [(some b.opening, b.closing)])) ++ trace none later := by
      simp [(run_section gap_stop body_start b later).1]
    rw [split] at hx
    obtain hx | hx := List.mem_append.1 hx
    · exact heldAmong_section_iff rest gap_stop (fun o ho => (gap_place o ho).2) body_start
        body_place hx r
    · have later_mem : x.2 ∈ later := by
        rw [← trace_map_snd none later]
        exact List.mem_map_of_mem hx
      rw [heldAmong_cons_iff_of_le (rest.le_offset _ later_mem)]
      exact ih x hx r

/-- The unmatched end markers are those the machine meets with nothing open. -/
theorem outside_iff (h : Sectioned n os blocks loose) {x : Option Occurrence × Occurrence}
    (hx : x ∈ trace none os) :
    outside blocks x.2 = true ↔ x.1 = none ∧ x.2.marker = .stop := by
  rw [show outside blocks x.2 = true ↔ _ from h.heldAmong_iff x hx .unmatched]
  obtain ⟨- | outer, o⟩ := x <;> rcases hm : o.marker <;> simp [roleAt, hm]
  split <;> simp

/-- What is open at a start marker is what the marker is nested in. -/
theorem outer?_eq (h : Sectioned n os blocks loose) {x : Option Occurrence × Occurrence}
    (hx : x ∈ trace none os) (starts : x.2.marker = .start) : outer? blocks loose x.2 = x.1 := by
  ext outer
  have role := h.heldAmong_iff x hx (.nested outer)
  simp only [HeldAmong, starts, true_and] at role
  rw [role]
  obtain ⟨- | u, o⟩ := x
  · simp only [roleAt, show o.marker = .start from starts]
    split <;> simp
  · simp only [roleAt, show o.marker = .start from starts, Role.nested.injEq, Option.some.injEq]
    exact eq_comm

/-- The loose marker is the first start marker behind the blocks. -/
theorem loose?_eq (h : Sectioned n os blocks loose) : loose? blocks os = loose := by
  induction h with
  | stops stop =>
    simp only [loose?, List.find?_eq_none]
    intro o ho
    simp [stop o ho]
  | @loose n gap body u gap_stop gap_place opens after body_start body_place =>
    rw [loose?, List.find?_append, List.find?_eq_none.2 fun o ho => by simp [gap_stop o ho]]
    simp [opens]
  | @block n gap body later b blocks loose gap_stop gap_place after body_start body_place rest ih =>
    have opening_no : ¬ b.stop ≤ b.opening.offset := by
      have := (Block.spans_iff.1 (spans_opening b)).2
      omega
    have body_no : ∀ o ∈ body, ¬ b.stop ≤ o.offset := fun o ho => by
      have := (Block.spans_iff.1 (spans_of_bodyHolds (body_place o ho))).2
      omega
    have closing_no : b.closing.marker ≠ .start := Marker.noConfusion
    have later_same : ∀ o ∈ later,
        decide (o.marker = .start ∧ ∀ c ∈ b :: blocks, c.stop ≤ o.offset) =
          decide (o.marker = .start ∧ ∀ c ∈ blocks, c.stop ≤ o.offset) := fun o ho => by
      simp [rest.le_offset o ho]
    rw [← ih, loose?, loose?, ← List.head?_filter, ← List.head?_filter, List.filter_append,
      List.filter_cons, List.filter_append, List.filter_cons, List.filter_congr later_same,
      List.filter_eq_nil_iff.2 fun o ho => by simp [gap_stop o ho],
      List.filter_eq_nil_iff.2 fun o ho => by simp [body_no o ho]]
    simp [opening_no, closing_no]

end Sectioned

/-! ## The roles in a text -/

/-- The first start marker behind the last block of a text, if there is one. -/
def looseIn (t : Text) : Option Occurrence := loose? (Block.all t) (occurrences t)

/-- The markers of a text lie among its blocks. -/
theorem sectioned_all (t : Text) : Sectioned 0 (occurrences t) (Block.all t) (looseIn t) := by
  obtain ⟨l, rfl⟩ := Layout.exists_text_eq t
  obtain ⟨loose, sectioned⟩ := exists_sectioned l.text l 0
  rw [← Layout.all_text] at sectioned
  rwa [looseIn, occurrences, sectioned.loose?_eq]

end QuizPages.Marker
