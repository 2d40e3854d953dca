import QuizPages.Proofs.Block.Layout

/-!
# Pairing markers

The pairing machine reads the markers of a text from left to right and remembers the start marker
that is open. `Sectioned` says how the markers of a text lie among its blocks; every text's do
(`sectioned_all`). The machine's run over such a list is known (`run_section` for one block), and
so is what it makes of each marker: `Sectioned.heldAmong_iff`.
-/

namespace QuizPages

namespace Block

/-- The start marker of a block. -/
def opening (b : Block) : Marker.Occurrence := ⟨b.start, .start⟩

/-- The end marker of a block. -/
def closing (b : Block) : Marker.Occurrence :=
  ⟨b.start + (Marker.start.text ++ b.body).size, .stop⟩

/-- Whether a marker lies in the body of a block. -/
def bodyHolds (b : Block) (o : Marker.Occurrence) : Bool :=
  b.start + Marker.start.text.size ≤ o.offset ∧ o.offset + o.marker.text.size ≤ b.closing.offset

/-- Whether a marker starts within the span of a block. -/
def spans (b : Block) (o : Marker.Occurrence) : Bool := b.start ≤ o.offset ∧ o.offset < b.stop

theorem bodyHolds_iff {b : Block} {o : Marker.Occurrence} :
    b.bodyHolds o = true ↔ b.start + Marker.start.text.size ≤ o.offset ∧
      o.offset + o.marker.text.size ≤ b.closing.offset :=
  decide_eq_true_iff

theorem spans_iff {b : Block} {o : Marker.Occurrence} :
    b.spans o = true ↔ b.start ≤ o.offset ∧ o.offset < b.stop :=
  decide_eq_true_iff

theorem closing_offset (b : Block) :
    b.closing.offset = b.start + Marker.start.text.size + b.body.size := by
  simp [closing, Nat.add_assoc]

theorem closing_offset_add_size (b : Block) :
    b.closing.offset + Marker.stop.text.size = b.stop := by
  simp [closing, stop, raw, Nat.add_assoc]

theorem start_add_size_le_closing (b : Block) :
    b.start + Marker.start.text.size ≤ b.closing.offset := by
  rw [closing_offset]
  exact Nat.le_add_right _ _

end Block

namespace Marker

/-! ## The machine -/

/-- The marker that is open after `o` when `opened` is open before it. -/
def openAfter (opened : Option Occurrence) (o : Occurrence) : Option Occurrence :=
  match o.marker, opened with
  | .start, none => some o
  | .start, some outer => some outer
  | .stop, _ => none

/-- Each marker with what is open when the machine gets to it. -/
def trace : Option Occurrence → List Occurrence → List (Option Occurrence × Occurrence)
  | _, [] => []
  | opened, o :: later => (opened, o) :: trace (openAfter opened o) later

/-- What the machine leaves open. -/
def leftOpen (opened : Option Occurrence) (os : List Occurrence) : Option Occurrence :=
  os.foldl openAfter opened

@[simp] theorem trace_map_snd (opened : Option Occurrence) (os : List Occurrence) :
    (trace opened os).map Prod.snd = os := by
  induction os generalizing opened with
  | nil => rfl
  | cons o later ih => simp [trace, ih]

theorem trace_append (opened : Option Occurrence) (xs ys : List Occurrence) :
    trace opened (xs ++ ys) = trace opened xs ++ trace (leftOpen opened xs) ys := by
  induction xs generalizing opened with
  | nil => rfl
  | cons o later ih => simp [trace, leftOpen, ih]

theorem leftOpen_append (opened : Option Occurrence) (xs ys : List Occurrence) :
    leftOpen opened (xs ++ ys) = leftOpen (leftOpen opened xs) ys :=
  List.foldl_append

/-- End markers change nothing while nothing is open. -/
theorem run_stops {os : List Occurrence} (h : ∀ o ∈ os, o.marker = .stop) :
    trace none os = os.map (none, ·) ∧ leftOpen none os = none := by
  induction os with
  | nil => exact ⟨rfl, rfl⟩
  | cons o later ih =>
    obtain ⟨traced, left⟩ := ih fun x hx => h x (List.mem_cons_of_mem _ hx)
    have stays : openAfter none o = none := by simp [openAfter, h o List.mem_cons_self]
    rw [leftOpen] at left
    simp [trace, leftOpen, stays, traced, left]

/-- Start markers change nothing while one is open. -/
theorem run_starts (u : Occurrence) {os : List Occurrence} (h : ∀ o ∈ os, o.marker = .start) :
    trace (some u) os = os.map (some u, ·) ∧ leftOpen (some u) os = some u := by
  induction os with
  | nil => exact ⟨rfl, rfl⟩
  | cons o later ih =>
    obtain ⟨traced, left⟩ := ih fun x hx => h x (List.mem_cons_of_mem _ hx)
    have stays : openAfter (some u) o = some u := by simp [openAfter, h o List.mem_cons_self]
    rw [leftOpen] at left
    simp [trace, leftOpen, stays, traced, left]

/-- **One block**: behind its end marker the machine is where it was before the gap. -/
theorem run_section {gap body : List Occurrence} (hg : ∀ o ∈ gap, o.marker = .stop)
    (hb : ∀ o ∈ body, o.marker = .start) (b : Block) (later : List Occurrence) :
    trace none (gap ++ b.opening :: (body ++ b.closing :: later)) =
      gap.map (none, ·) ++ (none, b.opening) ::
        (body.map (some b.opening, ·) ++ (some b.opening, b.closing) :: trace none later) ∧
    leftOpen none (gap ++ b.opening :: (body ++ b.closing :: later)) = leftOpen none later := by
  obtain ⟨gap_trace, gap_left⟩ := run_stops hg
  obtain ⟨body_trace, body_left⟩ := run_starts b.opening hb
  have opens : openAfter none b.opening = some b.opening := rfl
  have closes : openAfter (some b.opening) b.closing = none := rfl
  constructor
  · rw [trace_append, gap_trace, gap_left, trace, opens, trace_append, body_trace, body_left,
      trace, closes]
  · rw [leftOpen_append, gap_left, leftOpen, List.foldl_cons, opens, ← leftOpen, leftOpen_append,
      body_left, leftOpen, List.foldl_cons, closes, ← leftOpen]

/-- The machine opens at the start marker behind the last block, if there is one, and leaves it
open. -/
theorem run_loose {gap body : List Occurrence} (hg : ∀ o ∈ gap, o.marker = .stop)
    (hb : ∀ o ∈ body, o.marker = .start) {u : Occurrence} (hu : u.marker = .start) :
    trace none (gap ++ u :: body) = gap.map (none, ·) ++ (none, u) :: body.map (some u, ·) ∧
    leftOpen none (gap ++ u :: body) = some u := by
  obtain ⟨gap_trace, gap_left⟩ := run_stops hg
  obtain ⟨body_trace, body_left⟩ := run_starts u hb
  have opens : openAfter none u = some u := by simp [openAfter, hu]
  constructor
  · rw [trace_append, gap_trace, gap_left, trace, opens, body_trace]
  · rw [leftOpen_append, gap_left, leftOpen, List.foldl_cons, opens, ← leftOpen, body_left]

/-! ## Opening and closing -/

/-- Whether the machine opens at a marker. -/
def opensAt (x : Option Occurrence × Occurrence) : Bool := x.1 = none ∧ x.2.marker = .start

/-- Whether the machine closes at a marker. -/
def closesAt (x : Option Occurrence × Occurrence) : Bool := x.1 ≠ none ∧ x.2.marker = .stop

/-- The markers at which the machine opens. -/
def opened (os : List Occurrence) : List Occurrence :=
  ((trace none os).filter opensAt).map Prod.snd

/-- The markers at which the machine closes. -/
def closed (os : List Occurrence) : List Occurrence :=
  ((trace none os).filter closesAt).map Prod.snd

/-- The machine visits no other markers. -/
theorem visited_subset (p : Option Occurrence × Occurrence → Bool) (os : List Occurrence) :
    ((trace none os).filter p).map Prod.snd ⊆ os := by
  intro o ho
  obtain ⟨x, hx, rfl⟩ := List.mem_map.1 ho
  have visited : x.2 ∈ (trace none os).map Prod.snd :=
    List.mem_map_of_mem (List.mem_filter.1 hx).1
  rwa [trace_map_snd] at visited

theorem opened_subset (os : List Occurrence) : opened os ⊆ os := visited_subset opensAt os

theorem closed_subset (os : List Occurrence) : closed os ⊆ os := visited_subset closesAt os

theorem filter_opensAt_stops {os : List Occurrence} (h : ∀ o ∈ os, o.marker = .stop) :
    (os.map (none, ·)).filter opensAt = [] := by
  rw [List.filter_eq_nil_iff]
  simp +contextual [opensAt, h]

theorem filter_opensAt_some (u : Occurrence) (os : List Occurrence) :
    (os.map (some u, ·)).filter opensAt = [] := by
  simp [List.filter_eq_nil_iff, opensAt]

theorem filter_closesAt_none (os : List Occurrence) : (os.map (none, ·)).filter closesAt = [] := by
  simp [List.filter_eq_nil_iff, closesAt]

theorem filter_closesAt_starts {u : Occurrence} {os : List Occurrence}
    (h : ∀ o ∈ os, o.marker = .start) : (os.map (some u, ·)).filter closesAt = [] := by
  rw [List.filter_eq_nil_iff]
  simp +contextual [closesAt, h]

/-! ## Markers among blocks -/

/-- `os`, the markers from the offset `n` on, lie so among the blocks from there on: only end
markers in the gaps, only start markers in the bodies, and behind the last block end markers up
to the `loose` start marker, if there is one, and start markers after it. -/
inductive Sectioned : Nat → List Occurrence → List Block → Option Occurrence → Prop where
  | stops {n : Nat} {os : List Occurrence} (stop : ∀ o ∈ os, o.marker = .stop)
      (after : ∀ o ∈ os, n ≤ o.offset) : Sectioned n os [] none
  | loose {n : Nat} {gap body : List Occurrence} {u : Occurrence}
      (gap_stop : ∀ o ∈ gap, o.marker = .stop)
      (gap_place : ∀ o ∈ gap, n ≤ o.offset ∧ o.offset < u.offset)
      (opens : u.marker = .start) (after : n ≤ u.offset)
      (body_start : ∀ o ∈ body, o.marker = .start)
      (body_place : ∀ o ∈ body, u.offset < o.offset) :
      Sectioned n (gap ++ u :: body) [] (some u)
  | block {n : Nat} {gap body later : List Occurrence} {b : Block} {blocks : List Block}
      {loose : Option Occurrence} (gap_stop : ∀ o ∈ gap, o.marker = .stop)
      (gap_place : ∀ o ∈ gap, n ≤ o.offset ∧ o.offset < b.start) (after : n ≤ b.start)
      (body_start : ∀ o ∈ body, o.marker = .start)
      (body_place : ∀ o ∈ body, b.bodyHolds o = true)
      (rest : Sectioned b.stop later blocks loose) :
      Sectioned n (gap ++ b.opening :: (body ++ b.closing :: later)) (b :: blocks) loose

theorem stop_of_mem {t : Text} (free : ¬ start.text <:+: t) {n : Nat} {o : Occurrence}
    (h : o ∈ occurrencesFrom n t) : o.marker = .stop := by
  have := marker_of_mem free h
  cases hm : o.marker <;> simp_all

theorem start_of_mem {t : Text} (free : ¬ stop.text <:+: t) {n : Nat} {o : Occurrence}
    (h : o ∈ occurrencesFrom n t) : o.marker = .start := by
  have := marker_of_mem free h
  cases hm : o.marker <;> simp_all

/-- The markers of a gap, a block and what comes after them. -/
theorem occurrencesFrom_block {n : Nat} {gap : Text} {b : Block} (h : b.start = n + gap.size)
    (rest : Text) :
    occurrencesFrom n (gap ++ (start.text ++ (b.body ++ (stop.text ++ rest)))) =
      occurrencesFrom n gap ++ b.opening ::
        (occurrencesFrom (b.start + start.text.size) b.body ++ b.closing ::
          occurrencesFrom b.stop rest) := by
  rw [occurrencesFrom_append (apart_text_right start gap _), occurrencesFrom_text_append,
    occurrencesFrom_append (apart_text_right stop b.body _), occurrencesFrom_text_append, ← h,
    ← Block.closing_offset, Block.closing_offset_add_size]
  rfl

/-- **One block in a text**: what the machine meets in the gap, in the body and behind it. -/
theorem run_block {gap : Text} {b : Block} (gap_free : ¬ start.text <:+: gap)
    (body_free : ¬ stop.text <:+: b.body) {n : Nat} (h : b.start = n + gap.size) (rest : Text) :
    let os := occurrencesFrom n (gap ++ (start.text ++ (b.body ++ (stop.text ++ rest))))
    trace none os = (occurrencesFrom n gap).map (none, ·) ++ (none, b.opening) ::
        ((occurrencesFrom (b.start + start.text.size) b.body).map (some b.opening, ·) ++
          (some b.opening, b.closing) :: trace none (occurrencesFrom b.stop rest)) ∧
      leftOpen none os = leftOpen none (occurrencesFrom b.stop rest) := by
  simp only [occurrencesFrom_block h]
  exact run_section (fun o => stop_of_mem gap_free) (fun o => start_of_mem body_free) b _

theorem exists_sectioned_of_blockless {t : Text} (h : Blockless t) (n : Nat) :
    ∃ loose, Sectioned n (occurrencesFrom n t) [] loose := by
  by_cases free : start.text <:+: t
  · rcases found : Text.cut? start.text t with - | ⟨gap, body⟩
    · exact absurd free (Text.cut?_eq_none_iff.1 found)
    · have gap_free := Text.not_infix_of_cut? start.text_ne_nil found
      have body_free := h gap body (Text.cut?_eq_append found) gap_free
      refine ⟨some ⟨n + gap.size, .start⟩, ?_⟩
      rw [Text.cut?_eq_append found, List.append_assoc,
        occurrencesFrom_append (apart_text_right start gap _), occurrencesFrom_text_append]
      refine .loose (fun o => stop_of_mem gap_free) ?_ rfl (Nat.le_add_right _ _)
        (fun o => start_of_mem body_free) ?_
      · intro o ho
        have := offset_of_mem ho
        have := o.marker.size_text_pos
        simp only
        omega
      · intro o ho
        have := offset_of_mem ho
        have := start.size_text_pos
        simp only
        omega
  · exact ⟨none, .stops (fun o => stop_of_mem free) fun o ho => (offset_of_mem ho).1⟩

/-- The markers of a layout lie among its blocks. -/
theorem exists_sectioned (document : Text) (l : Layout) (n : Nat) :
    ∃ loose, Sectioned n (occurrencesFrom n l.text) (l.blocksFrom document n) loose := by
  induction l generalizing n with
  | tail t blockless => exact exists_sectioned_of_blockless blockless n
  | block gap body gap_free body_free later ih =>
    let b := Block.placedAt document (n + gap.size) body
    obtain ⟨loose, rest⟩ := ih b.stop
    refine ⟨loose, ?_⟩
    have markers : occurrencesFrom n
          (gap ++ (start.text ++ (body ++ (stop.text ++ later.text)))) =
        occurrencesFrom n gap ++ b.opening :: (occurrencesFrom (b.start + start.text.size) body ++
          b.closing :: occurrencesFrom b.stop later.text) :=
      occurrencesFrom_block (b := b) rfl later.text
    rw [Layout.text, markers]
    refine .block (fun o => stop_of_mem gap_free) ?_ (Nat.le_add_right _ _)
      (fun o => start_of_mem body_free) ?_ rest
    · intro o ho
      have := offset_of_mem ho
      have := o.marker.size_text_pos
      have : b.start = n + gap.size := rfl
      omega
    · intro o ho
      have := offset_of_mem ho
      have same : b.body = body := rfl
      rw [Block.bodyHolds_iff, Block.closing_offset, same]
      omega

namespace Sectioned

variable {n : Nat} {os : List Occurrence} {blocks : List Block} {loose : Option Occurrence}

theorem le_offset (h : Sectioned n os blocks loose) : ∀ o ∈ os, n ≤ o.offset := by
  induction h with
  | stops _ after => exact after
  | @loose n gap body u _ gap_place _ after _ body_place =>
    intro o ho
    simp only [List.mem_append, List.mem_cons] at ho
    obtain ho | rfl | ho := ho
    · exact (gap_place o ho).1
    · exact after
    · have := body_place o ho
      omega
  | @block n gap body later c blocks loose _ gap_place after _ body_place rest ih =>
    intro o ho
    have := c.closing_offset_add_size
    have := c.start_add_size_le_closing
    simp only [List.mem_append, List.mem_cons] at ho
    obtain ho | rfl | ho | rfl | ho := ho
    · exact (gap_place o ho).1
    · exact after
    · have := Block.bodyHolds_iff.1 (body_place o ho)
      omega
    · omega
    · have := ih o ho
      omega

/-! ## Where the machine opens and closes -/

/-- The machine opens at the start markers of the blocks and at the loose one. -/
theorem opened_eq (h : Sectioned n os blocks loose) :
    opened os = blocks.map Block.opening ++ loose.toList := by
  induction h with
  | stops stop =>
    rw [opened, (run_stops stop).1, filter_opensAt_stops stop]
    rfl
  | loose gap_stop _ opens _ body_start =>
    rw [opened, (run_loose gap_stop body_start opens).1, List.filter_append,
      filter_opensAt_stops gap_stop, List.filter_cons, filter_opensAt_some]
    simp [opensAt, opens]
  | @block n gap body later b blocks loose gap_stop _ _ body_start _ _ ih =>
    rw [opened] at ih
    rw [opened, (run_section gap_stop body_start b later).1]
    simp only [List.filter_append, List.filter_cons, filter_opensAt_stops gap_stop,
      filter_opensAt_some]
    simp [opensAt, Block.opening, ← ih]

theorem le_start (h : Sectioned n os blocks loose) {b : Block} (hb : b ∈ blocks) :
    n ≤ b.start := by
  have opens : b.opening ∈ opened os := by
    rw [h.opened_eq]
    exact List.mem_append_left _ (List.mem_map_of_mem hb)
  exact h.le_offset b.opening (opened_subset os opens)

theorem le_loose (h : Sectioned n os blocks loose) {u : Occurrence} (hu : loose = some u) :
    n ≤ u.offset := by
  have opens : u ∈ opened os := by
    rw [h.opened_eq, hu]
    exact List.mem_append_right _ List.mem_cons_self
  exact h.le_offset u (opened_subset os opens)

/-- The machine closes at the end markers of the blocks. -/
theorem closed_eq (h : Sectioned n os blocks loose) : closed os = blocks.map Block.closing := by
  induction h with
  | stops stop =>
    rw [closed, (run_stops stop).1, filter_closesAt_none]
    rfl
  | loose gap_stop _ opens _ body_start =>
    rw [closed, (run_loose gap_stop body_start opens).1, List.filter_append,
      filter_closesAt_none, List.filter_cons, filter_closesAt_starts body_start]
    simp [closesAt]
  | @block n gap body later b blocks loose gap_stop _ _ body_start _ _ ih =>
    rw [closed] at ih
    rw [closed, (run_section gap_stop body_start b later).1]
    simp only [List.filter_append, List.filter_cons, filter_closesAt_none,
      filter_closesAt_starts body_start]
    simp [closesAt, Block.closing, ← ih]

theorem leftOpen_eq (h : Sectioned n os blocks loose) : leftOpen none os = loose := by
  induction h with
  | stops stop => exact (run_stops stop).2
  | loose gap_stop _ opens _ body_start => exact (run_loose gap_stop body_start opens).2
  | block gap_stop _ _ body_start _ _ ih => rw [(run_section gap_stop body_start _ _).2, ih]

end Sectioned
end Marker
end QuizPages
