import QuizPages.Proofs.Block.Layout

/-!
# The blocks of a document

A cover writes a document as gaps and blocks in turn with a tail behind them. There is one for
each document, and its blocks are the ones that are found: `eq_all_iff_cover`.
-/

namespace QuizPages.Block

/-- Gaps and blocks laid end to end. -/
def woven (parts : List (Text × Block)) : Text := parts.flatMap fun part => part.1 ++ part.2.raw

@[simp] theorem woven_nil : woven [] = [] := rfl

@[simp] theorem woven_cons (part : Text × Block) (parts : List (Text × Block)) :
    woven (part :: parts) = part.1 ++ (part.2.raw ++ woven parts) := by
  simp [woven]

/-- The block starts just after the text `before`. Its lines are one more than the line feeds
before its start marker and before its end marker, in 32 bits. -/
structure PlacedAfter (before : Text) (b : Block) : Prop where
  start : b.start = before.size
  startLine : b.startLine.toNat = (before.feeds + 1) % UInt32.size
  endLine : b.endLine.toNat = ((before ++ (Marker.start.text ++ b.body)).feeds + 1) % UInt32.size

/-- Each block stands where the gap before it ends, the first gap coming after `before`. -/
def PlacedFrom (before : Text) : List (Text × Block) → Prop
  | [] => True
  | (gap, b) :: later => PlacedAfter (before ++ gap) b ∧ PlacedFrom (before ++ gap ++ b.raw) later

/-- `rest`, which a document has after `before`, is gaps and blocks in turn and then a tail. The
gaps hold no start marker, the bodies no end marker, and the tail holds no block. -/
structure Cover (before rest : Text) (parts : List (Text × Block)) (tail : Text) : Prop where
  rest_eq : rest = woven parts ++ tail
  gap_free : ∀ part ∈ parts, ¬ Marker.start.text <:+: part.1
  body_free : ∀ part ∈ parts, ¬ Marker.stop.text <:+: part.2.body
  blockless : Blockless tail
  placed : PlacedFrom before parts

/-! ## Places and lines -/

theorem toNat_lineAt (s t : Text) :
    (Text.lineAt (s ++ t) s.size).toNat = (s.feeds + 1) % UInt32.size := by
  rw [Text.lineAt, Text.feedsBefore_size_append]
  simp

@[simp] theorem feeds_append (s t : Text) : Text.feeds (s ++ t) = s.feeds + t.feeds :=
  List.count_append

/-- The last character of an end marker is on the line the marker starts on. -/
theorem placedAfter_placedAt {document before body : Text} (after : Text)
    (h : document = before ++ (Marker.start.text ++ (body ++ (Marker.stop.text ++ after)))) :
    PlacedAfter before (placedAt document before.size body) := by
  have ends : Marker.stop.text = Marker.stop.text.dropLast ++ ['>'] := rfl
  have plain : Text.feeds Marker.stop.text.dropLast = 0 := by decide
  have last : Text.size ['>'] = 1 := by decide
  let upTo := before ++ (Marker.start.text ++ (body ++ Marker.stop.text.dropLast))
  have whole : document = upTo ++ ('>' :: after) := by
    rw [h, ends]
    simp [upTo]
  have place : before.size + (Marker.start.text ++ body ++ Marker.stop.text).size - 1 =
      upTo.size := by
    rw [ends]
    simp only [upTo, Text.size_append, last]
    omega
  refine ⟨rfl, ?_, ?_⟩
  · rw [placedAt, h, toNat_lineAt]
  · rw [placedAt, place, whole, toNat_lineAt]
    simp [upTo, plain]

theorem PlacedAfter.stop_eq {before : Text} {b : Block} (h : PlacedAfter before b) :
    b.stop = (before ++ b.raw).size := by
  rw [stop, h.start, Text.size_append]

/-- Place and body determine a block. -/
theorem PlacedAfter.unique {before : Text} {a b : Block} (ha : PlacedAfter before a)
    (hb : PlacedAfter before b) (body : a.body = b.body) : a = b := by
  obtain ⟨start, startLine, endLine⟩ := ha
  obtain ⟨start', startLine', endLine'⟩ := hb
  cases a
  cases b
  simp only at body start start' startLine startLine' endLine endLine'
  subst body
  simp only [mk.injEq, true_and]
  exact ⟨start.trans start'.symm, UInt32.toNat_inj.1 (startLine.trans startLine'.symm),
    UInt32.toNat_inj.1 (endLine.trans endLine'.symm)⟩

/-! ## Covers and layouts -/

theorem Cover.cons {before gap rest : Text} {b : Block} {parts : List (Text × Block)}
    {tail : Text} (gap_free : ¬ Marker.start.text <:+: gap)
    (body_free : ¬ Marker.stop.text <:+: b.body) (placed : PlacedAfter (before ++ gap) b)
    (later : Cover (before ++ gap ++ b.raw) rest parts tail) :
    Cover before (gap ++ (b.raw ++ rest)) ((gap, b) :: parts) tail where
  rest_eq := by simp [later.rest_eq]
  gap_free := by simpa using ⟨gap_free, fun g b' => later.gap_free (g, b')⟩
  body_free := by simpa using ⟨body_free, fun g b' => later.body_free (g, b')⟩
  blockless := later.blockless
  placed := ⟨placed, later.placed⟩

theorem Cover.of_cons {before rest : Text} {gap : Text} {b : Block}
    {parts : List (Text × Block)} {tail : Text}
    (h : Cover before rest ((gap, b) :: parts) tail) :
    Cover (before ++ gap ++ b.raw) (woven parts ++ tail) parts tail where
  rest_eq := rfl
  gap_free := fun part hp => h.gap_free part (List.mem_cons_of_mem _ hp)
  body_free := fun part hp => h.body_free part (List.mem_cons_of_mem _ hp)
  blockless := h.blockless
  placed := h.placed.2

/-- A layout is a cover by its blocks. -/
theorem exists_cover (l : Layout) {document before : Text} (h : document = before ++ l.text) :
    ∃ parts tail, Cover before l.text parts tail ∧
      parts.map Prod.snd = l.blocksFrom document before.size := by
  induction l generalizing before with
  | tail t blockless => exact ⟨[], t, ⟨rfl, by simp, by simp, blockless, trivial⟩, rfl⟩
  | block gap body gap_free body_free later ih =>
    have placed : PlacedAfter (before ++ gap) (placedAt document (before ++ gap).size body) :=
      placedAfter_placedAt later.text (by simp [h, Layout.text])
    rw [Text.size_append] at placed
    let b := placedAt document (before.size + gap.size) body
    have ends : b.stop = (before ++ gap ++ b.raw).size := placed.stop_eq
    have whole : document = before ++ gap ++ b.raw ++ later.text := by
      simp [h, Layout.text, b, raw, placedAt]
    obtain ⟨parts, tail, cover, found⟩ := ih whole
    refine ⟨(gap, b) :: parts, tail, ?_, ?_⟩
    · have := Cover.cons (b := b) gap_free body_free placed cover
      simpa [b, raw, placedAt, Layout.text] using this
    · rw [List.map_cons, found, ← ends]
      rfl

/-- Whatever covers a text holds the blocks that are found in it. -/
theorem Cover.allFrom_eq {document before rest : Text} {parts : List (Text × Block)}
    {tail : Text} (cover : Cover before rest parts tail) (h : document = before ++ rest) :
    allFrom document before.size rest = parts.map Prod.snd := by
  induction parts generalizing before rest with
  | nil =>
    obtain rfl : rest = tail := cover.rest_eq
    exact allFrom_of_blockless _ _ cover.blockless
  | cons part parts ih =>
    obtain ⟨gap, b⟩ := part
    have gap_free := cover.gap_free _ List.mem_cons_self
    have body_free := cover.body_free _ List.mem_cons_self
    have whole : rest = gap ++ (Marker.start.text ++ (b.body ++ (Marker.stop.text ++
        (woven parts ++ tail)))) := by
      simp [cover.rest_eq, raw]
    have here : placedAt document (before.size + gap.size) b.body = b := by
      rw [← Text.size_append]
      refine PlacedAfter.unique (placedAfter_placedAt (woven parts ++ tail) ?_)
        cover.placed.1 rfl
      rw [h, whole, List.append_assoc]
    rw [whole, allFrom_append document before.size gap_free body_free, here,
      cover.placed.1.stop_eq, ih cover.of_cons (by simp [h, whole, raw]), List.map_cons]

/-- A block of a cover has its place in the document, behind everything that came before. -/
theorem Cover.exists_placed_of_mem {before rest : Text} {parts : List (Text × Block)}
    {tail : Text} (cover : Cover before rest parts tail) {part : Text × Block}
    (h : part ∈ parts) :
    ∃ left right, before ++ rest = left ++ (part.2.raw ++ right) ∧ before <+: left ∧
      PlacedAfter left part.2 := by
  induction parts generalizing before rest with
  | nil => cases h
  | cons first parts ih =>
    obtain ⟨gap, b⟩ := first
    obtain rfl | later := List.mem_cons.1 h
    · refine ⟨before ++ gap, woven parts ++ tail, ?_, List.prefix_append before gap, cover.placed.1⟩
      simp [cover.rest_eq]
    · obtain ⟨left, right, whole, behind, placed⟩ := ih cover.of_cons later
      refine ⟨left, right, ?_, ?_, placed⟩
      · rw [← whole]
        simp [cover.rest_eq]
      · rw [List.append_assoc] at behind
        exact (List.prefix_append before _).trans behind

/-- A block of a cover stands in the document at its span. -/
theorem Cover.exists_append_of_mem {before rest : Text} {parts : List (Text × Block)}
    {tail : Text} (cover : Cover before rest parts tail) {part : Text × Block}
    (h : part ∈ parts) :
    ∃ left right, before ++ rest = left ++ part.2.raw ++ right ∧
      left.size = part.2.start ∧ before.size ≤ part.2.start := by
  obtain ⟨left, right, whole, ⟨between, rfl⟩, placed⟩ := cover.exists_placed_of_mem h
  refine ⟨before ++ between, right, ?_, placed.start.symm, ?_⟩
  · rw [whole, List.append_assoc _ part.2.raw]
  · rw [placed.start, Text.size_append]
    exact Nat.le_add_right _ _

theorem Cover.pairwise {before rest : Text} {parts : List (Text × Block)} {tail : Text}
    (cover : Cover before rest parts tail) :
    (parts.map Prod.snd).Pairwise fun a b => a.stop ≤ b.start := by
  induction parts generalizing before rest with
  | nil => exact List.Pairwise.nil
  | cons first parts ih =>
    obtain ⟨gap, a⟩ := first
    refine List.pairwise_cons.2 ⟨?_, ih cover.of_cons⟩
    intro b hb
    obtain ⟨part, hp, rfl⟩ := List.mem_map.1 hb
    obtain ⟨-, -, -, -, behind⟩ := cover.of_cons.exists_append_of_mem hp
    rw [cover.placed.1.stop_eq]
    exact behind

/-- **Blocks**: the blocks of a document are the one list that covers it. Their spans are
disjoint, increase, and start and end between two characters. -/
theorem eq_all_iff_cover (document : Text) :
    (∀ blocks, blocks = all document ↔
      ∃ parts tail, Cover [] document parts tail ∧ parts.map Prod.snd = blocks) ∧
    ((all document).Pairwise fun a b => a.stop ≤ b.start) ∧
    ∀ b ∈ all document, b.start < b.stop ∧
      ∃ left right, document = left ++ b.raw ++ right ∧ left.size = b.start := by
  obtain ⟨l, rfl⟩ := Layout.exists_text_eq document
  obtain ⟨parts, tail, cover, found⟩ := exists_cover l (List.nil_append l.text).symm
  have found : parts.map Prod.snd = all l.text := by
    rw [Layout.all_text]
    exact found
  refine ⟨fun blocks => ⟨?_, ?_⟩, ?_, ?_⟩
  · rintro rfl
    exact ⟨parts, tail, cover, found⟩
  · rintro ⟨others, end_, cover', rfl⟩
    exact (cover'.allFrom_eq rfl).symm
  · rw [← found]
    exact cover.pairwise
  · intro b hb
    rw [← found] at hb
    obtain ⟨part, hp, rfl⟩ := List.mem_map.1 hb
    obtain ⟨left, right, whole, place, -⟩ := cover.exists_append_of_mem hp
    refine ⟨?_, left, right, whole, place⟩
    have := Marker.start.size_text_pos
    simp only [stop, raw, Text.size_append]
    omega

end QuizPages.Block
