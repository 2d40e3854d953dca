import QuizPages.Proofs.Block.Cover

/-!
# A block in its context

A text that ends outside a block goes on with a block and any text behind it: the covers of the
two texts join to a cover of the whole (`Cover.append_block`). How a text is cut does not depend on
what comes before it (`Cover.cut_unique`), so the text behind the block is cut as if it stood
alone.
-/

namespace QuizPages.Block

/-- Every document has a cover. -/
theorem exists_cover_all (document : Text) :
    ∃ parts tail, Cover [] document parts tail ∧ parts.map Prod.snd = all document := by
  obtain ⟨l, rfl⟩ := Layout.exists_text_eq document
  obtain ⟨parts, tail, cover, found⟩ := exists_cover l (List.nil_append l.text).symm
  refine ⟨parts, tail, cover, ?_⟩
  rw [Layout.all_text, found]
  rfl

/-- What comes after the last block of a text; all of it if there is no block. -/
def afterAll (t : Text) : Text := t.dropOctets (((all t).getLast?.map stop).getD 0)

/-- The last block stops where the text behind it starts. -/
theorem Cover.stop_getLast? {before rest : Text} {parts : List (Text × Block)} {tail : Text}
    (cover : Cover before rest parts tail) :
    ((parts.map Prod.snd).getLast?.map stop).getD before.size = (before ++ woven parts).size := by
  induction parts generalizing before rest with
  | nil => simp
  | cons part parts ih =>
    obtain ⟨gap, b⟩ := part
    have first : b.stop = (before ++ gap ++ b.raw).size := cover.placed.1.stop_eq
    have later := ih cover.of_cons
    have pull : ((parts.map Prod.snd).getLast?.getD b).stop =
        ((parts.map Prod.snd).getLast?.map stop).getD b.stop := (Option.getD_map stop b _).symm
    rw [← first] at later
    rw [List.map_cons, List.getLast?_cons, Option.map_some, Option.getD_some, pull, later]
    simp

theorem Cover.afterAll_eq {t : Text} {parts : List (Text × Block)} {tail : Text}
    (cover : Cover [] t parts tail) : afterAll t = tail := by
  have found : all t = parts.map Prod.snd := cover.allFrom_eq rfl
  have stops : ((all t).getLast?.map stop).getD 0 = (woven parts).size := by
    rw [found]
    exact cover.stop_getLast?
  rw [afterAll, stops, cover.rest_eq]
  exact Text.dropOctets_size_append (woven parts) tail

/-- **Joining covers**: where no start marker is behind the last block, the tail is the gap in
front of the block that comes next. -/
theorem Cover.append_block {before rest : Text} {parts : List (Text × Block)} {tail : Text}
    (cover : Cover before rest parts tail) (free : ¬ Marker.start.text <:+: tail) {b : Block}
    (body_free : ¬ Marker.stop.text <:+: b.body) (placed : PlacedAfter (before ++ rest) b)
    {rest' : Text} {parts' : List (Text × Block)} {tail' : Text}
    (later : Cover (before ++ rest ++ b.raw) rest' parts' tail') :
    Cover before (rest ++ (b.raw ++ rest')) (parts ++ (tail, b) :: parts') tail' := by
  induction parts generalizing before rest with
  | nil =>
    -- The tail of the one text is the gap in front of the block.
    obtain rfl : rest = tail := cover.rest_eq
    exact Cover.cons free body_free placed later
  | cons part parts ih =>
    obtain ⟨gap, c⟩ := part
    have whole : rest = gap ++ (c.raw ++ (woven parts ++ tail)) := by simp [cover.rest_eq]
    have before_eq : before ++ rest = before ++ gap ++ c.raw ++ (woven parts ++ tail) := by
      simp [whole]
    rw [before_eq] at placed later
    have next := Cover.cons (cover.gap_free _ List.mem_cons_self)
      (cover.body_free _ List.mem_cons_self) cover.placed.1 (ih cover.of_cons placed later)
    simpa [whole] using next

/-- A gap and the body of the block after it. -/
def cut (part : Text × Block) : Text × Text := (part.1, part.2.body)

theorem Cover.next?_cons {before rest : Text} {gap : Text} {b : Block}
    {parts : List (Text × Block)} {tail : Text}
    (cover : Cover before rest ((gap, b) :: parts) tail) :
    next? rest = some (gap, b.body, woven parts ++ tail) := by
  have whole : rest = gap ++ (Marker.start.text ++ (b.body ++ (Marker.stop.text ++
      (woven parts ++ tail)))) := by
    simp [cover.rest_eq, raw]
  rw [whole]
  exact next?_append (cover.gap_free _ List.mem_cons_self) (cover.body_free _ List.mem_cons_self) _

theorem Cover.next?_nil {before rest tail : Text} (cover : Cover before rest [] tail) :
    next? rest = none := by
  obtain rfl : rest = tail := cover.rest_eq
  exact next?_eq_none_iff.2 cover.blockless

/-- A text is cut in one way, whatever comes before it. -/
theorem Cover.cut_unique {before before' rest : Text} {parts parts' : List (Text × Block)}
    {tail tail' : Text} (cover : Cover before rest parts tail)
    (cover' : Cover before' rest parts' tail') :
    parts'.map cut = parts.map cut ∧ tail' = tail := by
  induction parts generalizing before before' rest parts' with
  | nil =>
    cases parts' with
    | nil => exact ⟨rfl, cover'.rest_eq.symm.trans cover.rest_eq⟩
    | cons part' parts' =>
      have found := cover'.next?_cons
      rw [cover.next?_nil] at found
      cases found
  | cons part parts ih =>
    cases parts' with
    | nil =>
      have found := cover.next?_cons
      rw [cover'.next?_nil] at found
      cases found
    | cons part' parts' =>
      obtain ⟨gap, b⟩ := part
      obtain ⟨gap', b'⟩ := part'
      have found := cover.next?_cons
      rw [cover'.next?_cons] at found
      simp only [Option.some.injEq, Prod.mk.injEq] at found
      obtain ⟨rfl, body_eq, rest_eq⟩ := found
      have later := cover'.of_cons
      rw [rest_eq] at later
      obtain ⟨cuts, tails⟩ := ih cover.of_cons later
      exact ⟨by rw [List.map_cons, List.map_cons, cuts, cut, cut, body_eq], tails⟩

end QuizPages.Block
