import QuizPages.Proofs.Json.Lines
import QuizPages.Proofs.Report.Written
import QuizPages.Report.Format

/-!
# Reading back reports

A report in one of the two JSON formats holds its items: the array is read back as the list of them, and
the lines or paragraphs of the other format are as many as the items and read back one by one, whatever
characters stand in the items (`read_render`).
-/

namespace QuizPages

open Json

/-! ## The depth of items -/

theorem Json.fits64_ofNat {n : Nat} (small : n < UInt64.size) : fits64 n = true := by
  have size : UInt64.size = 0x10000000000000000 := rfl
  simp only [fits64, Bool.and_eq_true, decide_eq_true_eq]
  omega

namespace Item

variable {depth : Nat} {i : Item}

/-- Whether the data of an item, if it has any, is nested at most `depth` deep and has no binary64
numbers. -/
def DataReadable (depth : Nat) (i : Item) : Prop := ∀ d, i.data = some d → d.Readable depth

theorem readable_present {table : List (Text × Option Json)}
    (each : ∀ entry ∈ table, ∀ j ∈ entry.2, Readable depth j) :
    Readable (depth + 1) (.obj (present table)) := by
  apply Readable.obj
  intro m mem
  obtain ⟨entry, inside, given⟩ := List.mem_filterMap.1 mem
  obtain ⟨j, value, rfl⟩ := Option.map_eq_some_iff.1 given
  exact each entry inside j value

theorem readable_of_mem_map {α : Type} {write : α → Json} (each : ∀ a, Readable depth (write a))
    (value : Option α) : ∀ j ∈ value.map write, Readable depth j := by
  intro j given
  obtain ⟨a, -, rfl⟩ := Option.map_eq_some_iff.1 given
  exact each a

theorem readable_writeWord (n : UInt64) : Readable depth (writeWord n) :=
  .int (fits64_ofNat n.toNat_lt_size)

theorem readable_writeLine (n : UInt32) : Readable depth (writeLine n) :=
  .int (fits64_ofNat (Nat.lt_trans n.toNat_lt_size (by decide)))

theorem readable_writeRange (r : LineRange) : Readable (depth + 1) (writeRange r) := by
  apply Readable.obj
  simp only [List.forall_mem_cons]
  exact ⟨readable_writeLine r.start, readable_writeLine r.stop, List.forall_mem_nil _⟩

theorem readable_writeFault (f : Fault) : Readable (depth + 1) (writeFault f) := by
  apply Readable.obj
  simp only [List.forall_mem_cons]
  exact ⟨.str f.code, .str f.message, List.forall_mem_nil _⟩

theorem readable_writeFacts (f : Facts) : Readable (depth + 1) (writeFacts f) := by
  rw [writeFacts_eq]
  apply readable_present
  simp only [factsTable, List.forall_mem_cons]
  refine ⟨readable_of_mem_map readable_writeWord f.size, readable_of_mem_map .str f.digest,
    readable_of_mem_map readable_writeWord f.quizzes, ?_, ?_, List.forall_mem_nil _⟩
  · intro j given
    split at given
    · exact Option.some.inj given ▸ .bool true
    · cases given
  · intro j given
    exact Option.some.inj given ▸ .bool f.truncated

/-- An item is nested one level deeper than its data, and is no shallower than its faults. -/
theorem readable_toJson (depth : Nat) (data : i.DataReadable (depth + 2)) :
    Readable (depth + 3) i.toJson := by
  rw [toJson_eq]
  apply readable_present
  simp only [table, List.forall_mem_cons]
  refine ⟨?_, readable_of_mem_map .str i.path, readable_of_mem_map readable_writeRange i.range,
    readable_of_mem_map .str i.excerpt, data, readable_of_mem_map (fun s => .str s.word) i.severity,
    ?_, ?_, List.forall_mem_nil _⟩
  · intro j given
    exact Option.some.inj given ▸ .str i.kind.word
  · intro j given
    exact Option.some.inj given ▸ readable_writeFacts i.facts
  · intro j given
    split at given
    · cases given
    · obtain rfl := Option.some.inj given
      apply Readable.arr
      intro k mem
      obtain ⟨f, -, rfl⟩ := List.mem_map.1 mem
      exact readable_writeFault f

/-- The item that a text holds. -/
def read? (t : Text) : Option Item := (Json.read? t).bind ofJson?

theorem read?_render (ordered : i.DataOrdered) (data : i.DataReadable (maxDepth - 1)) (layout : Layout) :
    read? (i.toJson.render layout) = some i := by
  have whole : Json.read? (i.toJson.render layout) = some i.toJson :=
    Json.read?_render (readable_toJson 124 data) layout
  rw [read?, whole]
  exact ofJson?_toJson ordered

end Item

namespace Report

/-- The items of the array that a text holds. -/
def read? (t : Text) : Option (List Item) :=
  match Json.read? t with
  | some (.arr js) => js.mapM Item.ofJson?
  | _ => none

theorem mapM_ofJson? {items : List Item} (ordered : ∀ i ∈ items, i.DataOrdered) :
    (items.map Item.toJson).mapM Item.ofJson? = some items := by
  induction items with
  | nil => rfl
  | cons i items ih =>
    obtain ⟨first, later⟩ := List.forall_mem_cons.1 ordered
    rw [List.map_cons, List.mapM_cons, Item.ofJson?_toJson first, ih later]
    rfl

theorem read?_render_json {items : List Item} (ordered : ∀ i ∈ items, i.DataOrdered)
    (data : ∀ i ∈ items, i.DataReadable (maxDepth - 2)) (layout : Layout) :
    read? ((Json.arr (items.map Item.toJson)).render layout) = some items := by
  have readable : Readable maxDepth (.arr (items.map Item.toJson)) := by
    apply Readable.arr
    intro j mem
    obtain ⟨i, inside, rfl⟩ := List.mem_map.1 mem
    exact Item.readable_toJson 123 (data i inside)
  rw [read?, Json.read?_render readable layout]
  exact mapM_ofJson? ordered

/-- The pieces of a report are its items if it splits where they were joined. -/
theorem map_read?_of_split {items : List Item} (ordered : ∀ i ∈ items, i.DataOrdered)
    (data : ∀ i ∈ items, i.DataReadable (maxDepth - 1)) (layout : Layout) {pieces : List Text}
    (split : pieces = items.map fun i => i.toJson.render layout) :
    pieces.map Item.read? = items.map some := by
  rw [split, List.map_map]
  apply List.map_congr_left
  intro i mem
  exact Item.read?_render (ordered i mem) (data i mem) layout

/-- **Reports**: the array of a report is read back as its items. The compact form of the other format has
one line for each item, and the indented form has one paragraph for each, from which it is read back. The
data of items may be nested as deep as a reader goes below them. -/
theorem read_render {items : List Item} (ordered : ∀ i ∈ items, i.DataOrdered) :
    ((∀ i ∈ items, i.DataReadable (maxDepth - 2)) →
      ∀ pretty, read? (render ⟨.json, pretty⟩ items) = some items) ∧
    (items ≠ [] → (∀ i ∈ items, i.DataReadable (maxDepth - 1)) →
      (Text.splitAt '\n' (render ⟨.jsonl, false⟩ items)).map Item.read? = items.map some ∧
      (Text.paragraphs (render ⟨.jsonl, true⟩ items)).map Item.read? = items.map some) := by
  constructor
  · intro data pretty
    exact read?_render_json ordered data _
  · intro some_item data
    have readable : ∀ i ∈ items, Readable maxDepth i.toJson := fun i mem =>
      Item.readable_toJson 124 (data i mem)
    constructor
    · apply map_read?_of_split ordered data .compact
      apply Text.splitAt_join
      · simpa using some_item
      · intro piece mem
        obtain ⟨i, inside, rfl⟩ := List.mem_map.1 mem
        exact feed_notMem_render (readable i inside)
    · apply map_read?_of_split ordered data .indented
      apply Text.paragraphs_join
      · simpa using some_item
      · intro piece mem
        obtain ⟨i, inside, rfl⟩ := List.mem_map.1 mem
        exact oneParagraph_render (readable i inside)

/-- Data with nested values, line feeds and a negative number. -/
def oddData : Json := .obj [("x", .arr [.null, .int (-1), .str "\n\n"]), ("y", .obj [])]

/-- An item with line feeds, quotation marks and a control character in its texts. -/
def oddItem : Item where
  kind := .error
  path := some "a\n\n\"b\".md"
  data := some oddData
  severity := some .warning
  faults := [⟨"W", "\x01 \\"⟩, ⟨"", "\n"⟩]

theorem read_render_oddItem :
    let items := [oddItem, Item.ofPage "p.md"]
    (∀ i ∈ items, i.DataOrdered) ∧ (∀ i ∈ items, i.DataReadable (maxDepth - 2)) ∧
      read? (render ⟨.json, true⟩ items) = some items ∧
      (Text.splitAt '\n' (render ⟨.jsonl, false⟩ items)).map Item.read? = items.map some ∧
      (Text.paragraphs (render ⟨.jsonl, true⟩ items)).map Item.read? = items.map some := by
  intro items
  have ordered : ∀ i ∈ items, i.DataOrdered := by
    rw [List.forall_mem_cons, List.forall_mem_singleton]
    constructor
    · intro d given
      obtain rfl : oddData = d := Option.some.inj given
      refine ⟨nofun, .obj (by decide) ?_⟩
      simp only [List.forall_mem_cons]
      refine ⟨.arr ?_, .obj .nil nofun, nofun⟩
      simp only [List.forall_mem_cons]
      exact ⟨.null, .int _, .str _, nofun⟩
    · intro d given
      cases given
  have data : ∀ depth, ∀ i ∈ items, i.DataReadable (depth + 2) := by
    intro depth
    rw [List.forall_mem_cons, List.forall_mem_singleton]
    constructor
    · intro d given
      obtain rfl : oddData = d := Option.some.inj given
      apply Readable.obj
      simp only [List.forall_mem_cons]
      refine ⟨.arr ?_, .obj nofun, nofun⟩
      simp only [List.forall_mem_cons]
      exact ⟨.null, .int (by decide), .str _, nofun⟩
    · intro d given
      cases given
  obtain ⟨array, pieces⟩ := read_render ordered
  obtain ⟨lines, paragraphs⟩ := pieces (List.cons_ne_nil _ _) (data 124)
  exact ⟨ordered, data 123, array (data 123) true, lines, paragraphs⟩

end Report
end QuizPages
