import QuizPages.Proofs.Json.Order
import QuizPages.Report.Written

/-!
# Reading back items

A record is written as the members of a table, those without a value left out, and its reader finds each
of them by its name (`members?_present`). So an item is read back from its written form, field by field, if
its data is no null and has its members in order: `ofJson?_toJson`.
-/

namespace QuizPages.Item

open Json

/-! ## Records -/

/-- The members of a record that have a value. -/
def present (table : List (Text × Option Json)) : List (Text × Json) :=
  table.filterMap fun entry => entry.2.map (entry.1, ·)

theorem present_cons (name : Text) (value : Option Json) (table : List (Text × Option Json)) :
    present ((name, value) :: table) = (value.map (name, ·)).toList ++ present table := by
  cases value <;> rfl

theorem name_mem_of_mem_present {table : List (Text × Option Json)} {m : Text × Json}
    (h : m ∈ present table) : m.1 ∈ table.map Prod.fst := by
  obtain ⟨⟨name, value⟩, mem, given⟩ := List.mem_filterMap.1 h
  obtain ⟨j, -, rfl⟩ := Option.map_eq_some_iff.1 given
  exact List.mem_map_of_mem (f := Prod.fst) mem

/-- A member is found by its name. -/
theorem get?_present {table : List (Text × Option Json)} (distinct : (table.map Prod.fst).Nodup)
    {name : Text} {value : Option Json} (mem : (name, value) ∈ table) :
    Json.get? name (.obj (present table)) = value := by
  induction table with
  | nil => cases mem
  | cons entry table ih =>
    obtain ⟨n, v⟩ := entry
    rw [List.map_cons, List.nodup_cons] at distinct
    have found := ih distinct.2
    simp only [Json.get?] at found ⊢
    rw [present_cons]
    rcases List.mem_cons.1 mem with same | later
    · obtain ⟨rfl, rfl⟩ := Prod.mk.inj same
      cases value with
      | some j => simp
      | none =>
        -- The name stands for no other member.
        have none_left : (present table).find? (fun m => m.1 == name) = none := by
          rw [List.find?_eq_none]
          intro m inside same
          rw [beq_iff_eq] at same
          exact distinct.1 (same ▸ name_mem_of_mem_present inside)
        simp [none_left]
    · have other : n ≠ name := by
        intro same
        have inside : name ∈ table.map Prod.fst := List.mem_map_of_mem (f := Prod.fst) later
        exact distinct.1 (same ▸ inside)
      rw [← found later]
      cases v <;> simp [other]

/-- The members of a record are found, each at its place. -/
theorem members?_present (table : List (Text × Option Json)) {names : List Text}
    (named : table.map Prod.fst = names) (distinct : names.Nodup) (least : Nat) :
    members? names least (.obj (present table)) = some (table.map Prod.snd) := by
  subst named
  rw [members?, List.map_map]
  congr 1
  apply List.map_congr_left
  rintro ⟨name, value⟩ mem
  exact get?_present distinct mem

/-! ## Members -/

theorem optional?_map {α : Type} {read : Json → Option α} {write : α → Json}
    (back : ∀ a, read (write a) = some a) (given : ∀ a, write a ≠ .null) (value : Option α) :
    optional? read (value.map write) = some value := by
  cases value with
  | none => rfl
  | some a =>
    rw [Option.map_some, optional?]
    · rw [back]
      rfl
    · exact given a

theorem readWord?_writeWord (n : UInt64) : readWord? (writeWord n) = some n := by
  have small : n.toNat < UInt64.size := n.toNat_lt_size
  show (readNat? UInt64.size (.int (.ofNat n.toNat))).map UInt64.ofNat = some n
  rw [readNat?, if_pos small, Option.map_some, UInt64.ofNat_toNat]

theorem readLine?_writeLine (n : UInt32) : readLine? (writeLine n) = some n := by
  have small : n.toNat < UInt32.size := n.toNat_lt_size
  show (readNat? UInt32.size (.int (.ofNat n.toNat))).map UInt32.ofNat = some n
  rw [readNat?, if_pos small, Option.map_some, UInt32.ofNat_toNat]

theorem readRange?_writeRange (r : LineRange) : readRange? (writeRange r) = some r := by
  have found : members? ["start", "end"] 2 (writeRange r) =
      some [some (writeLine r.start), some (writeLine r.stop)] :=
    members?_present [("start", some (writeLine r.start)), ("end", some (writeLine r.stop))]
      (by rfl) (by decide) 2
  rw [readRange?, found]
  simp only [Option.bind_eq_bind, Option.bind_some, required?, readLine?_writeLine]

theorem readFault?_writeFault (f : Fault) : readFault? (writeFault f) = some f := by
  have found : members? ["code", "message"] 2 (writeFault f) =
      some [some (.str f.code), some (.str f.message)] :=
    members?_present [("code", some (.str f.code)), ("message", some (.str f.message))]
      (by rfl) (by decide) 2
  rw [readFault?, found]
  rfl

theorem readFaults?_map (faults : List Fault) :
    readFaults? (.arr (faults.map writeFault)) = some faults := by
  rw [readFaults?]
  induction faults with
  | nil => rfl
  | cons f faults ih =>
    rw [List.map_cons, List.mapM_cons, readFault?_writeFault, ih]
    rfl

theorem readKind?_word (k : Kind) : readWordOf? Kind.word Kind.all (.str k.word) = some k := by
  cases k <;> decide

theorem readSeverity?_word (s : Severity) :
    readWordOf? Severity.word Severity.all (.str s.word) = some s := by
  cases s <;> decide

/-! ## Facts and items -/

/-- The members of the facts of an item. -/
def factsTable (f : Facts) : List (Text × Option Json) :=
  [("size", f.size.map writeWord), ("hash", f.digest.map .str), ("quizzes", f.quizzes.map writeWord),
    ("disabled", if f.disabled then some (.bool true) else none), ("truncated", some (.bool f.truncated))]

theorem writeFacts_eq (f : Facts) : writeFacts f = .obj (present (factsTable f)) := by
  unfold writeFacts factsTable member?
  simp only [present_cons, Option.map_map, Function.comp_def, List.append_assoc]
  cases f.disabled <;> rfl

theorem readFacts?_writeFacts (f : Facts) : readFacts? (writeFacts f) = some f := by
  have found : members? ["size", "hash", "quizzes", "disabled", "truncated"] 3 (writeFacts f) =
      some ((factsTable f).map Prod.snd) := by
    rw [writeFacts_eq]
    exact members?_present (factsTable f) (by rfl) (by decide) 3
  have disabled : default? readBool? false (if f.disabled then some (.bool true) else none) =
      some f.disabled := by
    cases f.disabled <;> rfl
  have truncated : default? readBool? false (some (.bool f.truncated)) = some f.truncated := rfl
  have text : ∀ t, readText? (.str t) = some t := fun _ => rfl
  rw [readFacts?, found]
  simp only [factsTable, List.map_cons, List.map_nil, Option.bind_eq_bind, Option.bind_some,
    optional?_map readWord?_writeWord nofun, optional?_map text nofun, disabled, truncated]

/-- The members of an item. -/
def table (i : Item) : List (Text × Option Json) :=
  [("kind", some (.str i.kind.word)), ("path", i.path.map .str), ("range", i.range.map writeRange),
    ("excerpt", i.excerpt.map .str), ("data", i.data), ("severity", i.severity.map fun s => .str s.word),
    ("meta", some (writeFacts i.facts)),
    ("errors", if i.faults.isEmpty then none else some (.arr (i.faults.map writeFault)))]

theorem toJson_eq (i : Item) : i.toJson = .obj (present i.table) := by
  unfold toJson table member?
  simp only [present_cons, Option.map_map, Function.comp_def, id]
  cases i.faults.isEmpty <;> simp [present]

/-- Whether the data of an item, if it has any, is told apart from no data and has its members in order. -/
def DataOrdered (i : Item) : Prop := ∀ d, i.data = some d → d ≠ .null ∧ d.Ordered

theorem optional?_data {i : Item} (ordered : i.DataOrdered) :
    optional? (fun d => some d.sorted) i.data = some i.data := by
  rcases given : i.data with - | d
  · rfl
  · obtain ⟨other, names⟩ := ordered d given
    rw [optional?]
    · rw [sorted_of_ordered names]
      rfl
    · exact other

/-- **Items**: an item is read back from its written form, field by field. -/
theorem ofJson?_toJson {i : Item} (ordered : i.DataOrdered) : ofJson? i.toJson = some i := by
  have found : members? ["kind", "path", "range", "excerpt", "data", "severity", "meta", "errors"] 7
      i.toJson = some (i.table.map Prod.snd) := by
    rw [toJson_eq]
    exact members?_present i.table (by rfl) (by decide) 7
  have faults : default? readFaults? []
      (if i.faults.isEmpty then none else some (.arr (i.faults.map writeFault))) = some i.faults := by
    rcases given : i.faults with - | ⟨f, fs⟩
    · rfl
    · exact readFaults?_map (f :: fs)
  have text : ∀ t, readText? (.str t) = some t := fun _ => rfl
  rw [ofJson?, found]
  simp only [table, List.map_cons, List.map_nil, Option.bind_eq_bind, Option.bind_some, required?,
    readKind?_word, optional?_map text nofun, optional?_map readRange?_writeRange nofun,
    optional?_data ordered, optional?_map readSeverity?_word nofun, readFacts?_writeFacts, faults]

end QuizPages.Item
