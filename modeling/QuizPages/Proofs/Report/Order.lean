import QuizPages.Proofs.Sorting
import QuizPages.Proofs.Text.Order
import QuizPages.Report.Order

/-!
# The order of a report

Items are compared by path and first line, where a missing path comes last and a missing range first. Still
this is an order: what need not come after each other has one `key`, and of items without a path nothing else
counts. So a report is sorted in one way only (`sort_stable`): whatever order its items came in, all that
shows in the end is the order of the items that have one key.
-/

namespace QuizPages.Item

/-! ## Ranges -/

instance : Std.TransCmp compareRanges where
  eq_swap {r s} := by
    rcases r with - | r <;> rcases s with - | s
    · rfl
    · rfl
    · rfl
    · exact Std.OrientedOrd.eq_swap
  isLE_trans {r s u} rs su := by
    rcases r with - | r <;> rcases s with - | s <;> rcases u with - | u <;>
      first
        | rfl
        | cases rs
        | cases su
        | exact Std.TransOrd.isLE_trans (α := Nat) rs su

theorem compareRanges_eq_iff {r s : Option LineRange} :
    compareRanges r s = .eq ↔ r.map LineRange.start = s.map LineRange.start := by
  rcases r with - | r <;> rcases s with - | s <;> simp [compareRanges, UInt32.toNat_inj]

/-! ## Items -/

theorem compare_of_paths {a b : Item} {p q : Text} (ha : a.path = some p) (hb : b.path = some q) :
    a.compare b = (Text.compare p q).then (compareRanges a.range b.range) := by
  rw [compare, ha, hb]

theorem compare_of_pathless {a b : Item} (hb : b.path = none) :
    a.compare b = if a.path.isSome then .lt else .eq := by
  rw [compare, hb]
  rcases a.path with - | p <;> rfl

/-- An item comes behind each item without a path unless it has none itself. -/
theorem exists_path_of_isLE {a b : Item} {q : Text} (hb : b.path = some q)
    (le : (a.compare b).isLE = true) : ∃ p, a.path = some p := by
  rcases ha : a.path with - | p
  · rw [compare, ha, hb] at le
    cases le
  · exact ⟨p, rfl⟩

instance : Std.TransCmp compare where
  eq_swap {a b} := by
    rcases ha : a.path with - | p <;> rcases hb : b.path with - | q
    · rw [compare_of_pathless hb, compare_of_pathless ha, ha, hb]
      rfl
    · rw [compare_of_pathless ha, compare, ha, hb]
      rfl
    · rw [compare_of_pathless hb, compare, ha, hb]
      rfl
    · rw [compare_of_paths ha hb, compare_of_paths hb ha, Ordering.swap_then,
        ← Std.OrientedCmp.eq_swap, ← Std.OrientedCmp.eq_swap]
  isLE_trans {a b c} ab bc := by
    rcases hc : c.path with - | r
    · rw [compare_of_pathless hc]
      split <;> rfl
    · obtain ⟨q, hb⟩ := exists_path_of_isLE hc bc
      obtain ⟨p, ha⟩ := exists_path_of_isLE hb ab
      rw [compare_of_paths ha hb, Ordering.isLE_then_iff_or] at ab
      rw [compare_of_paths hb hc, Ordering.isLE_then_iff_or] at bc
      rw [compare_of_paths ha hc, Ordering.isLE_then_iff_or]
      rcases ab with ab | ⟨ab, lines⟩ <;> rcases bc with bc | ⟨bc, lines'⟩
      · exact .inl (Std.TransCmp.lt_trans ab bc)
      · exact .inl (Std.TransCmp.lt_of_lt_of_eq ab bc)
      · exact .inl (Std.TransCmp.lt_of_eq_of_lt ab bc)
      · exact .inr ⟨Std.TransCmp.eq_trans ab bc, Std.TransCmp.isLE_trans lines lines'⟩

/-- What the order looks at: the path and the first line, and nothing of an item without a path. -/
def key (i : Item) : Option (Text × Option UInt32) :=
  i.path.map fun p => (p, i.range.map LineRange.start)

theorem compare_eq_iff {a b : Item} : a.compare b = .eq ↔ a.key = b.key := by
  rcases ha : a.path with - | p <;> rcases hb : b.path with - | q
  · simp [compare, key, ha, hb]
  · simp [compare, key, ha, hb]
  · simp [compare, key, ha, hb]
  · rw [compare_of_paths ha hb, Ordering.then_eq_eq, Text.compare_eq_iff, compareRanges_eq_iff]
    simp [key, ha, hb]

/-! ## Sorting -/

theorem le_trans (a b c : Item) (ab : a.le b) (bc : b.le c) : a.le c :=
  Std.TransCmp.isLE_trans ab bc

theorem le_total (a b : Item) : a.le b || b.le a := by
  have swapped : b.compare a = (a.compare b).swap := Std.OrientedCmp.eq_swap
  rw [le, le, swapped]
  cases a.compare b <;> rfl

theorem key_eq_of_le (a b : Item) (ab : a.le b) (ba : b.le a) : a.key = b.key :=
  compare_eq_iff.1 (Std.OrientedCmp.isLE_antisymm ab ba)

theorem le_of_key_eq (a b : Item) (same : a.key = b.key) : a.le b := by
  rw [le, compare_eq_iff.2 same]
  rfl

theorem pairwise_sort (items : List Item) : (sort items).Pairwise fun a b => a.le b :=
  List.pairwise_mergeSort le_trans le_total items

theorem filter_key_sort (k : Option (Text × Option UInt32)) (items : List Item) :
    (sort items).filter (·.key = k) = items.filter (·.key = k) :=
  filter_key_mergeSort le_trans le_total le_of_key_eq k items

theorem sort_of_pairwise {items : List Item} (sorted : items.Pairwise fun a b => a.le b) :
    sort items = items :=
  List.mergeSort_of_pairwise sorted

theorem sort_eq_iff {items others : List Item} :
    sort items = sort others ↔ ∀ k, items.filter (·.key = k) = others.filter (·.key = k) := by
  constructor
  · intro same k
    rw [← filter_key_sort k items, same, filter_key_sort]
  · intro same
    apply eq_of_filter_key_eq le_total key_eq_of_le (pairwise_sort items) (pairwise_sort others)
    intro k
    rw [filter_key_sort, filter_key_sort, same]

/-- **Order of a report**: its items are compared by a total preorder, also those without a path or a range,
and tie if they have one key. Sorting gives all items in order and keeps the order of items that tie; doing it
again changes nothing. Two lists are sorted to the same one exactly if they have the same items of each key in
the same order, whatever stands in between. -/
theorem sort_stable :
    (∀ a b : Item, b.compare a = (a.compare b).swap) ∧
    (∀ a b c : Item, (a.compare b).isLE → (b.compare c).isLE → (a.compare c).isLE) ∧
    (∀ a b c : Item, a.compare b = .eq → b.compare c = .eq → a.compare c = .eq) ∧
    (∀ a b : Item, a.compare b = .eq ↔ a.key = b.key) ∧
    ∀ items : List Item,
      (sort items).Perm items ∧
      (sort items).Pairwise (fun a b => (a.compare b).isLE) ∧
      (∀ a : Item, (sort items).filter (a.compare · = .eq) = items.filter (a.compare · = .eq)) ∧
      sort (sort items) = sort items ∧
      ∀ others, sort items = sort others ↔
        ∀ k, items.filter (·.key = k) = others.filter (·.key = k) := by
  refine ⟨fun a b => Std.OrientedCmp.eq_swap, fun a b c => Std.TransCmp.isLE_trans,
    fun a b c => Std.TransCmp.eq_trans, fun a b => compare_eq_iff, fun items => ?_⟩
  refine ⟨List.mergeSort_perm items le, pairwise_sort items, fun a => ?_,
    sort_of_pairwise (pairwise_sort items), fun others => sort_eq_iff⟩
  have tied : ∀ b : Item, (a.compare b = .eq) = (b.key = a.key) := fun b =>
    propext (compare_eq_iff.trans eq_comm)
  simp only [tied]
  exact filter_key_sort a.key items

/-- A page, a fault on a line of it, and a fault of no page, from the last one to the first. -/
def mixedItems : List Item :=
  [ofFault .warning ⟨"A", "a"⟩,
    { ofFault .error ⟨"B", "b"⟩ with path := some "a.md".toList, range := some ⟨3, 4⟩ }, ofPage "a.md"]

theorem sort_stable_mixedItems :
    (mixedItems[2].compare mixedItems[0]).isLE ∧ sort mixedItems = mixedItems.reverse := by
  obtain ⟨-, trans, -, -, sorted⟩ := sort_stable
  have le : (mixedItems[2].compare mixedItems[1]).isLE ∧ (mixedItems[1].compare mixedItems[0]).isLE := by
    decide
  refine ⟨trans _ _ _ le.1 le.2, ?_⟩
  have same : ∀ k, mixedItems.filter (·.key = k) = mixedItems.reverse.filter (·.key = k) := by
    intro k
    rcases k with - | ⟨p, - | line⟩ <;> simp [mixedItems, key, ofFault, ofPage, List.filter_cons]
  obtain ⟨-, -, -, -, alike⟩ := sorted mixedItems
  rw [(alike mixedItems.reverse).2 same]
  exact sort_of_pairwise (by decide)

end QuizPages.Item
