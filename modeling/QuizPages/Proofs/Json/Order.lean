import QuizPages.Json.Basic
import QuizPages.Proofs.Text.Order

/-!
# Values in order

A value whose members come in ascending order of their names is left as it is when its members are put in
that order: `sorted_of_ordered`.
-/

namespace QuizPages.Json

/-- Whether the members of every object come in ascending order of their names, each name once. -/
inductive Ordered : Json → Prop
  | null : Ordered .null
  | bool (value : Bool) : Ordered (.bool value)
  | int (value : Int) : Ordered (.int value)
  | float (bits : UInt64) : Ordered (.float bits)
  | str (text : Text) : Ordered (.str text)
  | arr {items : List Json} (each : ∀ j ∈ items, Ordered j) : Ordered (.arr items)
  | obj {members : List (Text × Json)}
    (names : members.Pairwise fun a b => Text.compare a.1 b.1 = .lt)
    (each : ∀ m ∈ members, Ordered m.2) : Ordered (.obj members)

/-- A member whose name comes after all others takes the last place. -/
theorem insertMember_of_last {name : Text} {value : Json} {members : List (Text × Json)}
    (last : ∀ m ∈ members, Text.compare m.1 name = .lt) :
    insertMember name value members = members ++ [(name, value)] := by
  induction members with
  | nil => rfl
  | cons m members ih =>
    obtain ⟨n, v⟩ := m
    obtain ⟨first, later⟩ := List.forall_mem_cons.1 last
    have after : Text.compare name n = .gt := by
      rw [Text.compare_swap, first]
      rfl
    rw [insertMember, after, ih later]
    rfl

theorem sortedItems_of_ordered {items : List Json} (each : ∀ j ∈ items, sorted j = j) :
    sortedItems items = items := by
  induction items with
  | nil => rw [sortedItems]
  | cons j items ih =>
    obtain ⟨first, later⟩ := List.forall_mem_cons.1 each
    rw [sortedItems, first, ih later]

theorem sortedMembers_of_ordered (done : List (Text × Json)) {members : List (Text × Json)}
    (names : (done ++ members).Pairwise fun a b => Text.compare a.1 b.1 = .lt)
    (each : ∀ m ∈ members, sorted m.2 = m.2) :
    sortedMembers members done = done ++ members := by
  induction members generalizing done with
  | nil => rw [sortedMembers, List.append_nil]
  | cons m members ih =>
    obtain ⟨n, v⟩ := m
    obtain ⟨first, later⟩ := List.forall_mem_cons.1 each
    have last : ∀ x ∈ done, Text.compare x.1 n = .lt := fun x mem =>
      (List.pairwise_append.1 names).2.2 x mem (n, v) List.mem_cons_self
    rw [List.append_cons] at names ⊢
    rw [sortedMembers, first, insertMember_of_last last]
    exact ih _ names later

theorem sorted_of_ordered {j : Json} (h : Ordered j) : sorted j = j := by
  induction h with
  | null | bool | int | float | str => rfl
  | arr _ ih => rw [sorted, sortedItems_of_ordered ih]
  | @obj members names _ ih =>
    rw [sorted, sortedMembers_of_ordered [] names ih, List.nil_append]

end QuizPages.Json
