import QuizPages.Report.Item

/-!
# The order of a report

Items go by path and then by first line. An item without a path comes after those with one, an
item without a range before those with one; the lines of items without a path do not count.
-/

namespace QuizPages.Item

/-- By first line, items without a range in front. -/
def compareRanges : Option LineRange → Option LineRange → Ordering
  | some a, some b => compare a.start.toNat b.start.toNat
  | none, some _ => .lt
  | some _, none => .gt
  | none, none => .eq

/-- By path, then by first line; items without a path at the end. -/
def compare (a b : Item) : Ordering :=
  match a.path, b.path with
  | some p, some q => (Text.compare p q).then (compareRanges a.range b.range)
  | some _, none => .lt
  | none, some _ => .gt
  | none, none => .eq

/-- One item need not come after another. -/
def le (a b : Item) : Bool := (a.compare b).isLE

/-- The items in order. Items that compare equal keep their order. -/
def sort (items : List Item) : List Item := items.mergeSort le

end QuizPages.Item
