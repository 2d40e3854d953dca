import QuizPages.Text.Basic

/-!
# Lines

A line ends at a line feed. `pieces` cuts a text just after each line feed and loses nothing;
`lines` drops the line ends, a carriage return before a line feed included. A last line
without a line feed keeps its carriage return.
-/

namespace QuizPages.Text

/-- The parts of a text that end just after a line feed; only the last one may have none. -/
def pieces : Text → List Text
  | [] => []
  | c :: cs =>
    if c = '\n' then ['\n'] :: pieces cs
    else
      match pieces cs with
      | [] => [[c]]
      | p :: ps => (c :: p) :: ps

theorem flatten_pieces (t : Text) : (pieces t).flatten = t := by
  induction t with
  | nil => rfl
  | cons c cs ih =>
    unfold pieces
    split
    · simp_all
    · split <;> simp_all

/-- A piece without its line end. -/
def withoutEnd (piece : Text) : Text :=
  if piece.getLast? = some '\n' then
    let body := piece.dropLast
    if body.getLast? = some '\r' then body.dropLast else body
  else piece

/-- The lines of a text, without their line ends. -/
def lines (t : Text) : List Text := (pieces t).map withoutEnd

theorem withoutEnd_isPrefix (piece : Text) : withoutEnd piece <+: piece := by
  unfold withoutEnd
  split
  · simp only
    split
    · exact (List.dropLast_prefix _).trans (List.dropLast_prefix _)
    · exact List.dropLast_prefix _
  · exact List.prefix_rfl

/-- A line is a part of its text. -/
theorem infix_of_mem_lines {l t : Text} (h : l ∈ lines t) : l <:+: t := by
  obtain ⟨piece, hp, rfl⟩ := List.mem_map.1 h
  have whole : piece <:+: (pieces t).flatten := List.infix_of_mem_flatten hp
  rw [flatten_pieces] at whole
  exact (withoutEnd_isPrefix piece).isInfix.trans whole

/-- A text through its last line feed; empty without one. -/
def throughLastFeed (t : Text) : Text := (t.reverse.dropWhile (· != '\n')).reverse

/-- The number of line feeds. -/
def feeds (t : Text) : Nat := t.count '\n'

/-- The number of line feeds in the first `offset` octets. -/
def feedsBefore : Text → Nat → Nat
  | [], _ => 0
  | c :: cs, offset =>
    if offset = 0 then 0
    else (if c = '\n' then 1 else 0) + feedsBefore cs (offset - c.utf8Size)

/-- The number of the line that holds an octet offset, counted from 1; an offset beyond the
end is on the last line. -/
def lineAt (t : Text) (offset : Nat) : UInt32 := UInt32.ofNat (feedsBefore t offset) + 1

/-- Line feeds in front of a part are those of the text up to it. -/
theorem feedsBefore_size_append (s t : Text) : feedsBefore (s ++ t) s.size = feeds s := by
  induction s with
  | nil => cases t <;> simp [feedsBefore, feeds]
  | cons c cs ih =>
    have := c.utf8Size_pos
    simp only [List.cons_append, feedsBefore, size_cons, feeds, List.count_cons]
    rw [if_neg (by omega), show c.utf8Size + size cs - c.utf8Size = size cs by omega, ih]
    simp [feeds, Nat.add_comm]

end QuizPages.Text
