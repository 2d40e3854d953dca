import QuizPages.Text.Lines

/-!
# The pieces of a text

The pieces of a text end at their one line feed, except that the last may have none. Lists of this
form (`Pieced`) are the pieces of what they make up, so pieces can be taken from the front of a text
or put in front of it.
-/

namespace QuizPages.Text

/-- Each text but the last ends at its one line feed; the last has no other line feed and is not
empty. -/
inductive Pieced : List Text → Prop where
  | nil : Pieced []
  | last {l : Text} (plain : '\n' ∉ l) (nonempty : l ≠ []) : Pieced [l]
  | cons {l : Text} {ps : List Text} (plain : '\n' ∉ l) (rest : Pieced ps) :
      Pieced ((l ++ ['\n']) :: ps)

/-- A line that is ended by a line feed is a piece, and what is behind it is cut on its own. -/
theorem pieces_append_feed {l : Text} (plain : '\n' ∉ l) (t : Text) :
    pieces (l ++ '\n' :: t) = (l ++ ['\n']) :: pieces t := by
  induction l with
  | nil => simp [pieces]
  | cons c l ih =>
    obtain ⟨other, plain⟩ : '\n' ≠ c ∧ '\n' ∉ l := by simpa using plain
    rw [List.cons_append, pieces, if_neg (Ne.symm other), ih plain]
    rfl

/-- A text without a line feed is one piece. -/
theorem pieces_of_plain {l : Text} (plain : '\n' ∉ l) (nonempty : l ≠ []) : pieces l = [l] := by
  induction l with
  | nil => exact absurd rfl nonempty
  | cons c l ih =>
    obtain ⟨other, plain⟩ : '\n' ≠ c ∧ '\n' ∉ l := by simpa using plain
    rw [pieces, if_neg (Ne.symm other)]
    cases l with
    | nil => rfl
    | cons d l => rw [ih plain (List.cons_ne_nil d l)]

theorem pieced_pieces (t : Text) : Pieced (pieces t) := by
  induction t with
  | nil => exact .nil
  | cons c t ih =>
    rw [pieces]
    by_cases feed : c = '\n'
    · rw [if_pos feed]
      exact .cons (List.not_mem_nil) ih
    · rw [if_neg feed]
      generalize pieces t = ps at ih
      cases ih with
      | nil => exact .last (by simpa using Ne.symm feed) (List.cons_ne_nil c [])
      | @last l plain _ => exact .last (by simp [Ne.symm feed, plain]) (List.cons_ne_nil c l)
      | @cons l ps plain rest =>
        have plain' : '\n' ∉ c :: l := by simp [Ne.symm feed, plain]
        exact .cons plain' rest

namespace Pieced

variable {xs ys : List Text}

theorem pieces_flatten (h : Pieced xs) : pieces xs.flatten = xs := by
  induction h with
  | nil => rfl
  | last plain nonempty => simpa using pieces_of_plain plain nonempty
  | cons plain rest ih =>
    rw [List.flatten_cons, List.append_assoc, List.singleton_append, pieces_append_feed plain, ih]

theorem of_append (h : Pieced (xs ++ ys)) : Pieced xs ∧ Pieced ys := by
  induction xs with
  | nil => exact ⟨.nil, h⟩
  | cons x xs ih =>
    generalize whole : x :: xs ++ ys = ps at h
    cases h with
    | nil => cases whole
    | last plain nonempty =>
      obtain ⟨rfl, rest⟩ := List.cons_eq_cons.1 whole
      obtain ⟨rfl, rfl⟩ := List.append_eq_nil_iff.1 rest
      exact ⟨.last plain nonempty, .nil⟩
    | cons plain rest =>
      obtain ⟨rfl, rfl⟩ := List.cons_eq_cons.1 whole
      obtain ⟨left, right⟩ := ih rest
      exact ⟨.cons plain left, right⟩

/-- Pieces go on behind a line feed. -/
theorem append (hx : Pieced xs) (ends : xs.flatten.getLast? = some '\n') (hy : Pieced ys) :
    Pieced (xs ++ ys) := by
  induction hx with
  | nil => exact hy
  | last plain nonempty =>
    rw [List.flatten_singleton] at ends
    exact absurd (List.mem_of_getLast? ends) plain
  | @cons l ps plain rest ih =>
    refine .cons plain ?_
    cases ps with
    | nil => exact hy
    | cons p ps =>
      refine ih ?_
      have nonempty : (p :: ps).flatten ≠ [] := by
        cases rest <;> simp_all
      rw [List.flatten_cons, List.getLast?_append, List.getLast?_eq_some_getLast nonempty] at ends
      rw [List.getLast?_eq_some_getLast nonempty]
      exact ends

/-- Pieces in front of others end with a line feed. -/
theorem getLast?_flatten (h : Pieced (xs ++ ys)) (hx : xs ≠ []) (hy : ys ≠ []) :
    xs.flatten.getLast? = some '\n' := by
  induction xs with
  | nil => exact absurd rfl hx
  | cons x xs ih =>
    generalize whole : x :: xs ++ ys = ps at h
    cases h with
    | nil => cases whole
    | last plain nonempty =>
      obtain ⟨-, rest⟩ := List.cons_eq_cons.1 whole
      exact absurd (List.append_eq_nil_iff.1 rest).2 hy
    | cons plain rest =>
      obtain ⟨rfl, rfl⟩ := List.cons_eq_cons.1 whole
      cases xs with
      | nil => simp
      | cons y xs => rw [List.flatten_cons, List.getLast?_append, ih rest (List.cons_ne_nil y xs)]; rfl

/-- A piece is a line with its line feed, or one without. -/
theorem exists_line_of_mem (h : Pieced xs) {p : Text} (hp : p ∈ xs) :
    ∃ l, '\n' ∉ l ∧ (p = l ∨ p = l ++ ['\n']) := by
  induction h with
  | nil => cases hp
  | last plain _ => exact ⟨p, by rwa [List.mem_singleton.1 hp], .inl rfl⟩
  | @cons l ps plain rest ih =>
    obtain rfl | hp := List.mem_cons.1 hp
    · exact ⟨l, plain, .inr rfl⟩
    · exact ih hp

end Pieced

/-- Pieces of one text behind the line feed of another. -/
theorem pieces_append {s : Text} (ends : s.getLast? = some '\n') (t : Text) :
    pieces (s ++ t) = pieces s ++ pieces t := by
  have whole := Pieced.append (pieced_pieces s) (by rwa [flatten_pieces]) (pieced_pieces t)
  rw [← whole.pieces_flatten, List.flatten_append, flatten_pieces, flatten_pieces]

/-! ## Lines -/

theorem withoutEnd_of_plain {l : Text} (plain : '\n' ∉ l) : withoutEnd l = l := by
  rw [withoutEnd, if_neg fun last => plain (List.mem_of_getLast? last)]

theorem withoutEnd_append_feed (l : Text) :
    withoutEnd (l ++ ['\n']) = if l.getLast? = some '\r' then l.dropLast else l := by
  simp [withoutEnd]

/-- Lines are what is between line feeds. -/
theorem newline_notMem_of_mem_lines {l t : Text} (h : l ∈ lines t) : '\n' ∉ l := by
  obtain ⟨p, hp, rfl⟩ := List.mem_map.1 h
  obtain ⟨l, plain, rfl | rfl⟩ := (pieced_pieces t).exists_line_of_mem hp
  · rwa [withoutEnd_of_plain plain]
  · rw [withoutEnd_append_feed]
    split
    · exact fun inside => plain (List.dropLast_subset l inside)
    · exact plain

end QuizPages.Text
