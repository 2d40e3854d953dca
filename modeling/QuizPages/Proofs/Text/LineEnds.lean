import QuizPages.Proofs.Text.Pieces
import QuizPages.Text.Space

/-!
# Other line ends

A text may end its lines with a carriage return and a line feed instead of a line feed. Its pieces
are then the same ones with other ends (`pieces_crlf`), and its lines are the same (`lines_crlf`).
-/

namespace QuizPages.Text

/-- The text with a carriage return in front of each line feed. -/
def crlf : Text → Text
  | [] => []
  | c :: t => if c = '\n' then '\r' :: '\n' :: crlf t else c :: crlf t

@[simp] theorem crlf_nil : crlf [] = [] := rfl

@[simp] theorem crlf_feed (t : Text) : crlf ('\n' :: t) = '\r' :: '\n' :: crlf t := rfl

theorem crlf_cons {c : Char} (other : c ≠ '\n') (t : Text) : crlf (c :: t) = c :: crlf t := by
  rw [crlf, if_neg other]

@[simp] theorem crlf_append (s t : Text) : crlf (s ++ t) = crlf s ++ crlf t := by
  induction s with
  | nil => rfl
  | cons c s ih =>
    by_cases feed : c = '\n'
    · rw [feed, List.cons_append, crlf_feed, ih]
      rfl
    · rw [List.cons_append, crlf_cons feed, crlf_cons feed, ih, List.cons_append]

theorem crlf_flatten (ts : List Text) : crlf ts.flatten = (ts.map crlf).flatten := by
  induction ts with
  | nil => rfl
  | cons t ts ih => rw [List.flatten_cons, crlf_append, ih, List.map_cons, List.flatten_cons]

theorem crlf_of_plain {l : Text} (plain : '\n' ∉ l) : crlf l = l := by
  induction l with
  | nil => rfl
  | cons c l ih =>
    obtain ⟨other, plain⟩ : '\n' ≠ c ∧ '\n' ∉ l := by simpa using plain
    rw [crlf_cons (Ne.symm other), ih plain]

theorem crlf_concat_feed (s : Text) : crlf (s ++ ['\n']) = (crlf s ++ ['\r']) ++ ['\n'] := by
  simp

theorem crlf_concat {c : Char} (other : c ≠ '\n') (s : Text) : crlf (s ++ [c]) = crlf s ++ [c] := by
  rw [crlf_append, crlf_cons other, crlf_nil]

theorem crlf_append_feed {l : Text} (plain : '\n' ∉ l) :
    crlf (l ++ ['\n']) = (l ++ ['\r']) ++ ['\n'] := by
  rw [crlf_concat_feed, crlf_of_plain plain]

/-- Line feeds are neither added nor taken away. -/
@[simp] theorem feeds_crlf (t : Text) : feeds (crlf t) = feeds t := by
  induction t with
  | nil => rfl
  | cons c t ih =>
    by_cases feed : c = '\n'
    · subst feed
      simpa [feeds] using ih
    · rw [crlf_cons feed]
      simpa [feeds, List.count_cons] using ih

/-! ## Pieces and lines -/

theorem Pieced.map_crlf {ps : List Text} (h : Pieced ps) : Pieced (ps.map crlf) := by
  induction h with
  | nil => exact .nil
  | last plain nonempty =>
    rw [List.map_singleton, crlf_of_plain plain]
    exact .last plain nonempty
  | @cons l ps plain _ ih =>
    have ended : '\n' ∉ l ++ ['\r'] := by simpa using plain
    rw [List.map_cons, crlf_append_feed plain]
    exact .cons ended ih

theorem pieces_crlf (t : Text) : pieces (crlf t) = (pieces t).map crlf := by
  rw [← (pieced_pieces t).map_crlf.pieces_flatten, ← crlf_flatten, flatten_pieces]

/-- The two ends of a line are both left away. -/
theorem withoutEnd_crlf {t p : Text} (free : '\r' ∉ t) (h : p ∈ pieces t) :
    withoutEnd (crlf p) = withoutEnd p := by
  obtain ⟨l, plain, rfl | rfl⟩ := (pieced_pieces t).exists_line_of_mem h
  · rw [crlf_of_plain plain]
  · have inside : l ++ ['\n'] <:+: t := by
      have := List.infix_of_mem_flatten h
      rwa [flatten_pieces] at this
    have last : l.getLast? ≠ some '\r' := fun ends =>
      free (inside.subset (List.mem_append_left _ (List.mem_of_getLast? ends)))
    rw [crlf_append_feed plain, withoutEnd_append_feed, withoutEnd_append_feed, if_neg last]
    simp

/-- **Lines**: the lines of a text do not depend on its line ends. -/
theorem lines_crlf {t : Text} (free : '\r' ∉ t) : lines (crlf t) = lines t := by
  rw [lines, lines, pieces_crlf, List.map_map]
  exact List.map_congr_left fun p hp => withoutEnd_crlf free hp

theorem trimEnd_append_space {c : Char} (space : isSpace c) (l : Text) :
    trimEnd (l ++ [c]) = trimEnd l := by
  simp [trimEnd, space]

/-- The ends of a line are white space. -/
theorem trimEnd_crlf {t p : Text} (h : p ∈ pieces t) : trimEnd (crlf p) = trimEnd p := by
  obtain ⟨l, plain, rfl | rfl⟩ := (pieced_pieces t).exists_line_of_mem h
  · rw [crlf_of_plain plain]
  · rw [crlf_append_feed plain, trimEnd_append_space (by decide), trimEnd_append_space (by decide),
      trimEnd_append_space (by decide)]

end QuizPages.Text
