import QuizPages.Proofs.Quiz.Spelling
import QuizPages.Proofs.Text.Pieces

/-!
# Empty lines around a body

A line end in front of a text is an empty line of its own. Behind a text it ends the last line, if
that has no end yet, and is an empty line otherwise (`exists_lines_append`). Empty lines at the edges
are left away when a body is read, so line ends around a body change neither its quiz nor its fault:
`parse_padded`.
-/

namespace QuizPages

/-- The two ways to end a line. -/
inductive LineEnd where
  | feed
  /-- A carriage return and a line feed. -/
  | returnFeed
  deriving DecidableEq, Repr

namespace LineEnd

def text : LineEnd → Text
  | feed => ['\n']
  | returnFeed => ['\r', '\n']

/-- Line ends laid end to end. -/
def textOf (ends : List LineEnd) : Text := ends.flatMap text

@[simp] theorem textOf_nil : textOf [] = [] := rfl

@[simp] theorem textOf_cons (e : LineEnd) (ends : List LineEnd) :
    textOf (e :: ends) = e.text ++ textOf ends := by
  simp [textOf]

end LineEnd

open LineEnd

namespace Text

/-- A line that is ended is a line of its own, whatever its end. A carriage return that it ends with
would be taken for a part of the line end. -/
theorem lines_append_text {l : Text} (plain : '\n' ∉ l) (last : l.getLast? ≠ some '\r')
    (e : LineEnd) (t : Text) : lines (l ++ (e.text ++ t)) = l :: lines t := by
  cases e with
  | feed =>
    rw [lines, text, List.singleton_append, pieces_append_feed plain, List.map_cons,
      withoutEnd_append_feed, if_neg last]
    rfl
  | returnFeed =>
    have plain' : '\n' ∉ l ++ ['\r'] := by simpa using plain
    have whole : l ++ (text .returnFeed ++ t) = (l ++ ['\r']) ++ '\n' :: t := by simp [text]
    rw [whole, lines, pieces_append_feed plain', List.map_cons, withoutEnd_append_feed,
      if_pos List.getLast?_concat, List.dropLast_concat]
    rfl

/-- Line ends in front of a text are as many empty lines. -/
theorem lines_textOf_append (ends : List LineEnd) (t : Text) :
    lines (textOf ends ++ t) = List.replicate ends.length [] ++ lines t := by
  induction ends with
  | nil => rfl
  | cons e ends ih =>
    have first := lines_append_text List.not_mem_nil nofun e (textOf ends ++ t)
    rw [List.nil_append] at first
    rw [textOf_cons, List.append_assoc, first, ih]
    rfl

theorem lines_textOf (ends : List LineEnd) :
    lines (textOf ends) = List.replicate ends.length [] := by
  have alone := lines_textOf_append ends []
  rwa [show lines [] = [] from rfl, List.append_nil, List.append_nil] at alone

/-- Only the last piece can lack its end: the first line end behind it then ends its line, and all
others are empty lines. -/
theorem Pieced.lines_append_textOf {ps : List Text} (pieced : Pieced ps)
    (open_end : ps.flatten.getLast? ≠ some '\r') (ends : List LineEnd) :
    ∃ n, lines (ps.flatten ++ textOf ends) = lines ps.flatten ++ List.replicate n [] := by
  induction pieced with
  | nil => exact ⟨ends.length, lines_textOf ends⟩
  | @last l plain nonempty =>
    rw [List.flatten_singleton] at open_end ⊢
    have alone : lines l = [l] := by
      rw [lines, pieces_of_plain plain nonempty, List.map_singleton, withoutEnd_of_plain plain]
    cases ends with
    | nil => exact ⟨0, by simp⟩
    | cons e ends =>
      refine ⟨ends.length, ?_⟩
      rw [textOf_cons, lines_append_text plain open_end, lines_textOf, alone]
      rfl
  | @cons l ps plain _ ih =>
    have inner : ps.flatten.getLast? ≠ some '\r' := by
      intro last
      rw [List.flatten_cons, List.getLast?_append, last] at open_end
      exact open_end rfl
    have front (t : Text) : lines (l ++ ['\n'] ++ t) = withoutEnd (l ++ ['\n']) :: lines t := by
      rw [List.append_assoc, List.singleton_append, lines, pieces_append_feed plain]
      rfl
    obtain ⟨n, behind⟩ := ih inner
    refine ⟨n, ?_⟩
    rw [List.flatten_cons, List.append_assoc, front, front, behind]
    rfl

/-- Line ends behind a text add empty lines to its lines. -/
theorem exists_lines_append {t : Text} (open_end : t.getLast? ≠ some '\r')
    (ends : List LineEnd) :
    ∃ n, lines (t ++ textOf ends) = lines t ++ List.replicate n [] := by
  rw [← flatten_pieces t] at open_end ⊢
  exact (pieced_pieces t).lines_append_textOf open_end ends

end Text

namespace Quiz

/-- Empty lines at either edge are left away with those that are there. -/
theorem withoutEdges_padded (j k : Nat) (lines : List Text) :
    withoutEdges (List.replicate j [] ++ (lines ++ List.replicate k [])) = withoutEdges lines := by
  obtain empty | ⟨i, first, rest, rfl, nonempty⟩ := forall_empty_or_exists lines
  · rw [withoutEdges_of_forall_empty empty, withoutEdges_of_forall_empty]
    intro l hl
    obtain hl | hl | hl : l ∈ List.replicate j [] ∨ l ∈ lines ∨ l ∈ List.replicate k [] := by
      simpa only [List.mem_append] using hl
    · exact List.eq_of_mem_replicate hl
    · exact empty l hl
    · exact List.eq_of_mem_replicate hl
  · have last : withoutLastEmpty (rest ++ List.replicate k []) = withoutLastEmpty rest := by
      obtain ⟨⟨m, whole⟩, ends⟩ := withoutLastEmpty_eq_iff.1 (rfl : withoutLastEmpty rest = _)
      refine withoutLastEmpty_eq_iff.2 ⟨⟨m + k, ?_⟩, ends⟩
      conv_lhs => rw [whole, List.append_assoc, List.replicate_append_replicate]
    have padded : List.replicate j [] ++ (List.replicate i [] ++ first :: rest ++
        List.replicate k []) =
          List.replicate (j + i) [] ++ first :: (rest ++ List.replicate k []) := by
      rw [List.append_assoc, List.cons_append, ← List.append_assoc,
        List.replicate_append_replicate]
    rw [padded, withoutEdges_replicate_append nonempty, withoutEdges_replicate_append nonempty, last]

/-- **Padding**: line ends in front of a body and behind it, of either kind and in any number, do not
change what is read from it, unless the body ends with a carriage return. -/
theorem parse_padded {body : Text} (open_end : body.getLast? ≠ some '\r')
    (before after : List LineEnd) :
    parse (textOf before ++ (body ++ textOf after)) = parse body := by
  obtain ⟨n, behind⟩ := Text.exists_lines_append open_end after
  rw [parse, parse, Text.lines_textOf_append, behind, withoutEdges_padded]

/-- A body with an empty line in its content, behind it a line of blanks without an end. -/
def openBody : Text := "question: q\ncontent:\n\n<p>\n "

theorem parse_padded_openBody :
    openBody.getLast? ≠ some '\r' ∧
    parse (textOf [.returnFeed, .feed] ++ (openBody ++ textOf [.returnFeed, .feed, .feed])) =
      parse openBody ∧
    parse openBody = .ok ⟨['q'], [], [[], "<p>", [' ']]⟩ := by
  have open_end : openBody.getLast? ≠ some '\r' := by decide +kernel
  have parsed : parse openBody = .ok ⟨['q'], [], [[], "<p>", [' ']]⟩ := by decide +kernel
  exact ⟨open_end, parse_padded open_end _ _, parsed⟩

/-- A line feed behind a carriage return makes a line end of it. -/
example : parse "question: q\ncontent:\r" = .error .missingContentMarker ∧
    parse "question: q\ncontent:\r\n" = .ok ⟨['q'], [], []⟩ := by
  decide +kernel

end Quiz
end QuizPages
