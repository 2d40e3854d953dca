import QuizPages.FrontMatter
import QuizPages.Proofs.Text.Pieces

/-!
# Front matter as a part of its page

Front matter is made of whole lines, and its closing line is found before anything behind it is
looked at. So front matter is split off again whatever text comes behind it, as long as its closing
line keeps its end: `splitFrontMatter_append_iff`.
-/

namespace QuizPages

open Text

theorem append_of_throughClosing? {ls front rest : List Text}
    (h : throughClosing? ls = some (front, rest)) : ls = front ++ rest := by
  induction ls generalizing front with
  | nil => cases h
  | cons l ls ih =>
    rw [throughClosing?] at h
    split at h
    · obtain ⟨rfl, rfl⟩ := Prod.mk.inj (Option.some.inj h)
      rfl
    · obtain ⟨⟨front', rest'⟩, found, same⟩ := Option.map_eq_some_iff.1 h
      obtain ⟨rfl, rfl⟩ := Prod.mk.inj same
      rw [ih found, List.cons_append]

/-- The closing line is found again whatever comes behind it. -/
theorem throughClosing?_append {ls front rest : List Text}
    (h : throughClosing? ls = some (front, rest)) (more : List Text) :
    throughClosing? (front ++ more) = some (front, more) := by
  induction ls generalizing front with
  | nil => cases h
  | cons l ls ih =>
    rw [throughClosing?] at h
    split at h
    · rename_i closes
      obtain ⟨rfl, -⟩ := Prod.mk.inj (Option.some.inj h)
      rw [List.singleton_append, throughClosing?, if_pos closes]
    · rename_i goes_on
      obtain ⟨⟨front', rest'⟩, found, same⟩ := Option.map_eq_some_iff.1 h
      obtain ⟨rfl, rfl⟩ := Prod.mk.inj same
      rw [List.cons_append, throughClosing?, if_neg goes_on, ih found]
      rfl

/-- Front matter and body are the whole text. -/
theorem splitFrontMatter_append (t : Text) : (splitFrontMatter t).1 ++ (splitFrontMatter t).2 = t := by
  unfold splitFrontMatter
  split
  · rfl
  · rename_i first rest cut
    split
    · split
      · rename_i front body found
        have whole := Text.flatten_pieces t
        rw [cut, append_of_throughClosing? found] at whole
        simpa using whole
      · rfl
    · rfl

/-- Front matter is the opening line and the lines through the closing one. -/
theorem exists_lines_of_frontMatter {t front body : Text} (h : splitFrontMatter t = (front, body))
    (present : front ≠ []) :
    ∃ first ls rest, pieces t = first :: (ls ++ rest) ∧ opensFrontMatter first = true ∧
      throughClosing? (ls ++ rest) = some (ls, rest) ∧ front = first ++ ls.flatten ∧
      body = rest.flatten := by
  rw [splitFrontMatter] at h
  rcases cut : pieces t with - | ⟨first, lines⟩
  · rw [cut] at h
    exact absurd (Prod.mk.inj h).1.symm present
  · simp only [cut] at h
    split at h
    · rename_i opens
      split at h
      · rename_i ls rest found
        obtain ⟨rfl, rfl⟩ := Prod.mk.inj h
        obtain rfl := append_of_throughClosing? found
        exact ⟨first, ls, rest, rfl, opens, found, rfl, rfl⟩
      · exact absurd (Prod.mk.inj h).1.symm present
    · exact absurd (Prod.mk.inj h).1.symm present

/-- Front matter whose last line is ended is split off again whatever comes behind it. -/
theorem splitFrontMatter_append_of_ended {t front body : Text}
    (h : splitFrontMatter t = (front, body)) (present : front ≠ [])
    (ended : front.getLast? = some '\n') (more : Text) :
    splitFrontMatter (front ++ more) = (front, more) := by
  obtain ⟨first, ls, rest, cut, opens, found, rfl, -⟩ := exists_lines_of_frontMatter h present
  have pieced : Pieced ((first :: ls) ++ rest) := by
    have := pieced_pieces t
    rwa [cut] at this
  have lines : pieces (first ++ ls.flatten) = first :: ls := pieced.of_append.1.pieces_flatten
  have closing := throughClosing?_append found (pieces more)
  rw [splitFrontMatter, pieces_append ended, lines, List.cons_append]
  simp only [opens, closing, if_true, flatten_pieces]

/-- Front matter whose last line is not ended is the whole text. -/
theorem eq_nil_of_not_ended {t front body : Text} (h : splitFrontMatter t = (front, body))
    (present : front ≠ []) (unended : front.getLast? ≠ some '\n') : body = [] := by
  obtain ⟨first, ls, rest, cut, -, -, rfl, rfl⟩ := exists_lines_of_frontMatter h present
  have pieced : Pieced ((first :: ls) ++ rest) := by
    have := pieced_pieces t
    rwa [cut] at this
  by_cases nonempty : rest = []
  · rw [nonempty]
    rfl
  · exact absurd (pieced.getLast?_flatten (List.cons_ne_nil first ls) nonempty) unended

/-- **Front matter stays front matter**: it is split off again from a text that starts with it
exactly if its last line is ended or nothing comes behind it. -/
theorem splitFrontMatter_append_iff {t front body : Text} (h : splitFrontMatter t = (front, body))
    (present : front ≠ []) (more : Text) :
    (splitFrontMatter (front ++ more)).1 = front ↔ front.getLast? = some '\n' ∨ more = [] := by
  constructor
  · intro again
    by_cases ended : front.getLast? = some '\n'
    · exact .inl ended
    · have whole := splitFrontMatter_append (front ++ more)
      rw [again, List.append_cancel_left_eq] at whole
      have rest := eq_nil_of_not_ended (Prod.ext again rfl) present ended
      exact .inr (whole.symm.trans rest)
  · rintro (ended | rfl)
    · rw [splitFrontMatter_append_of_ended h present ended]
    · by_cases ended : front.getLast? = some '\n'
      · rw [splitFrontMatter_append_of_ended h present ended]
      · have whole := splitFrontMatter_append t
        rw [h, eq_nil_of_not_ended h present ended] at whole
        rw [whole, h]

end QuizPages
