import Mathlib.Data.List.Induction
import QuizPages.Proofs.Page.FrontMatter

/-!
# The delimiters of front matter

A page is split by looking at its lines from the first one on, up to the line that closes front matter. The
text between the delimiters is cut out of the front matter later on, by looking for line feeds from both ends.
Both are told by one cut of the page (`Delimited`), and there is front matter exactly if the page has such a
cut: `frontMatter_delimited`.
-/

namespace QuizPages

open Text

theorem opensFrontMatter_iff {l : Text} : opensFrontMatter l = true ↔ l.trimEnd = "---".toList :=
  beq_iff_eq

theorem closesFrontMatter_iff {l : Text} :
    closesFrontMatter l = true ↔ l.trimEnd = "---".toList ∨ l.trimEnd = "...".toList := by
  rw [closesFrontMatter, Bool.or_eq_true, beq_iff_eq, beq_iff_eq]

/-- A text cut at the delimiters of front matter. Its first line opens front matter, and of the later
lines `closing` is the first that closes it, `between` being those in front of it and `rest` those
behind. White space at the ends of lines does not count. -/
structure Delimited (t first : Text) (between : List Text) (closing : Text) (rest : List Text) :
    Prop where
  lines : pieces t = first :: (between ++ closing :: rest)
  opens : first.trimEnd = "---".toList
  closes : closing.trimEnd = "---".toList ∨ closing.trimEnd = "...".toList
  goesOn : ∀ l ∈ between, l.trimEnd ≠ "---".toList ∧ l.trimEnd ≠ "...".toList

/-! ## The split -/

/-- The first line that closes front matter is the one that is found. -/
theorem throughClosing?_of_first {between : List Text} {closing : Text}
    (goesOn : ∀ l ∈ between, closesFrontMatter l = false) (closes : closesFrontMatter closing = true)
    (rest : List Text) :
    throughClosing? (between ++ closing :: rest) = some (between ++ [closing], rest) := by
  induction between with
  | nil => rw [List.nil_append, throughClosing?, if_pos closes, List.nil_append]
  | cons l between ih =>
    obtain ⟨here, later⟩ := List.forall_mem_cons.1 goesOn
    rw [List.cons_append, throughClosing?, here, if_neg Bool.false_ne_true, ih later]
    rfl

theorem throughClosing?_eq_none {ls : List Text} (h : ∀ l ∈ ls, closesFrontMatter l = false) :
    throughClosing? ls = none := by
  induction ls with
  | nil => rfl
  | cons l ls ih =>
    obtain ⟨here, later⟩ := List.forall_mem_cons.1 h
    rw [throughClosing?, here, if_neg Bool.false_ne_true, ih later]
    rfl

namespace Delimited

variable {t first closing : Text} {between rest : List Text}

theorem first_ne_nil (h : Delimited t first between closing rest) : first ≠ [] := by
  rintro rfl
  exact absurd h.opens (by decide)

theorem closing_ne_nil (h : Delimited t first between closing rest) : closing ≠ [] := by
  rintro rfl
  exact absurd h.closes (by decide)

theorem not_closes_of_mem (h : Delimited t first between closing rest) {l : Text} (mem : l ∈ between) :
    closesFrontMatter l = false := by
  rw [Bool.eq_false_iff, Ne, closesFrontMatter_iff, not_or]
  exact h.goesOn l mem

/-- The page splits behind its closing line. -/
theorem splitFrontMatter_eq (h : Delimited t first between closing rest) :
    splitFrontMatter t = (first ++ between.flatten ++ closing, rest.flatten) := by
  have found := throughClosing?_of_first (fun l => h.not_closes_of_mem)
    (closesFrontMatter_iff.2 h.closes) rest
  rw [splitFrontMatter, h.lines]
  simp only [opensFrontMatter_iff.2 h.opens, found, if_true]
  simp

theorem pieced (h : Delimited t first between closing rest) :
    Pieced (first :: (between ++ closing :: rest)) :=
  h.lines ▸ pieced_pieces t

theorem pieced_later (h : Delimited t first between closing rest) :
    Pieced (between ++ closing :: rest) := by
  have lines : Pieced ([first] ++ (between ++ closing :: rest)) := h.pieced
  exact lines.of_append.2

end Delimited

/-! ## Between the delimiters -/

theorem withoutLastFeed_concat (s : Text) (c : Char) :
    withoutLastFeed (s ++ [c]) = if c = '\n' then s else s ++ [c] := by
  induction s with
  | nil => rfl
  | cons d s ih =>
    rw [List.cons_append, withoutLastFeed, ih]
    · split <;> rfl
    · simp

theorem throughLastFeed_concat (s : Text) (c : Char) :
    throughLastFeed (s ++ [c]) = if c = '\n' then s ++ [c] else throughLastFeed s := by
  by_cases feed : c = '\n' <;> simp [throughLastFeed, feed]

theorem afterFirstFeed_append {l : Text} (plain : '\n' ∉ l) (t : Text) :
    afterFirstFeed (l ++ '\n' :: t) = t := by
  induction l with
  | nil => rfl
  | cons c l ih =>
    obtain ⟨other, plain⟩ : '\n' ≠ c ∧ '\n' ∉ l := by simpa using plain
    rw [List.cons_append, afterFirstFeed, if_neg (Ne.symm other), ih plain]

/-- A line at the end, with its line feed or without, is left away. -/
theorem throughLastFeed_append {l : Text} (plain : '\n' ∉ l) (t : Text) :
    throughLastFeed (t ++ l) = throughLastFeed t := by
  induction l using List.reverseRecOn with
  | nil => rw [List.append_nil]
  | append_singleton l c ih =>
    obtain ⟨plain, other⟩ : '\n' ∉ l ∧ '\n' ≠ c := by simpa using plain
    rw [← List.append_assoc, throughLastFeed_concat, if_neg (Ne.symm other), ih plain]

theorem throughLastFeed_of_ended {t : Text} (ended : t = [] ∨ t.getLast? = some '\n') :
    throughLastFeed t = t := by
  rcases ended with rfl | last
  · rfl
  · obtain ⟨s, rfl⟩ := List.getLast?_eq_some_iff.1 last
    rw [throughLastFeed_concat, if_pos rfl]

theorem withoutLastFeed_of_plain {l : Text} (plain : '\n' ∉ l) (nonempty : l ≠ []) (t : Text) :
    withoutLastFeed (t ++ l) = t ++ l := by
  induction l using List.reverseRecOn with
  | nil => exact absurd rfl nonempty
  | append_singleton s c _ =>
    have other : c ≠ '\n' := fun feed => plain (by simp [feed])
    rw [← List.append_assoc, withoutLastFeed_concat, if_neg other]

/-- Whole lines in front of a line are what is through the last line feed, if the feed of that line is
left away. -/
theorem throughLastFeed_withoutLastFeed {t closing : Text} {ls : List Text}
    (ended : t = [] ∨ t.getLast? = some '\n') (piece : Pieced (closing :: ls)) (nonempty : closing ≠ []) :
    throughLastFeed (withoutLastFeed (t ++ closing)) = t := by
  obtain ⟨l, plain, rfl | rfl⟩ := piece.exists_line_of_mem List.mem_cons_self
  · rw [withoutLastFeed_of_plain plain nonempty, throughLastFeed_append plain,
      throughLastFeed_of_ended ended]
  · rw [← List.append_assoc, withoutLastFeed_concat, if_pos rfl, throughLastFeed_append plain,
      throughLastFeed_of_ended ended]

namespace Delimited

variable {t first closing : Text} {between rest : List Text}

/-- Each line in front of the closing one has its line feed. -/
theorem between_ended (h : Delimited t first between closing rest) :
    between.flatten = [] ∨ between.flatten.getLast? = some '\n' := by
  by_cases none : between = []
  · left
    rw [none, List.flatten_nil]
  · exact .inr (h.pieced_later.getLast?_flatten none (List.cons_ne_nil closing rest))

theorem exists_first_eq (h : Delimited t first between closing rest) :
    ∃ l, '\n' ∉ l ∧ first = l ++ ['\n'] := by
  have lines := h.pieced
  generalize later : between ++ closing :: rest = ls at lines
  cases lines with
  | last => exact absurd later (List.append_ne_nil_of_right_ne_nil between (List.cons_ne_nil _ _))
  | @cons l _ plain _ => exact ⟨l, plain, rfl⟩

theorem pieces_between (h : Delimited t first between closing rest) :
    pieces between.flatten = between :=
  h.pieced_later.of_append.1.pieces_flatten

/-- Cutting front matter from both ends by its line feeds gives the lines between its delimiters. -/
theorem frontMatterBody_eq (h : Delimited t first between closing rest) :
    frontMatterBody (splitFrontMatter t).1 = between.flatten := by
  obtain ⟨l, plain, opening⟩ := h.exists_first_eq
  have front : (splitFrontMatter t).1 = l ++ '\n' :: (between.flatten ++ closing) := by
    rw [h.splitFrontMatter_eq, opening]
    simp
  rw [frontMatterBody, front, afterFirstFeed_append plain,
    throughLastFeed_withoutLastFeed h.between_ended h.pieced_later.of_append.2 h.closing_ne_nil]

end Delimited

/-! ## The whole page -/

theorem Delimited.frontMatter_ne_nil {t first closing : Text} {between rest : List Text}
    (h : Delimited t first between closing rest) : (splitFrontMatter t).1 ≠ [] := by
  rw [h.splitFrontMatter_eq, List.append_assoc]
  exact List.append_ne_nil_of_left_ne_nil h.first_ne_nil _

/-- The first of the later lines that closes front matter cuts the page. -/
theorem exists_delimited {t first : Text} {later : List Text} (lines : pieces t = first :: later)
    (opens : opensFrontMatter first = true) {l : Text} (mem : l ∈ later)
    (closes : closesFrontMatter l = true) :
    ∃ between closing rest, Delimited t first between closing rest := by
  rcases found : later.find? closesFrontMatter with - | closing
  · exact absurd closes (List.find?_eq_none.1 found l mem)
  · obtain ⟨closes, between, rest, rfl, goesOn⟩ := List.find?_eq_some_iff_append.1 found
    refine ⟨between, closing, rest, lines, opensFrontMatter_iff.1 opens,
      closesFrontMatter_iff.1 closes, fun l mem => ?_⟩
    have stays := goesOn l mem
    rw [Bool.not_eq_true', Bool.eq_false_iff, Ne, closesFrontMatter_iff, not_or] at stays
    exact stays

/-- Front matter is there because the page is cut by its delimiters. -/
theorem exists_delimited_of_frontMatter {t : Text} (present : (splitFrontMatter t).1 ≠ []) :
    ∃ first between closing rest, Delimited t first between closing rest := by
  obtain ⟨first, ls, rest, lines, opens, found, -, -⟩ := exists_lines_of_frontMatter rfl present
  by_contra undelimited
  have goesOn : ∀ l ∈ ls ++ rest, closesFrontMatter l = false := by
    intro l mem
    rw [Bool.eq_false_iff]
    exact fun closes => undelimited ⟨first, exists_delimited lines opens mem closes⟩
  rw [throughClosing?_eq_none goesOn] at found
  cases found

/-- There is no front matter exactly if the first line does not open it or no later line closes it. -/
theorem splitFrontMatter_eq_nil_iff {t : Text} :
    (splitFrontMatter t).1 = [] ↔ ∀ first later, pieces t = first :: later →
      first.trimEnd ≠ "---".toList ∨
        ∀ l ∈ later, l.trimEnd ≠ "---".toList ∧ l.trimEnd ≠ "...".toList := by
  constructor
  · intro none first later lines
    rw [or_iff_not_imp_left, not_not]
    intro opens l mem
    rw [← not_or, ← closesFrontMatter_iff]
    intro closes
    obtain ⟨between, closing, rest, h⟩ := exists_delimited lines (opensFrontMatter_iff.2 opens) mem closes
    exact h.frontMatter_ne_nil none
  · intro undelimited
    by_contra present
    obtain ⟨first, between, closing, rest, h⟩ := exists_delimited_of_frontMatter present
    rcases undelimited first (between ++ closing :: rest) h.lines with other | goesOn
    · exact other h.opens
    · obtain ⟨dashes, dots⟩ := goesOn closing (by simp)
      exact h.closes.elim dashes dots

/-- **Front matter**: it is there exactly if the page is cut by its delimiters. It then goes from the
first line through the closing one, and what is read between its delimiters is the lines between them,
as they stand. There is none if the first line does not open it or no later line closes it. -/
theorem frontMatter_delimited (t : Text) :
    let front := (splitFrontMatter t).1
    let body := (splitFrontMatter t).2
    front ++ body = t ∧
    (front ≠ [] ↔ ∃ first between closing rest, Delimited t first between closing rest) ∧
    (∀ first between closing rest, Delimited t first between closing rest →
      front = first ++ between.flatten ++ closing ∧ body = rest.flatten ∧
      frontMatterBody front = between.flatten ∧ pieces between.flatten = between) ∧
    (front = [] ↔ ∀ first later, pieces t = first :: later →
      first.trimEnd ≠ "---".toList ∨
        ∀ l ∈ later, l.trimEnd ≠ "---".toList ∧ l.trimEnd ≠ "...".toList) := by
  refine ⟨splitFrontMatter_append t, ⟨exists_delimited_of_frontMatter, ?_⟩, ?_,
    splitFrontMatter_eq_nil_iff⟩
  · rintro ⟨first, between, closing, rest, h⟩
    exact h.frontMatter_ne_nil
  · intro first between closing rest h
    obtain ⟨front_eq, body_eq⟩ := Prod.mk.inj h.splitFrontMatter_eq
    exact ⟨front_eq, body_eq, h.frontMatterBody_eq, h.pieces_between⟩

/-- Front matter with other line ends, white space behind its delimiters, an indented delimiter, a blank
line in front of the closing line, and no line feed at the end. -/
def paddedPage : Text := "---\u00a0\r\n ---\r\ntitle: T\n\n...\t"

theorem frontMatter_delimited_paddedPage :
    Delimited paddedPage "---\u00a0\r\n" [" ---\r\n".toList, "title: T\n".toList, "\n".toList] "...\t" [] ∧
    (splitFrontMatter paddedPage).1 = paddedPage ∧
    frontMatterBody (splitFrontMatter paddedPage).1 = " ---\r\ntitle: T\n\n".toList := by
  have delimited : Delimited paddedPage "---\u00a0\r\n"
      [" ---\r\n".toList, "title: T\n".toList, "\n".toList] "...\t" [] :=
    ⟨by decide, by decide, by decide, by decide⟩
  obtain ⟨front, -, body, -⟩ := (frontMatter_delimited paddedPage).2.2.1 _ _ _ _ delimited
  exact ⟨delimited, front, body⟩

end QuizPages
