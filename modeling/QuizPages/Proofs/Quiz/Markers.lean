import QuizPages.Proofs.Block.Context
import QuizPages.Proofs.Quiz.Grammar

/-!
# The markers around a fragment

Between two texts a fragment neither makes a marker nor hides one: the markers of the whole are those of the
text in front, of the texts of the quiz and of the text behind, each where its text stands
(`occurrences_around`). A fragment that takes the place of a block holds no end marker, as the body of the
block does not (`markers_around`).
-/

namespace QuizPages

open Marker

/-- A part of a text that is read at an offset. -/
def Text.StandsAt (part : Text) (offset : Nat) (whole : Text) : Prop :=
  ∃ before after, whole = before ++ (part ++ after) ∧ Text.size before = offset

/-- Behind another text, a part stands as far back as that text is long. -/
theorem Text.StandsAt.append_left {part whole : Text} {offset : Nat} (h : part.StandsAt offset whole)
    (t : Text) : part.StandsAt (t.size + offset) (t ++ whole) := by
  obtain ⟨before, after, rfl, rfl⟩ := h
  exact ⟨t ++ before, after, (List.append_assoc t before _).symm, Text.size_append t before⟩

/-- A marker occurs where it is read. -/
theorem Marker.standsAt_iff_mem {m : Marker} {n offset : Nat} {t : Text} :
    m.text.StandsAt offset t ↔ ⟨n + offset, m⟩ ∈ occurrencesFrom n t := by
  rw [mem_occurrencesFrom_iff]
  constructor
  · rintro ⟨before, after, whole, rfl⟩
    exact ⟨before, after, whole, rfl⟩
  · rintro ⟨before, after, whole, same⟩
    exact ⟨before, after, whole, (Nat.add_left_cancel same).symm⟩

/-! ## Where texts are put in -/

namespace Stretch

theorem givenFrom_append (n : Nat) (ss ts : List Stretch) :
    givenFrom n (ss ++ ts) = givenFrom n ss ++ givenFrom (n + (textOf ss).size) ts := by
  induction ss generalizing n with
  | nil => rfl
  | cons s ss ih =>
    cases s with
    | fixed t => simp [givenFrom, ih, Stretch.text, Nat.add_assoc]
    | given t => simp [givenFrom, ih, Stretch.text, Nat.add_assoc]

/-- A text that is put in stands at its offset. -/
theorem exists_standsAt_of_mem {n : Nat} {ss : List Stretch} {g : Nat × Text} (h : g ∈ givenFrom n ss) :
    ∃ offset, g.1 = n + offset ∧ g.2.StandsAt offset (textOf ss) := by
  induction ss generalizing n with
  | nil => cases h
  | cons s ss ih =>
    cases s with
    | fixed t =>
      obtain ⟨offset, place, there⟩ := ih h
      exact ⟨t.size + offset, by omega, there.append_left t⟩
    | given t =>
      rcases List.mem_cons.1 h with rfl | later
      · exact ⟨0, rfl, [], textOf ss, textOf_cons _ ss, rfl⟩
      · obtain ⟨offset, place, there⟩ := ih later
        exact ⟨t.size + offset, by omega, there.append_left t⟩

/-- Texts that are put in come one after another. -/
theorem pairwise_givenFrom (n : Nat) (ss : List Stretch) :
    (givenFrom n ss).Pairwise fun g g' => g.1 + g.2.size ≤ g'.1 := by
  induction ss generalizing n with
  | nil => exact .nil
  | cons s ss ih =>
    cases s with
    | fixed t => exact ih (n + t.size)
    | given t =>
      apply List.Pairwise.cons
      · intro g later
        obtain ⟨offset, place, -⟩ := exists_standsAt_of_mem later
        show n + t.size ≤ g.1
        omega
      · exact ih (n + t.size)

end Stretch

open Stretch

/-! ## A fragment between two texts -/

namespace Quiz

/-- The stretches of a fragment with a text in front and one behind. -/
def around (q : Quiz) (id : Nat) (x y : Text) : List Stretch :=
  .given x :: (q.stretches id ++ [.given y])

theorem textOf_around (q : Quiz) (id : Nat) (x y : Text) :
    textOf (q.around id x y) = x ++ q.html id ++ y := by
  rw [around, textOf_cons, textOf_append, ← html_eq, List.append_assoc]
  simp [Stretch.text]

/-- The text in front of a fragment, the texts of its quiz and the text behind it, each with its offset. -/
def textsAround (q : Quiz) (id : Nat) (x y : Text) : List (Nat × Text) := givenFrom 0 (q.around id x y)

theorem textsAround_eq (q : Quiz) (id : Nat) (x y : Text) :
    q.textsAround id x y =
      (0, x) :: (q.textsFrom id x.size ++ [(x.size + (q.html id).size, y)]) := by
  rw [textsAround, around, givenFrom, givenFrom_append, Nat.zero_add, ← html_eq]
  rfl

theorem textsAround_map_snd (q : Quiz) (id : Nat) (x y : Text) :
    (q.textsAround id x y).map Prod.snd = x :: (q.texts ++ [y]) := by
  rw [textsAround_eq, List.map_cons, List.map_append, textsFrom_map_snd]
  rfl

/-- **Surroundings**: no marker lies across an end of a fragment, of its template or of a text in it. -/
theorem occurrences_around (q : Quiz) (id : Nat) (x y : Text) :
    occurrences (x ++ q.html id ++ y) =
      (q.textsAround id x y).flatMap fun g => occurrencesFrom g.1 g.2 := by
  have behind : Apart (q.html id) y := apart_html_left [] q id y
  rw [occurrences, List.append_assoc, occurrencesFrom_append (apart_html_right x q id y),
    occurrencesFrom_append behind, occurrencesFrom_html, textsAround_eq]
  simp

end Quiz

/-- Parts of a text, each at its offset and one after another, that hold its markers: each marker of the text
is one of a part, and each marker of a part is one of the text. -/
structure HoldMarkers (whole : Text) (parts : List (Nat × Text)) : Prop where
  stands : ∀ g ∈ parts, g.2.StandsAt g.1 whole
  ordered : parts.Pairwise fun g g' => g.1 + g.2.size ≤ g'.1
  markers : ∀ (m : Marker) (offset : Nat), m.text.StandsAt offset whole ↔
    ∃ g ∈ parts, ∃ inside, offset = g.1 + inside ∧ m.text.StandsAt inside g.2

namespace Quiz

theorem holdMarkers_textsAround (q : Quiz) (id : Nat) (x y : Text) :
    HoldMarkers (x ++ q.html id ++ y) (q.textsAround id x y) where
  stands g mem := by
    obtain ⟨offset, place, there⟩ := exists_standsAt_of_mem mem
    rwa [place, Nat.zero_add, ← textOf_around]
  ordered := pairwise_givenFrom 0 _
  markers m offset := by
    have whole : m.text.StandsAt offset (x ++ q.html id ++ y) ↔
        ∃ g ∈ q.textsAround id x y, ⟨offset, m⟩ ∈ occurrencesFrom g.1 g.2 := by
      rw [standsAt_iff_mem (n := 0), Nat.zero_add, ← occurrences, occurrences_around, List.mem_flatMap]
    rw [whole]
    constructor
    · rintro ⟨g, mem, occurs⟩
      obtain ⟨inside, rfl⟩ := Nat.exists_eq_add_of_le (offset_of_mem occurs).1
      exact ⟨g, mem, inside, rfl, standsAt_iff_mem.2 occurs⟩
    · rintro ⟨g, mem, inside, rfl, there⟩
      exact ⟨g, mem, standsAt_iff_mem.1 there⟩

/-- What stands for a block holds no end marker. -/
theorem not_infix_html {document : Text} {b : Block} (found : b ∈ Block.all document) {q : Quiz}
    (h : parse b.body = .ok q) (id : Nat) : ¬ stop.text <:+: q.html id := by
  obtain ⟨parts, tail, cover, all⟩ := Block.exists_cover_all document
  rw [← all] at found
  obtain ⟨part, mem, rfl⟩ := List.mem_map.1 found
  intro inside
  exact cover.body_free part mem (infix_body_of_html h inside)

/-- **Markers of a page**: between any two texts, the markers of a fragment are those of the question, of an
answer or of a content line of its quiz, the texts on both sides keep theirs, and there is no other. A fragment
that stands for a block holds no end marker. -/
theorem markers_around (q : Quiz) (id : Nat) :
    (∀ x y : Text, (q.textsAround id x y).map Prod.snd =
        x :: q.question :: (q.answers.map Answer.text ++ q.contentLines ++ [y]) ∧
      HoldMarkers (x ++ q.html id ++ y) (q.textsAround id x y)) ∧
    ∀ document, ∀ b ∈ Block.all document, parse b.body = .ok q → ¬ stop.text <:+: q.html id := by
  constructor
  · intro x y
    exact ⟨q.textsAround_map_snd id x y, q.holdMarkers_textsAround id x y⟩
  · intro document b found h
    exact not_infix_html found h id

end Quiz
end QuizPages
