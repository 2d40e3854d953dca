import Mathlib.Data.List.Chain
import QuizPages.Proofs.Text.Split

/-!
# Splitting at empty lines

Two line feeds in a row end a paragraph. Texts without an empty line that do not end at a line feed come
back from the text in which they are joined by empty lines: `paragraphs_join`.
-/

namespace QuizPages.Text

/-- The pieces between two line feeds in a row, found from left to right; there is always at least
one. -/
def paragraphs : Text → List Text
  | [] => [[]]
  | '\n' :: '\n' :: t => [] :: paragraphs t
  | c :: t =>
    match paragraphs t with
    | [] => [[c]]
    | p :: ps => (c :: p) :: ps

/-- Whether a text stays one paragraph whatever comes behind it: no line feed is followed by another one,
and the last character is none. -/
structure OneParagraph (t : Text) : Prop where
  chain : List.IsChain (fun a b => a = '\n' → b ≠ '\n') t
  last : t.getLast? ≠ some '\n'

namespace OneParagraph

variable {s t : Text}

theorem of_notMem (h : '\n' ∉ t) : OneParagraph t where
  chain := by
    refine List.Pairwise.isChain (List.pairwise_iff_forall_sublist.2 ?_)
    rintro a b sub rfl
    exact absurd (sub.subset List.mem_cons_self) h
  last last := h (List.mem_of_getLast? last)

theorem append (hs : OneParagraph s) (ht : OneParagraph t) : OneParagraph (s ++ t) where
  chain := by
    refine List.isChain_append.2 ⟨hs.chain, ht.chain, ?_⟩
    rintro a last b - rfl
    exact absurd last hs.last
  last := by
    rw [List.getLast?_append]
    intro last
    rcases Option.or_eq_some_iff.1 last with last | ⟨-, last⟩
    · exact ht.last last
    · exact hs.last last

/-- A line feed in front of a character of another kind. -/
theorem cons_feed (other : ∀ c ∈ t.head?, c ≠ '\n') (given : t ≠ []) (ht : OneParagraph t) :
    OneParagraph ('\n' :: t) where
  chain := by
    obtain ⟨c, t, rfl⟩ := List.exists_cons_of_ne_nil given
    exact List.isChain_cons_cons.2 ⟨fun _ => other c rfl, ht.chain⟩
  last := by
    obtain ⟨c, t, rfl⟩ := List.exists_cons_of_ne_nil given
    rw [List.getLast?_cons_cons]
    exact ht.last

end OneParagraph

theorem paragraphs_ne_nil (t : Text) : paragraphs t ≠ [] := by
  unfold paragraphs
  split
  · exact List.cons_ne_nil _ _
  · exact List.cons_ne_nil _ _
  · split <;> exact List.cons_ne_nil _ _

theorem paragraphs_cons {c : Char} {t : Text} (other : c = '\n' → t.head? ≠ some '\n') :
    paragraphs (c :: t) = (paragraphs t).modifyHead (c :: ·) := by
  obtain ⟨p, ps, cut⟩ := List.exists_cons_of_ne_nil (paragraphs_ne_nil t)
  conv => lhs; unfold paragraphs
  split
  · rename_i same
    cases same
  · rename_i same
    obtain ⟨rfl, rfl⟩ := List.cons_eq_cons.1 same
    exact absurd rfl (other rfl)
  · rename_i same
    obtain ⟨rfl, rfl⟩ := List.cons_eq_cons.1 same
    rw [cut]
    rfl

/-- A paragraph belongs to the first piece of what it stands in front of. -/
theorem paragraphs_append {p : Text} (whole : OneParagraph p) (t : Text) :
    paragraphs (p ++ t) = (paragraphs t).modifyHead (p ++ ·) := by
  induction p with
  | nil =>
    rw [List.nil_append]
    cases paragraphs t <;> rfl
  | cons c p ih =>
    have rest : OneParagraph p := by
      cases p with
      | nil => exact ⟨.nil, nofun⟩
      | cons d p => exact ⟨whole.chain.tail, by simpa using whole.last⟩
    have other : c = '\n' → (p ++ t).head? ≠ some '\n' := by
      rintro rfl
      cases p with
      | nil => exact absurd rfl whole.last
      | cons d p =>
        have next := (List.isChain_cons_cons.1 whole.chain).1 rfl
        intro same
        exact next (Option.some.inj same)
    rw [List.cons_append, paragraphs_cons other, ih rest, List.modifyHead_modifyHead]
    rfl

theorem paragraphs_of_oneParagraph {p : Text} (whole : OneParagraph p) : paragraphs p = [p] := by
  have alone := paragraphs_append whole []
  rw [List.append_nil] at alone
  rw [alone]
  show [p ++ []] = [p]
  rw [List.append_nil]

/-- **Paragraphs**: texts joined by empty lines come back, if none of them has one. -/
theorem paragraphs_join {ps : List Text} (nonempty : ps ≠ []) (whole : ∀ p ∈ ps, OneParagraph p) :
    paragraphs (join "\n\n" ps) = ps := by
  induction ps with
  | nil => exact absurd rfl nonempty
  | cons p ps ih =>
    obtain ⟨here, later⟩ := List.forall_mem_cons.1 whole
    cases ps with
    | nil => exact paragraphs_of_oneParagraph here
    | cons q qs =>
      have next := ih (List.cons_ne_nil q qs) later
      have cut : join "\n\n" (p :: q :: qs) = p ++ '\n' :: '\n' :: join "\n\n" (q :: qs) := by
        rw [join, List.append_assoc]
        · rfl
        · exact List.cons_ne_nil q qs
      have first : paragraphs ('\n' :: '\n' :: join "\n\n" (q :: qs)) = [] :: q :: qs := by
        rw [paragraphs, next]
      rw [cut, paragraphs_append here, first]
      show (p ++ []) :: q :: qs = p :: q :: qs
      rw [List.append_nil]

end QuizPages.Text
