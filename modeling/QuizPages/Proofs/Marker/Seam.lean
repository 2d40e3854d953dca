import QuizPages.Marker

/-!
# Markers across the seams of a text

A marker has `<` only at its start and `>` only at its end. Where the left one of two texts ends
with `>`, or the right one starts with `<`, no marker can lie across the place where they meet:
`occurrencesFrom_append` then reads the occurrences in the whole off those in the two parts.
-/

namespace QuizPages.Marker

theorem lt_notMem_tail (m : Marker) : '<' ∉ m.text.tail := by
  cases m <;> decide

theorem gt_notMem_dropLast (m : Marker) : '>' ∉ m.text.dropLast := by
  cases m <;> decide

theorem newline_notMem_text (m : Marker) : '\n' ∉ m.text := by
  cases m <;> decide

theorem question_mem_text (m : Marker) : '?' ∈ m.text := by
  cases m <;> decide

theorem text_ne_nil (m : Marker) : m.text ≠ [] := by
  cases m <;> decide

theorem size_text_pos (m : Marker) : 0 < m.text.size := by
  cases m <;> decide

/-! ## The marker at the start of a text -/

/-- No marker starts with the other one. -/
theorem eq_of_leading {t : Text} {m m' : Marker} (h : m.text <+: t) (h' : m'.text <+: t) :
    m = m' := by
  have shorter : start.text.length ≤ stop.text.length := by decide
  have apart : ¬ start.text <+: stop.text := by decide
  cases m <;> cases m'
  · rfl
  · exact absurd (List.prefix_of_prefix_length_le h h' shorter) apart
  · exact absurd (List.prefix_of_prefix_length_le h' h shorter) apart
  · rfl

theorem leading?_eq_some_iff {t : Text} {m : Marker} : leading? t = some m ↔ m.text <+: t := by
  unfold leading?
  simp only [List.isPrefixOf_iff_prefix]
  constructor
  · intro h
    split at h
    · obtain rfl := Option.some.inj h
      assumption
    · split at h
      · obtain rfl := Option.some.inj h
        assumption
      · cases h
  · intro h
    split
    · rename_i first
      rw [eq_of_leading h first]
    · rename_i first
      cases m with
      | start => exact absurd h first
      | stop => simp [h]

/-! ## Seams -/

/-- No marker lies across the place where `x` and `y` meet. -/
def Apart (x y : Text) : Prop :=
  ∀ (m : Marker) (p q : Text), m.text = p ++ q → p <:+ x → q <+: y → p = [] ∨ q = []

theorem Apart.of_cons {c : Char} {x y : Text} (h : Apart (c :: x) y) : Apart x y :=
  fun m p q e hp hq => h m p q e (hp.trans (List.suffix_cons c x)) hq

/-- Two texts are apart when the right one starts with a character no marker continues with. -/
theorem apart_of_head {c : Char} (h : ∀ m : Marker, c ∉ m.text.tail) (x y : Text) :
    Apart x (c :: y) := by
  intro m p q e _ hq
  cases p with
  | nil => exact .inl rfl
  | cons a p =>
    cases q with
    | nil => exact .inr rfl
    | cons d q =>
      obtain ⟨rfl, -⟩ := List.cons_prefix_cons.1 hq
      refine absurd ?_ (h m)
      simp [e]

/-- Two texts are apart when the left one ends with a character no marker goes on after. -/
theorem apart_of_last {c : Char} (h : ∀ m : Marker, c ∉ m.text.dropLast) (x y : Text) :
    Apart (x ++ [c]) y := by
  intro m p q e hp _
  obtain rfl | ⟨p, rfl, -⟩ := List.suffix_concat_iff.1 hp
  · exact .inl rfl
  · cases q with
    | nil => exact .inr rfl
    | cons d q =>
      refine absurd ?_ (h m)
      rw [e, List.dropLast_append_of_ne_nil (by simp)]
      simp

theorem apart_text_right (m : Marker) (x y : Text) : Apart x (m.text ++ y) := by
  cases m <;> exact apart_of_head lt_notMem_tail x _

theorem apart_text_left (m : Marker) (x y : Text) : Apart (x ++ m.text) y := by
  have ends : m.text = m.text.dropLast ++ ['>'] := by cases m <;> rfl
  rw [ends, ← List.append_assoc]
  exact apart_of_last gt_notMem_dropLast _ y

/-- A text in front of the seam shows its leading marker also with the other text after it. -/
theorem Apart.leading? {c : Char} {x y : Text} (h : Apart (c :: x) y) :
    leading? (c :: (x ++ y)) = leading? (c :: x) := by
  ext m
  simp only [leading?_eq_some_iff]
  constructor
  · rintro ⟨r, hr⟩
    rw [← List.cons_append] at hr
    obtain ⟨s, hs, -⟩ | ⟨q, hq, rfl⟩ := List.append_eq_append_iff.1 hr
    · exact ⟨s, hs.symm⟩
    · obtain hp | rfl := h m _ q hq (List.suffix_refl _) (List.prefix_append q r)
      · cases hp
      · exact ⟨[], by simpa using hq⟩
  · intro hx
    exact hx.trans (List.prefix_append (c :: x) y)

/-- **Seams**: the occurrences in two texts laid end to end. -/
theorem occurrencesFrom_append {x y : Text} (h : Apart x y) (n : Nat) :
    occurrencesFrom n (x ++ y) = occurrencesFrom n x ++ occurrencesFrom (n + x.size) y := by
  induction x generalizing n with
  | nil => simp [occurrencesFrom]
  | cons c x ih =>
    simp only [List.cons_append, occurrencesFrom, h.leading?, ih h.of_cons, Text.size_cons]
    split <;> simp [Nat.add_assoc]

theorem occurrencesFrom_text (m : Marker) (n : Nat) : occurrencesFrom n m.text = [⟨n, m⟩] := by
  cases m <;> rfl

/-- A marker in front of a text is the first occurrence. -/
theorem occurrencesFrom_text_append (m : Marker) (n : Nat) (y : Text) :
    occurrencesFrom n (m.text ++ y) = ⟨n, m⟩ :: occurrencesFrom (n + m.text.size) y := by
  have seam : Apart m.text y := apart_text_left m [] y
  rw [occurrencesFrom_append seam, occurrencesFrom_text]
  rfl

/-! ## Where a marker occurs -/

/-- An occurrence is a place where the text reads as its marker. -/
theorem mem_occurrencesFrom_iff {n : Nat} {t : Text} {o : Occurrence} :
    o ∈ occurrencesFrom n t ↔ ∃ a b, t = a ++ (o.marker.text ++ b) ∧ o.offset = n + a.size := by
  constructor
  · induction t generalizing n with
    | nil => simp [occurrencesFrom]
    | cons c cs ih =>
      intro h
      rcases lead : leading? (c :: cs) with - | m
      · simp only [occurrencesFrom, lead] at h
        obtain ⟨a, b, rfl, ho⟩ := ih h
        exact ⟨c :: a, b, rfl, by simp [ho, Nat.add_assoc]⟩
      · have first := leading?_eq_some_iff.1 lead
        simp only [occurrencesFrom, lead] at h
        obtain rfl | later := List.mem_cons.1 h
        · obtain ⟨b, hb⟩ := first
          exact ⟨[], b, hb.symm, rfl⟩
        · obtain ⟨a, b, rfl, ho⟩ := ih later
          exact ⟨c :: a, b, rfl, by simp [ho, Nat.add_assoc]⟩
  · rintro ⟨a, b, rfl, ho⟩
    rw [occurrencesFrom_append (apart_text_right _ _ _), occurrencesFrom_text_append]
    refine List.mem_append_right _ (List.mem_cons.2 (.inl ?_))
    cases o
    simp_all

theorem offset_of_mem {n : Nat} {t : Text} {o : Occurrence} (h : o ∈ occurrencesFrom n t) :
    n ≤ o.offset ∧ o.offset + o.marker.text.size ≤ n + t.size := by
  obtain ⟨a, b, rfl, ho⟩ := mem_occurrencesFrom_iff.1 h
  simp only [ho, Text.size_append]
  omega

/-- No place is listed twice. -/
theorem pairwise_occurrencesFrom (n : Nat) (t : Text) :
    (occurrencesFrom n t).Pairwise fun a b => a.offset < b.offset := by
  induction t generalizing n with
  | nil => exact List.Pairwise.nil
  | cons c cs ih =>
    rw [occurrencesFrom]
    split
    · refine List.pairwise_cons.2 ⟨fun o ho => ?_, ih _⟩
      have := (offset_of_mem ho).1
      have := c.utf8Size_pos
      simp only
      omega
    · exact ih _

/-- A marker is in a text exactly if it occurs there. -/
theorem infix_iff_mem {m : Marker} {t : Text} (n : Nat) :
    m.text <:+: t ↔ ∃ o ∈ occurrencesFrom n t, o.marker = m := by
  constructor
  · rintro ⟨a, b, rfl⟩
    exact ⟨⟨n + Text.size a, m⟩, mem_occurrencesFrom_iff.2 ⟨a, b, by simp, rfl⟩, rfl⟩
  · rintro ⟨o, ho, rfl⟩
    obtain ⟨a, b, rfl, -⟩ := mem_occurrencesFrom_iff.1 ho
    exact ⟨a, b, by simp⟩

theorem marker_of_mem {m : Marker} {t : Text} (h : ¬ m.text <:+: t) {n : Nat} {o : Occurrence}
    (ho : o ∈ occurrencesFrom n t) : o.marker ≠ m :=
  fun e => h ((infix_iff_mem n).2 ⟨o, ho, e⟩)

theorem infix_append_iff {m : Marker} {x y : Text} (h : Apart x y) :
    m.text <:+: x ++ y ↔ m.text <:+: x ∨ m.text <:+: y := by
  rw [infix_iff_mem 0, infix_iff_mem 0, infix_iff_mem (0 + x.size), occurrencesFrom_append h]
  simp only [List.mem_append, or_and_right, exists_or]

/-- A text without `?` holds no marker. -/
theorem not_infix_of_question {t : Text} (h : '?' ∉ t) (m : Marker) : ¬ m.text <:+: t :=
  fun hm => h (hm.subset (question_mem_text m))

end QuizPages.Marker
