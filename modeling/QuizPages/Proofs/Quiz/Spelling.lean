import Mathlib.Data.List.DropRight
import QuizPages.Proofs.Quiz.Grammar

/-!
# How a quiz is spelled

`Spells` writes the grammar of a body down line by line, the empty lines at both edges included.
A body holds a quiz exactly if its lines spell it, no lines spell two quizzes, and each fault is
told by the lines as well: `parse_iff_spells`.
-/

namespace QuizPages.Quiz

/-- The answers that lines give, from the first line to the last. A line with neither lead gives
none. -/
inductive AnswersOf : List Text → List Answer → Prop where
  | nil : AnswersOf [] []
  | correct {lines : List Text} {as : List Answer} (t : Text) (rest : AnswersOf lines as) :
      AnswersOf ((correctLead ++ t) :: lines) (⟨t, true⟩ :: as)
  | wrong {lines : List Text} {as : List Answer} (t : Text) (rest : AnswersOf lines as) :
      AnswersOf ((answerLead ++ t) :: lines) (⟨t, false⟩ :: as)
  | other {lines : List Text} {as : List Answer} {l : Text} (not_correct : ¬ correctLead <+: l)
      (not_wrong : ¬ answerLead <+: l) (rest : AnswersOf lines as) : AnswersOf (l :: lines) as

/-- Lines that hold a quiz: empty lines, the question, a region with the answers in it, the line
`content:`, the content, and empty lines. The region ends at the first `content:`, and the
content does not end with an empty line. -/
def Spells (lines : List Text) (q : Quiz) : Prop :=
  ∃ k region m,
    lines = List.replicate k [] ++ (questionLead ++ q.question) ::
      (region ++ contentMarker :: (q.contentLines ++ List.replicate m [])) ∧
    contentMarker ∉ region ∧
    AnswersOf region q.answers ∧
    q.contentLines.getLast? ≠ some []

/-! ## Answers -/

/-- The two leads differ within the shorter one, so no line starts with both. -/
theorem not_both_leads {l : Text} (h : correctLead <+: l) : ¬ answerLead <+: l := by
  intro h'
  have shorter : answerLead.length ≤ correctLead.length := by decide
  have apart : ¬ answerLead <+: correctLead := by decide
  exact apart (List.prefix_of_prefix_length_le h' h shorter)

theorem answer?_correct (t : Text) : answer? (correctLead ++ t) = some ⟨t, true⟩ := by
  rw [answer?, Text.after?_append]

theorem answer?_wrong (t : Text) : answer? (answerLead ++ t) = some ⟨t, false⟩ := by
  have missing : Text.after? correctLead (answerLead ++ t) = none :=
    Text.after?_eq_none_iff.2 fun h => not_both_leads h (List.prefix_append answerLead t)
  rw [answer?, missing, Text.after?_append]
  rfl

theorem answer?_other {l : Text} (not_correct : ¬ correctLead <+: l)
    (not_wrong : ¬ answerLead <+: l) : answer? l = none := by
  rw [answer?, Text.after?_eq_none_iff.2 not_correct, Text.after?_eq_none_iff.2 not_wrong]
  rfl

theorem answersOf_iff {lines : List Text} {as : List Answer} :
    AnswersOf lines as ↔ as = lines.filterMap answer? := by
  constructor
  · intro h
    induction h with
    | nil => rfl
    | correct t _ ih => rw [List.filterMap_cons, answer?_correct, ih]
    | wrong t _ ih => rw [List.filterMap_cons, answer?_wrong, ih]
    | other not_correct not_wrong _ ih =>
      rw [List.filterMap_cons, answer?_other not_correct not_wrong, ih]
  · rintro rfl
    induction lines with
    | nil => exact .nil
    | cons l lines ih =>
      by_cases correct : correctLead <+: l
      · obtain ⟨t, rfl⟩ := correct
        rw [List.filterMap_cons, answer?_correct]
        exact .correct t ih
      · by_cases wrong : answerLead <+: l
        · obtain ⟨t, rfl⟩ := wrong
          rw [List.filterMap_cons, answer?_wrong]
          exact .wrong t ih
        · rw [List.filterMap_cons, answer?_other correct wrong]
          exact .other correct wrong ih

/-! ## Empty edges -/

/-- The lines without the empty ones at the end. -/
def withoutLastEmpty (lines : List Text) : List Text := lines.rdropWhile List.isEmpty

theorem getLast?_withoutLastEmpty (lines : List Text) :
    (withoutLastEmpty lines).getLast? ≠ some [] := by
  intro h
  obtain ⟨init, ends⟩ := List.getLast?_eq_some_iff.1 h
  have nonempty : withoutLastEmpty lines ≠ [] := by simp [ends]
  have last : (withoutLastEmpty lines).getLast nonempty = [] := by simp [ends]
  exact List.rdropWhile_last_not List.isEmpty lines nonempty (List.isEmpty_iff.2 last)

theorem exists_eq_withoutLastEmpty_append (lines : List Text) :
    ∃ m, lines = withoutLastEmpty lines ++ List.replicate m [] := by
  let dropped := lines.rtakeWhile List.isEmpty
  have whole : withoutLastEmpty lines ++ dropped = lines :=
    List.rdropWhile_append_rtakeWhile
  have empty : dropped = List.replicate dropped.length [] :=
    List.eq_replicate_of_mem fun l hl => List.isEmpty_iff.1 (List.mem_rtakeWhile_imp hl)
  exact ⟨dropped.length, by rw [← empty, whole]⟩

/-- Empty lines at the end do not count. -/
theorem withoutLastEmpty_append_replicate {lines : List Text} (h : lines.getLast? ≠ some [])
    (m : Nat) : withoutLastEmpty (lines ++ List.replicate m []) = lines := by
  induction m with
  | zero =>
    rw [List.replicate_zero, List.append_nil]
    refine List.rdropWhile_eq_self_iff.2 fun nonempty last => h ?_
    rw [List.getLast?_eq_some_getLast nonempty, List.isEmpty_iff.1 last]
  | succ m ih =>
    rw [List.replicate_succ', ← List.append_assoc, withoutLastEmpty,
      List.rdropWhile_concat_pos _ _ _ rfl]
    exact ih

theorem withoutLastEmpty_cons {first : Text} (h : first ≠ []) (rest : List Text) :
    withoutLastEmpty (first :: rest) = first :: withoutLastEmpty rest := by
  obtain ⟨m, whole⟩ := exists_eq_withoutLastEmpty_append rest
  have last : (first :: withoutLastEmpty rest).getLast? ≠ some [] := by
    have inner := getLast?_withoutLastEmpty rest
    cases kept : withoutLastEmpty rest with
    | nil => simpa using h
    | cons l ls => simpa [kept, List.getLast?_cons_cons] using inner
  -- Only the left side: `whole` would rewrite what is kept as well.
  conv_lhs => rw [whole, ← List.cons_append, withoutLastEmpty_append_replicate last]

/-- Lines are all empty, or there is a first one that is not. -/
theorem forall_empty_or_exists (lines : List Text) :
    (∀ l ∈ lines, l = []) ∨
      ∃ k first rest, lines = List.replicate k [] ++ first :: rest ∧ first ≠ [] := by
  induction lines with
  | nil => exact .inl (by simp)
  | cons l lines ih =>
    by_cases empty : l = []
    · subst empty
      obtain all | ⟨k, first, rest, rfl, nonempty⟩ := ih
      · exact .inl (by simpa using all)
      · exact .inr ⟨k + 1, first, rest, rfl, nonempty⟩
    · exact .inr ⟨0, l, lines, rfl, empty⟩

theorem withoutLastEmpty_eq_iff {lines kept : List Text} :
    withoutLastEmpty lines = kept ↔
      (∃ m, lines = kept ++ List.replicate m []) ∧ kept.getLast? ≠ some [] := by
  constructor
  · rintro rfl
    exact ⟨exists_eq_withoutLastEmpty_append lines, getLast?_withoutLastEmpty lines⟩
  · rintro ⟨⟨m, rfl⟩, last⟩
    exact withoutLastEmpty_append_replicate last m

theorem mem_withoutLastEmpty_iff {l : Text} (h : l ≠ []) {lines : List Text} :
    l ∈ withoutLastEmpty lines ↔ l ∈ lines := by
  obtain ⟨m, whole⟩ := exists_eq_withoutLastEmpty_append lines
  conv_rhs => rw [whole]
  simp [List.mem_replicate, h]

theorem withoutEdges_of_forall_empty {lines : List Text} (h : ∀ l ∈ lines, l = []) :
    withoutEdges lines = [] := by
  have dropped : lines.dropWhile List.isEmpty = [] :=
    List.dropWhile_eq_nil_iff.2 fun l hl => List.isEmpty_iff.2 (h l hl)
  rw [withoutEdges, dropped]
  rfl

theorem dropWhile_replicate_append {first : Text} (h : first ≠ []) (k : Nat) (rest : List Text) :
    (List.replicate k [] ++ first :: rest).dropWhile List.isEmpty = first :: rest := by
  have empty : ∀ l ∈ List.replicate k ([] : Text), l.isEmpty = true := by
    intro l hl
    rw [List.eq_of_mem_replicate hl]
    rfl
  have stops : ¬ first.isEmpty = true := by rwa [List.isEmpty_iff]
  rw [List.dropWhile_append_of_pos empty, List.dropWhile_cons_of_neg stops]

/-- Without their edges lines start with the first one that is not empty. -/
theorem withoutEdges_replicate_append {first : Text} (h : first ≠ []) (k : Nat)
    (rest : List Text) :
    withoutEdges (List.replicate k [] ++ first :: rest) = first :: withoutLastEmpty rest := by
  rw [withoutEdges, dropWhile_replicate_append h]
  exact withoutLastEmpty_cons h rest

theorem withoutEdges_eq_nil_iff {lines : List Text} :
    withoutEdges lines = [] ↔ ∀ l ∈ lines, l = [] := by
  constructor
  · intro h
    obtain empty | ⟨k, first, rest, rfl, nonempty⟩ := forall_empty_or_exists lines
    · exact empty
    · rw [withoutEdges_replicate_append nonempty] at h
      cases h
  · exact withoutEdges_of_forall_empty

/-- **Edges**: what is left when the empty lines at both edges are taken away. -/
theorem withoutEdges_eq_cons_iff {lines kept : List Text} {first : Text} :
    withoutEdges lines = first :: kept ↔
      ∃ k rest, lines = List.replicate k [] ++ first :: rest ∧ first ≠ [] ∧
        withoutLastEmpty rest = kept := by
  constructor
  · intro h
    obtain empty | ⟨k, first', rest, rfl, nonempty⟩ := forall_empty_or_exists lines
    · rw [withoutEdges_of_forall_empty empty] at h
      cases h
    · rw [withoutEdges_replicate_append nonempty] at h
      obtain ⟨rfl, kept_eq⟩ := List.cons_eq_cons.1 h
      exact ⟨k, rest, rfl, nonempty, kept_eq⟩
  · rintro ⟨k, rest, rfl, nonempty, rfl⟩
    exact withoutEdges_replicate_append nonempty k rest

/-! ## What is accepted -/

theorem contentMarker_ne_nil : contentMarker ≠ [] := by
  decide

theorem question_ne_nil (t : Text) : questionLead ++ t ≠ [] := by
  have lead : questionLead ≠ [] := by decide
  exact List.append_ne_nil_of_left_ne_nil lead t

/-- The line `content:` is not empty, so only the content decides how the lines end. -/
theorem getLast?_region_ne_iff (region content : List Text) :
    (region ++ contentMarker :: content).getLast? ≠ some [] ↔ content.getLast? ≠ some [] := by
  rw [List.getLast?_append, List.getLast?_cons]
  cases content.getLast? with
  | none => simpa using contentMarker_ne_nil
  | some l => simp

theorem ofLines_withoutEdges_eq_ok_iff {lines : List Text} {q : Quiz} :
    ofLines (withoutEdges lines) = .ok q ↔ Spells lines q := by
  rw [ofLines_eq_ok_iff]
  constructor
  · rintro ⟨region, kept, free, answers⟩
    obtain ⟨k, rest, rfl, -, kept_rest⟩ := withoutEdges_eq_cons_iff.1 kept
    obtain ⟨⟨m, rfl⟩, last⟩ := withoutLastEmpty_eq_iff.1 kept_rest
    refine ⟨k, region, m, ?_, free, answersOf_iff.2 answers, ?_⟩
    · rw [List.append_assoc, List.cons_append]
    · exact (getLast?_region_ne_iff region q.contentLines).1 last
  · rintro ⟨k, region, m, rfl, free, answers, content_last⟩
    refine ⟨region, withoutEdges_eq_cons_iff.2 ?_, free, answersOf_iff.1 answers⟩
    refine ⟨k, _, rfl, question_ne_nil q.question, withoutLastEmpty_eq_iff.2 ⟨⟨m, ?_⟩, ?_⟩⟩
    · rw [List.append_assoc, List.cons_append]
    · exact (getLast?_region_ne_iff region q.contentLines).2 content_last

/-! ## Faults -/

theorem ofLines_eq_empty_iff {lines : List Text} : ofLines lines = .error .empty ↔ lines = [] := by
  cases lines with
  | nil => simp [ofLines]
  | cons first rest =>
    simp only [ofLines, reduceCtorEq, iff_false]
    split
    · simp
    · split <;> simp

theorem ofLines_eq_missingQuestion_iff {lines : List Text} :
    ofLines lines = .error .missingQuestion ↔
      ∃ first rest, lines = first :: rest ∧ ¬ questionLead <+: first := by
  cases lines with
  | nil => simp [ofLines]
  | cons first rest =>
    simp only [ofLines, ← Text.after?_eq_none_iff]
    split
    · rename_i missing
      simp [missing]
    · rename_i found
      split <;> simp [found]

theorem ofLines_eq_missingContentMarker_iff {lines : List Text} :
    ofLines lines = .error .missingContentMarker ↔
      ∃ question rest, lines = (questionLead ++ question) :: rest ∧ contentMarker ∉ rest := by
  constructor
  · intro h
    rcases lines with - | ⟨first, rest⟩
    · cases h
    · simp only [ofLines] at h
      split at h
      · cases h
      · rename_i question found
        split at h
        · rename_i dropped
          refine ⟨question, rest, ?_, ?_⟩
          · rw [Text.after?_eq_some_iff.1 found]
          · intro inside
            simpa using List.dropWhile_eq_nil_iff.1 dropped _ inside
        · cases h
  · rintro ⟨question, rest, rfl, free⟩
    have dropped : rest.dropWhile (· != contentMarker) = [] :=
      List.dropWhile_eq_nil_iff.2 fun l hl => bne_iff_ne.2 fun e => free (e ▸ hl)
    simp only [ofLines, Text.after?_append, dropped]

theorem ofLines_withoutEdges_eq_missingQuestion_iff {lines : List Text} :
    ofLines (withoutEdges lines) = .error .missingQuestion ↔
      ∃ k first rest, lines = List.replicate k [] ++ first :: rest ∧ first ≠ [] ∧
        ¬ questionLead <+: first := by
  rw [ofLines_eq_missingQuestion_iff]
  constructor
  · rintro ⟨first, kept, h, missing⟩
    obtain ⟨k, rest, whole, nonempty, -⟩ := withoutEdges_eq_cons_iff.1 h
    exact ⟨k, first, rest, whole, nonempty, missing⟩
  · rintro ⟨k, first, rest, whole, nonempty, missing⟩
    exact ⟨first, _, withoutEdges_eq_cons_iff.2 ⟨k, rest, whole, nonempty, rfl⟩, missing⟩

theorem ofLines_withoutEdges_eq_missingContentMarker_iff {lines : List Text} :
    ofLines (withoutEdges lines) = .error .missingContentMarker ↔
      ∃ k question rest, lines = List.replicate k [] ++ (questionLead ++ question) :: rest ∧
        contentMarker ∉ rest := by
  rw [ofLines_eq_missingContentMarker_iff]
  constructor
  · rintro ⟨question, kept, h, free⟩
    obtain ⟨k, rest, whole, -, rfl⟩ := withoutEdges_eq_cons_iff.1 h
    rw [mem_withoutLastEmpty_iff contentMarker_ne_nil] at free
    exact ⟨k, question, rest, whole, free⟩
  · rintro ⟨k, question, rest, whole, free⟩
    rw [← mem_withoutLastEmpty_iff contentMarker_ne_nil] at free
    have kept := withoutEdges_eq_cons_iff.2 ⟨k, rest, whole, question_ne_nil question, rfl⟩
    exact ⟨question, _, kept, free⟩

/-- **Spelling**: a body holds a quiz exactly if its lines spell it, and they spell at most one.
Otherwise all lines are empty, or the first that is not empty is no question, or no line after
the question is `content:`. -/
theorem parse_iff_spells (body : Text) :
    (∀ q, parse body = .ok q ↔ Spells (Text.lines body) q) ∧
    (∀ q q', Spells (Text.lines body) q → Spells (Text.lines body) q' → q = q') ∧
    (parse body = .error .empty ↔ ∀ l ∈ Text.lines body, l = []) ∧
    (parse body = .error .missingQuestion ↔
      ∃ k first rest, Text.lines body = List.replicate k [] ++ first :: rest ∧ first ≠ [] ∧
        ¬ questionLead <+: first) ∧
    (parse body = .error .missingContentMarker ↔
      ∃ k question rest,
        Text.lines body = List.replicate k [] ++ (questionLead ++ question) :: rest ∧
          contentMarker ∉ rest) := by
  have accepts : ∀ q, parse body = .ok q ↔ Spells (Text.lines body) q := fun q =>
    ofLines_withoutEdges_eq_ok_iff
  refine ⟨accepts, ?_, ?_, ?_, ?_⟩
  · intro q q' h h'
    have same : Except.ok q = .ok q' := ((accepts q).2 h).symm.trans ((accepts q').2 h')
    exact Except.ok.inj same
  · rw [parse, ofLines_eq_empty_iff, withoutEdges_eq_nil_iff]
  · rw [parse, ofLines_withoutEdges_eq_missingQuestion_iff]
  · rw [parse, ofLines_withoutEdges_eq_missingContentMarker_iff]

/-- A body with empty edges, a line that gives nothing, and content that looks like other lines. -/
def padded : Text :=
  "\n\r\nquestion: q\r\nnote\nanswer: a\nanswer-correct: b\ncontent:\nanswer: c\n\ncontent:\n\n"

def paddedQuiz : Quiz where
  question := ['q']
  answers := [⟨['a'], false⟩, ⟨['b'], true⟩]
  contentLines := ["answer: c", [], "content:"]

theorem parse_iff_spells_padded :
    parse padded = .ok paddedQuiz ∧ Spells (Text.lines padded) paddedQuiz ∧
      ∀ q, Spells (Text.lines padded) q → q = paddedQuiz := by
  obtain ⟨accepts, unique, -⟩ := parse_iff_spells padded
  have parsed : parse padded = .ok paddedQuiz := by decide +kernel
  have spelled : Spells (Text.lines padded) paddedQuiz := (accepts paddedQuiz).1 parsed
  exact ⟨parsed, spelled, fun q h => unique q paddedQuiz h spelled⟩

/-- The carriage return of a last line without a line feed is part of the line. -/
example : parse "question: q\ncontent:\r" = .error .missingContentMarker := by decide +kernel

end QuizPages.Quiz
