import Mathlib.Data.List.Nodup
import QuizPages.Proofs.Quiz.Decoding

/-!
# The fields of a form

A fragment has one field for each answer line of its body, in their order (`Form`). The index and the
number of the quiz make up the identifier of a field, which tells both (`inputId_injective2`); whether
it is correct is read off its own line alone.
-/

namespace QuizPages

/-- One input of a form with its label. -/
structure Field where
  /-- The type of the input. -/
  kind : Text
  index : Nat
  id : Text
  correct : Bool
  /-- The identifier that the label refers to. -/
  labelFor : Text
  text : Text
  deriving DecidableEq

/-- A field as it is written; the attribute `correct` is there or not. -/
def Field.html (f : Field) : Text :=
  "<div><input type=\"" ++ f.kind ++ "\" name=\"answer\" value=\"" ++ Text.ofNat f.index
    ++ "\" id=\"" ++ f.id ++ "\"" ++ (if f.correct then " correct" else "")
    ++ "><label for=\"" ++ f.labelFor ++ "\">" ++ f.text ++ "</label></div>"

namespace Quiz

/-! ## Answer lines -/

/-- Whether a line gives an answer. -/
def isAnswerLine (line : Text) : Bool := correctLead.isPrefixOf line || answerLead.isPrefixOf line

/-- The lines of a body between its question and its `content:`. -/
def region (body : Text) : List Text :=
  (((Text.lines body).dropWhile List.isEmpty).drop 1).takeWhile (· != contentMarker)

/-- The lines of a body that give its answers. -/
def answerLines (body : Text) : List Text := (region body).filter isAnswerLine

example : answerLines "\nquestion: q\nanswer: a\nnote\nanswer-correct: a\ncontent:\nanswer: b" =
    ["answer: a", "answer-correct: a"] := by
  decide +kernel

theorem answers_eq_of_parse {body : Text} {q : Quiz} (h : parse body = .ok q) :
    q.answers = (region body).filterMap answer? := by
  obtain ⟨k, lines, m, whole, free, answers, -⟩ := ofLines_withoutEdges_eq_ok_iff.1 h
  have between : region body = lines := by
    rw [region, whole, dropWhile_replicate_append (question_ne_nil q.question)]
    exact (dropWhile_region free _).1
  rw [between]
  exact answersOf_iff.1 answers

/-- What a line gives, told by its leads. -/
theorem answer?_cases (line : Text) :
    (correctLead <+: line ∧ isAnswerLine line = true ∧
      ∃ t, line = correctLead ++ t ∧ answer? line = some ⟨t, true⟩) ∨
    (¬ correctLead <+: line ∧ isAnswerLine line = true ∧
      ∃ t, line = answerLead ++ t ∧ answer? line = some ⟨t, false⟩) ∨
    (¬ correctLead <+: line ∧ isAnswerLine line = false ∧ answer? line = none) := by
  have decides : isAnswerLine line = true ↔ correctLead <+: line ∨ answerLead <+: line := by
    rw [isAnswerLine, Bool.or_eq_true, List.isPrefixOf_iff_prefix, List.isPrefixOf_iff_prefix]
  by_cases correct : correctLead <+: line
  · obtain ⟨t, rfl⟩ := correct
    exact .inl ⟨List.prefix_append _ t, decides.2 (.inl (List.prefix_append _ t)), t, rfl,
      answer?_correct t⟩
  · by_cases wrong : answerLead <+: line
    · obtain ⟨t, rfl⟩ := wrong
      exact .inr (.inl ⟨correct, decides.2 (.inr (List.prefix_append _ t)), t, rfl,
        answer?_wrong t⟩)
    · have passed : isAnswerLine line = false :=
        Bool.eq_false_iff.2 fun h => (decides.1 h).elim correct wrong
      exact .inr (.inr ⟨correct, passed, answer?_other correct wrong⟩)

/-- Each answer line gives one answer, and no other line gives one. -/
theorem map_answer?_filter (lines : List Text) :
    (lines.filter isAnswerLine).map answer? = (lines.filterMap answer?).map some := by
  induction lines with
  | nil => rfl
  | cons line lines ih =>
    obtain ⟨-, gives, t, -, given⟩ | ⟨-, gives, t, -, given⟩ | ⟨-, passed, none_given⟩ :=
      answer?_cases line
    · rw [List.filter_cons_of_pos gives, List.map_cons, ih, List.filterMap_cons_some given, given]
      rfl
    · rw [List.filter_cons_of_pos gives, List.map_cons, ih, List.filterMap_cons_some given, given]
      rfl
    · rw [List.filter_cons_of_neg (by simp [passed]), ih, List.filterMap_cons_none none_given]

theorem answer?_any_correct (line : Text) :
    (answer? line).any (·.correct) = correctLead.isPrefixOf line := by
  rw [Bool.eq_iff_iff, List.isPrefixOf_iff_prefix]
  obtain ⟨correct, -, t, -, given⟩ | ⟨wrong, -, t, -, given⟩ | ⟨wrong, -, none_given⟩ :=
    answer?_cases line
  · simp [given, correct]
  · simp [given, wrong]
  · simp [none_given, wrong]

/-- The correct answers of a quiz are counted on the lines of its body. -/
theorem correctCount_eq {body : Text} {q : Quiz} (h : parse body = .ok q) :
    q.correctCount = (answerLines body).countP fun line => correctLead.isPrefixOf line := by
  have counted := congrArg (List.countP (Option.any (·.correct))) (map_answer?_filter (region body))
  rw [List.countP_map, List.countP_map, ← answers_eq_of_parse h] at counted
  rw [correctCount, ← List.countP_eq_length_filter]
  calc
    q.answers.countP (·.correct) = q.answers.countP (Option.any (·.correct) ∘ some) := rfl
    _ = (answerLines body).countP (Option.any (·.correct) ∘ answer?) := counted.symm
    _ = _ := List.countP_congr fun line _ => by rw [Function.comp_apply, answer?_any_correct]

/-! ## Fields -/

/-- The field of one answer. -/
def fieldOf (kind : Text) (id index : Nat) (a : Answer) : Field where
  kind := kind
  index := index
  id := inputId id index
  correct := a.correct
  labelFor := inputId id index
  text := a.text

/-- The fields of a quiz with a number, from the first answer to the last. -/
def fields (q : Quiz) (id : Nat) : List Field := q.answers.mapIdx (fieldOf q.inputType id)

theorem answersHtml_eq_flatMap (kind : Text) (id index : Nat) (as : List Answer) :
    answersHtml kind id index as =
      (as.mapIdx fun i a => fieldOf kind id (index + i) a).flatMap Field.html := by
  induction as generalizing index with
  | nil => rfl
  | cons a as ih =>
    have one : answerHtml kind id index a = (fieldOf kind id index a).html := rfl
    rw [answersHtml, ih, one, List.mapIdx_cons, List.flatMap_cons]
    simp only [Nat.add_zero, Nat.add_assoc, Nat.add_comm 1]

theorem id_of_mem_fields {q : Quiz} {id : Nat} {f : Field} (h : f ∈ q.fields id) :
    ∃ index, f.id = inputId id index := by
  obtain ⟨index, a, -, rfl⟩ := List.mem_mapIdx.1 h
  exact ⟨index, rfl⟩

theorem nodup_fields (q : Quiz) (id : Nat) : ((q.fields id).map Field.id).Nodup := by
  have ids : (q.fields id).map Field.id = (List.range q.answers.length).map (inputId id) := by
    refine List.ext_getElem (by simp [fields]) fun i _ _ => ?_
    simp [fields, fieldOf]
  rw [ids]
  exact List.Nodup.map (inputId_injective2.right id) List.nodup_range

/-- What the field with an index tells about its line. -/
structure StandsFor (id index : Nat) (line : Text) (f : Field) : Prop where
  index_eq : f.index = index
  id_eq : f.id = inputId id index
  /-- The label refers to the input that it stands beside. -/
  labelFor_eq : f.labelFor = f.id
  correct_iff : f.correct = true ↔ correctLead <+: line
  line_eq : line = (if f.correct then correctLead else answerLead) ++ f.text

/-- A fragment with the fields in it: one for each answer line of the body, in their order, and all
of one kind. -/
structure Form (body : Text) (id : Nat) (output : Text) (fields : List Field) : Prop where
  written : ∃ q, parse body = .ok q ∧
    output = opening ++ (q.question ++ (fieldsOpening ++ (fields.flatMap Field.html ++
      (fieldsClosing ++ (contentOpening ++ (q.content ++ closing))))))
  length_eq : fields.length = (answerLines body).length
  stands : ∀ i line, (answerLines body)[i]? = some line →
    ∃ f, fields[i]? = some f ∧ StandsFor id i line f
  /-- Several inputs may be picked exactly if more than one line gives a correct answer. -/
  kind_eq : ∀ f ∈ fields, f.kind =
    (if 1 < (answerLines body).countP (fun line => correctLead.isPrefixOf line) then "checkbox"
      else "radio" : Text)

theorem standsFor_fieldOf {line : Text} {a : Answer} (given : answer? line = some a) (kind : Text)
    (id index : Nat) : StandsFor id index line (fieldOf kind id index a) := by
  obtain ⟨correct, -, t, whole, found⟩ | ⟨wrong, -, t, whole, found⟩ | ⟨-, -, none_found⟩ :=
    answer?_cases line
  · obtain rfl := Option.some.inj (given.symm.trans found)
    exact ⟨rfl, rfl, rfl, by simpa [fieldOf] using correct, whole⟩
  · obtain rfl := Option.some.inj (given.symm.trans found)
    exact ⟨rfl, rfl, rfl, by simpa [fieldOf] using wrong, whole⟩
  · rw [none_found] at given
    cases given

/-- The fragment of a quiz is a form of its fields. -/
theorem form_of_parse {body : Text} {q : Quiz} (h : parse body = .ok q) (id : Nat) :
    Form body id (q.html id) (q.fields id) := by
  have answers : (answerLines body).map answer? = q.answers.map some := by
    rw [answers_eq_of_parse h]
    exact map_answer?_filter (region body)
  refine ⟨⟨q, h, ?_⟩, ?_, ?_, ?_⟩
  · have inside := answersHtml_eq_flatMap q.inputType id 0 q.answers
    simp only [Nat.zero_add] at inside
    rw [html_eq_append, inside]
    rfl
  · have lengths := congrArg List.length answers
    rw [List.length_map, List.length_map] at lengths
    rw [fields, List.length_mapIdx, lengths]
  · intro i line found
    have answer := congrArg (·[i]?) answers
    simp only [List.getElem?_map, found, Option.map_some] at answer
    obtain ⟨a, at_i, given⟩ := Option.map_eq_some_iff.1 answer.symm
    refine ⟨fieldOf q.inputType id i a, ?_, standsFor_fieldOf given.symm q.inputType id i⟩
    rw [fields, List.getElem?_mapIdx, at_i]
    rfl
  · intro f hf
    obtain ⟨i, a, -, rfl⟩ := List.mem_mapIdx.1 hf
    rw [← correctCount_eq h]
    exact if_congr decide_eq_true_iff rfl rfl

end Quiz
end QuizPages
