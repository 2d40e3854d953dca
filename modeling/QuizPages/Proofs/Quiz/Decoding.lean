import QuizPages.Proofs.Quiz.Spelling
import QuizPages.Proofs.Text.Pieces

/-!
# Reading a quiz back from its fragment

A fragment is read from the left: each text put in ends at the first character that cannot be in it,
and each stretch of the template tells which one comes next. Where question and answers hold no `<`,
two fragments are the same only for one quiz: `html_determines`.
-/

namespace QuizPages

/-- A character that is in none of two parts ends them at one place. -/
theorem Text.eq_of_append_mark {mark : Char} {x y s t : Text} (hx : mark ∉ x) (hy : mark ∉ y)
    (same : x ++ mark :: s = y ++ mark :: t) : x = y ∧ s = t := by
  induction x generalizing y with
  | nil =>
    cases y with
    | nil => exact ⟨rfl, (List.cons_eq_cons.1 same).2⟩
    | cons c y =>
      obtain ⟨rfl, -⟩ := List.cons_eq_cons.1 same
      exact absurd List.mem_cons_self hy
  | cons c x ih =>
    cases y with
    | nil =>
      obtain ⟨rfl, -⟩ := List.cons_eq_cons.1 same
      exact absurd List.mem_cons_self hx
    | cons d y =>
      obtain ⟨rfl, rest⟩ := List.cons_eq_cons.1 same
      obtain ⟨rfl, rfl⟩ := ih (fun h => hx (List.mem_cons_of_mem c h))
        (fun h => hy (List.mem_cons_of_mem c h)) rest
      exact ⟨rfl, rfl⟩

theorem Text.ofNat_injective : Function.Injective ofNat := by
  intro n m same
  calc
    n = Nat.ofDigitChars 10 (Nat.toDigits 10 n) 0 := Nat.ofDigitChars_ten_toDigits.symm
    _ = Nat.ofDigitChars 10 (Nat.toDigits 10 m) 0 := congrArg (Nat.ofDigitChars 10 · 0) same
    _ = m := Nat.ofDigitChars_ten_toDigits

namespace Text

/-! ## Lines joined by line feeds -/

theorem join_cons_cons (sep l m : Text) (ls : List Text) :
    join sep (l :: m :: ls) = l ++ (sep ++ join sep (m :: ls)) := by
  rw [join, List.append_assoc]
  exact List.cons_ne_nil m ls

/-- One or more lines are told apart by the line feeds between them. -/
theorem join_cons_inj {l l' : Text} {ls ls' : List Text} (plain : ∀ x ∈ l :: ls, '\n' ∉ x)
    (plain' : ∀ x ∈ l' :: ls', '\n' ∉ x)
    (same : join ['\n'] (l :: ls) = join ['\n'] (l' :: ls')) : l :: ls = l' :: ls' := by
  have first := plain l List.mem_cons_self
  have first' := plain' l' List.mem_cons_self
  induction ls generalizing l l' ls' with
  | nil =>
    cases ls' with
    | nil => exact congrArg ([·]) same
    | cons m' ls' =>
      rw [join_cons_cons] at same
      refine absurd ?_ first
      rw [show l = _ from same]
      simp
  | cons m ls ih =>
    cases ls' with
    | nil =>
      rw [join_cons_cons] at same
      refine absurd ?_ first'
      rw [show l' = _ from same.symm]
      simp
    | cons m' ls' =>
      rw [join_cons_cons, join_cons_cons] at same
      obtain ⟨rfl, rest⟩ := eq_of_append_mark first first' same
      have later : ∀ x ∈ m :: ls, '\n' ∉ x := fun x hx => plain x (List.mem_cons_of_mem l hx)
      have later' : ∀ x ∈ m' :: ls', '\n' ∉ x := fun x hx => plain' x (List.mem_cons_of_mem l hx)
      rw [ih later later' rest (later m List.mem_cons_self) (later' m' List.mem_cons_self)]

/-- Only no line at all, or an empty line at the end, makes an empty text. -/
theorem eq_nil_of_join {ls : List Text} (last : ls.getLast? ≠ some [])
    (h : join ['\n'] ls = []) : ls = [] := by
  rcases ls with - | ⟨l, - | ⟨m, ls⟩⟩
  · rfl
  · exact absurd (congrArg some h) last
  · simp [join_cons_cons] at h

/-- **Joined lines**: lines of which the last is not empty are told by the text they make up. -/
theorem join_inj {ls ls' : List Text} (plain : ∀ x ∈ ls, '\n' ∉ x) (plain' : ∀ x ∈ ls', '\n' ∉ x)
    (last : ls.getLast? ≠ some []) (last' : ls'.getLast? ≠ some [])
    (same : join ['\n'] ls = join ['\n'] ls') : ls = ls' := by
  cases ls with
  | nil => exact (eq_nil_of_join last' same.symm).symm
  | cons l ls =>
    cases ls' with
    | nil => exact eq_nil_of_join last same
    | cons l' ls' => exact join_cons_inj plain plain' same

end Text

namespace Quiz

/-! ## The start of an answer -/

/-- What tells a correct answer. -/
def correctFlag (correct : Bool) : Text := String.toList (if correct then " correct" else "")

/-- What is between the type of an input and its value. -/
def valueOpening : Text := " name=\"answer\" value=\""

/-- What is between the value of an input and its identifier. -/
def idOpening : Text := "\" id=\""

/-- What is behind the flag of an input. -/
def labelOpening : Text := "><label for=\""

theorem answerOpening_eq (kind : Text) (id index : Nat) (correct : Bool) :
    answerOpening kind id index correct =
      "<div><input type=\"" ++ (kind ++ '"' :: (valueOpening ++ (Text.ofNat index ++ (idOpening ++
        (inputId id index ++ '"' :: (correctFlag correct ++ (labelOpening ++
          (inputId id index ++ "\">")))))))) := by
  have whole : answerOpening kind id index correct =
      "<div><input type=\"" ++ kind ++ ('"' :: valueOpening) ++ Text.ofNat index ++ idOpening ++
        inputId id index ++ ['"'] ++ correctFlag correct ++ labelOpening ++ inputId id index ++
          "\">" := rfl
  rw [whole]
  simp only [List.append_assoc, List.cons_append, List.nil_append]

theorem inputType_plain (q : Quiz) : '"' ∉ q.inputType := by
  unfold inputType
  split <;> decide

theorem quote_notMem_inputId (id index : Nat) : '"' ∉ inputId id index :=
  notMem_inputId rfl (by decide) id index

/-- An identifier tells the number of the quiz and the index of the answer. -/
theorem inputId_injective2 : Function.Injective2 inputId := by
  intro id id' index index' same
  unfold inputId at same
  rw [List.append_assoc, List.append_assoc] at same
  obtain ⟨ids, indices⟩ := Text.eq_of_append_mark (Text.notMem_ofNat (c := '-') rfl id)
    (Text.notMem_ofNat rfl id') (List.append_cancel_left same)
  exact ⟨Text.ofNat_injective ids, Text.ofNat_injective indices⟩

/-- A flag goes before `>`, so it is told by what comes first. -/
theorem correctFlag_inj {correct correct' : Bool} {x x' : Text}
    (same : correctFlag correct ++ (labelOpening ++ x) =
      correctFlag correct' ++ (labelOpening ++ x')) : correct = correct' ∧ x = x' := by
  have flagged : correctFlag true = ' ' :: "correct".toList := rfl
  have unflagged : correctFlag false = [] := rfl
  have label : labelOpening = '>' :: "<label for=\"".toList := rfl
  cases correct <;> cases correct'
  · exact ⟨rfl, List.append_cancel_left (List.append_cancel_left same)⟩
  · rw [flagged, unflagged, label] at same
    cases same
  · rw [flagged, unflagged, label] at same
    cases same
  · exact ⟨rfl, List.append_cancel_left (List.append_cancel_left same)⟩

/-- The start of an answer tells the quiz and whether the answer is correct. -/
theorem answerOpening_inj {kind kind' : Text} (plain : '"' ∉ kind) (plain' : '"' ∉ kind')
    {id id' index : Nat} {correct correct' : Bool} {x x' : Text}
    (same : answerOpening kind id index correct ++ x =
      answerOpening kind' id' index correct' ++ x') :
    id = id' ∧ correct = correct' ∧ x = x' := by
  rw [answerOpening_eq, answerOpening_eq] at same
  simp only [List.append_assoc, List.cons_append] at same
  obtain ⟨-, behind_kind⟩ := Text.eq_of_append_mark plain plain' (List.append_cancel_left same)
  have behind_value :=
    List.append_cancel_left (List.append_cancel_left (List.append_cancel_left behind_kind))
  obtain ⟨ids, behind_id⟩ := Text.eq_of_append_mark (quote_notMem_inputId id index)
    (quote_notMem_inputId id' index) behind_value
  obtain ⟨flags, behind_flag⟩ := correctFlag_inj behind_id
  rw [ids] at behind_flag
  exact ⟨(inputId_injective2 ids).1, flags,
    List.append_cancel_left (List.append_cancel_left behind_flag)⟩

/-! ## Answers -/

theorem answersHtml_cons (kind : Text) (id index : Nat) (a : Answer) (as : List Answer)
    (x : Text) :
    answersHtml kind id index (a :: as) ++ x = answerOpening kind id index a.correct ++
      (a.text ++ (answerClosing ++ (answersHtml kind id (index + 1) as ++ x))) := by
  have one : answerHtml kind id index a =
    answerOpening kind id index a.correct ++ a.text ++ answerClosing := rfl
  rw [answersHtml, one]
  simp only [List.append_assoc]

/-- An answer starts with another element than what is behind the last one. -/
theorem answersHtml_cons_ne (kind : Text) (id index : Nat) (a : Answer) (as : List Answer)
    (x x' : Text) : answersHtml kind id index (a :: as) ++ x ≠ fieldsClosing ++ x' := by
  have closing : fieldsClosing = '<' :: '/' :: fieldsClosing.drop 2 := rfl
  have first : "<div><input type=\"".toList = '<' :: 'd' :: "iv><input type=\"".toList := rfl
  intro same
  rw [answersHtml_cons, answerOpening_eq, first, closing] at same
  cases same

/-- **Answers**: the answers of a fragment, and the quiz they belong to, are told by it. -/
theorem answersHtml_inj {kind kind' : Text} (quoted : '"' ∉ kind) (quoted' : '"' ∉ kind')
    {id id' index : Nat} {as as' : List Answer} (plain : ∀ a ∈ as, '<' ∉ a.text)
    (plain' : ∀ a ∈ as', '<' ∉ a.text) {x x' : Text}
    (same : answersHtml kind id index as ++ (fieldsClosing ++ x) =
      answersHtml kind' id' index as' ++ (fieldsClosing ++ x')) :
    as = as' ∧ (as ≠ [] → id = id') ∧ x = x' := by
  induction as generalizing index as' with
  | nil =>
    cases as' with
    | nil => exact ⟨rfl, fun h => absurd rfl h, List.append_cancel_left same⟩
    | cons a' as' => exact absurd same.symm (answersHtml_cons_ne kind' id' index a' as' _ x)
  | cons a as ih =>
    cases as' with
    | nil => exact absurd same (answersHtml_cons_ne kind id index a as _ x')
    | cons a' as' =>
      rw [answersHtml_cons, answersHtml_cons] at same
      obtain ⟨ids, flags, behind_opening⟩ := answerOpening_inj quoted quoted' same
      have ends : answerClosing = '<' :: "/label></div>".toList := rfl
      rw [ends] at behind_opening
      obtain ⟨texts, behind_text⟩ := Text.eq_of_append_mark (plain a List.mem_cons_self)
        (plain' a' List.mem_cons_self) behind_opening
      obtain ⟨rest, -, tails⟩ := ih (fun b hb => plain b (List.mem_cons_of_mem a hb))
        (fun b hb => plain' b (List.mem_cons_of_mem a' hb)) (List.append_cancel_left behind_text)
      obtain ⟨text, correct⟩ := a
      obtain ⟨text', correct'⟩ := a'
      obtain rfl : text = text' := texts
      obtain rfl : correct = correct' := flags
      exact ⟨by rw [rest], fun _ => ids, tails⟩

/-! ## Fragments -/

/-- Question and answers hold no `<`. The content may hold any HTML. -/
structure TagFree (q : Quiz) : Prop where
  question : '<' ∉ q.question
  answers : ∀ a ∈ q.answers, '<' ∉ a.text

theorem html_eq_append (q : Quiz) (id : Nat) :
    q.html id = opening ++ (q.question ++ (fieldsOpening ++
      (answersHtml q.inputType id 0 q.answers ++ (fieldsClosing ++ (contentOpening ++
        (q.content ++ closing)))))) := by
  have whole : q.html id = opening ++ q.question ++ fieldsOpening ++
    answersHtml q.inputType id 0 q.answers ++ fieldsClosing ++ contentOpening ++ q.content ++
    closing := rfl
  rw [whole]
  simp only [List.append_assoc]

/-- The content lines of a quiz have no line feed, and the last one is not empty. -/
theorem contentLines_of_parse {body : Text} {q : Quiz} (h : parse body = .ok q) :
    (∀ l ∈ q.contentLines, '\n' ∉ l) ∧ q.contentLines.getLast? ≠ some [] := by
  obtain ⟨k, region, m, lines, -, -, last⟩ := ofLines_withoutEdges_eq_ok_iff.1 h
  refine ⟨fun l hl => ?_, last⟩
  have line : l ∈ Text.lines body := by
    rw [lines]
    simp [hl]
  exact Text.newline_notMem_of_mem_lines line

/-- **Unique reading**: two quizzes with one fragment are the same quiz, and if it has an answer
they have one number. -/
theorem html_determines {body body' : Text} {q q' : Quiz} (parsed : parse body = .ok q)
    (parsed' : parse body' = .ok q') (plain : q.TagFree) (plain' : q'.TagFree) {id id' : Nat}
    (same : q.html id = q'.html id') :
    q.question = q'.question ∧ q.answers = q'.answers ∧ q.contentLines = q'.contentLines ∧
      (q.answers ≠ [] → id = id') := by
  have ends : fieldsOpening = '<' :: "/h3><form><fieldset>".toList := rfl
  rw [html_eq_append, html_eq_append, ends] at same
  obtain ⟨questions, behind_question⟩ := Text.eq_of_append_mark plain.question plain'.question
    (List.append_cancel_left same)
  obtain ⟨answers, ids, behind_answers⟩ := answersHtml_inj q.inputType_plain q'.inputType_plain
    plain.answers plain'.answers (List.append_cancel_left behind_question)
  have contents : q.content = q'.content :=
    List.append_cancel_right (List.append_cancel_left behind_answers)
  obtain ⟨lines, last⟩ := contentLines_of_parse parsed
  obtain ⟨lines', last'⟩ := contentLines_of_parse parsed'
  exact ⟨questions, answers, Text.join_inj lines lines' last last' contents, ids⟩

/-- A quiz with two correct answers of one text, and content with markup and an empty line. -/
def taggedContent : Quiz where
  question := "Which?"
  answers := [⟨"a", true⟩, ⟨"a", true⟩, ⟨"b\"", false⟩]
  contentLines := ["<p>", [], "</section></div>"]

def taggedBody : Text :=
  "question: Which?\nanswer-correct: a\nanswer-correct: a\nanswer: b\"\ncontent:\n" ++
    "<p>\n\n</section></div>"

/-- The same quiz with empty edges, a line that gives nothing, and other line ends. -/
def paddedBody : Text :=
  "\r\nquestion: Which?\nanswer-correct: a\n\nanswer-correct: a\nanswer: b\"\ncontent:\r\n" ++
    "<p>\n\r\n</section></div>\n\n"

theorem html_determines_taggedContent :
    ∃ q q', parse taggedBody = .ok q ∧ parse paddedBody = .ok q' ∧ q.TagFree ∧ q'.TagFree ∧
      q.answers ≠ [] ∧ q.html 12 = q'.html 12 ∧ q.question = q'.question ∧
      q.answers = q'.answers ∧ q.contentLines = q'.contentLines := by
  have parsed : parse taggedBody = .ok taggedContent := by decide +kernel
  have parsed' : parse paddedBody = .ok taggedContent := by decide +kernel
  have plain : taggedContent.TagFree := ⟨by decide +kernel, by decide +kernel⟩
  have same : taggedContent.html 12 = taggedContent.html 12 := rfl
  obtain ⟨questions, answers, lines, -⟩ := html_determines parsed parsed' plain plain same
  exact ⟨taggedContent, taggedContent, parsed, parsed', plain, plain, by decide +kernel, same,
    questions, answers, lines⟩

end Quiz
end QuizPages
