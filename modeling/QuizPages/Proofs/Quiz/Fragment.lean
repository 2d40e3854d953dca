import QuizPages.Proofs.Marker.Seam
import QuizPages.Quiz.Html

/-!
# The stretches of a fragment

A fragment is a template with the texts of a quiz put in (`html_eq`). Every stretch of the
template starts and ends with a character that no marker goes on across, and holds no `?`. So the
markers of a fragment are those of the texts put in: `occurrencesFrom_html`.
-/

namespace QuizPages

open Marker

/-- One stretch of a fragment: of the template, or put in from the quiz. -/
inductive Stretch where
  | fixed (t : Text)
  | given (t : Text)

namespace Stretch

def text : Stretch → Text
  | fixed t => t
  | given t => t

/-- Stretches laid end to end. -/
def textOf (ss : List Stretch) : Text := ss.flatMap text

@[simp] theorem textOf_nil : textOf [] = [] := rfl

@[simp] theorem textOf_cons (s : Stretch) (ss : List Stretch) :
    textOf (s :: ss) = s.text ++ textOf ss := by
  simp [textOf]

@[simp] theorem textOf_append (ss ts : List Stretch) :
    textOf (ss ++ ts) = textOf ss ++ textOf ts := by
  simp [textOf]

/-- The texts put in, each with its offset, when the first stretch is at `n`. -/
def givenFrom : Nat → List Stretch → List (Nat × Text)
  | _, [] => []
  | n, fixed t :: later => givenFrom (n + t.size) later
  | n, given t :: later => (n, t) :: givenFrom (n + t.size) later

/-- The text put in, if the stretch is one. -/
def given? : Stretch → Option Text
  | fixed _ => none
  | given t => some t

@[simp] theorem filterMap_given?_fixed (t : Text) (ss : List Stretch) :
    (fixed t :: ss).filterMap given? = ss.filterMap given? := rfl

@[simp] theorem filterMap_given?_given (t : Text) (ss : List Stretch) :
    (given t :: ss).filterMap given? = t :: ss.filterMap given? := rfl

theorem givenFrom_map_snd (n : Nat) (ss : List Stretch) :
    (givenFrom n ss).map Prod.snd = ss.filterMap given? := by
  induction ss generalizing n with
  | nil => rfl
  | cons s later ih => cases s <;> simp [givenFrom, ih]

/-- No marker lies in the text or across one of its ends. -/
structure Shut (t : Text) : Prop where
  head : t.head? = some '<' ∨ t.head? = some '\n'
  last : t.getLast? = some '>' ∨ t.getLast? = some '\n'
  plain : '?' ∉ t

variable {t : Text} (shut : Shut t)
include shut

theorem Shut.apart_right (x y : Text) : Apart x (t ++ y) := by
  obtain ⟨head, -, -⟩ := shut
  cases t with
  | nil => simp at head
  | cons c t =>
    obtain rfl | rfl := by simpa using head
    · exact apart_of_head lt_notMem_tail x _
    · exact apart_of_head (fun m h => newline_notMem_text m (List.mem_of_mem_tail h)) x _

theorem Shut.apart_left (x y : Text) : Apart (x ++ t) y := by
  rcases shut.last with last | last <;> obtain ⟨init, rfl⟩ := List.getLast?_eq_some_iff.1 last <;>
    rw [← List.append_assoc]
  · exact apart_of_last gt_notMem_dropLast _ y
  · exact apart_of_last (fun m h => newline_notMem_text m (List.dropLast_subset _ h)) _ y

theorem Shut.occurrencesFrom_append (n : Nat) (y : Text) :
    occurrencesFrom n (t ++ y) = occurrencesFrom (n + t.size) y := by
  have none_inside : occurrencesFrom n t = [] := by
    refine List.eq_nil_iff_forall_not_mem.2 fun o ho => ?_
    exact not_infix_of_question shut.plain o.marker ((infix_iff_mem n).2 ⟨o, ho, rfl⟩)
  have seam : Apart t y := shut.apart_left [] y
  rw [Marker.occurrencesFrom_append seam, none_inside, List.nil_append]

end Stretch

open Stretch

/-- Every text put in has a stretch of the template behind it, and all of the template is shut. -/
inductive Framed : List Stretch → Prop where
  | nil : Framed []
  | fixed {t : Text} {later : List Stretch} (shut : Shut t) (rest : Framed later) :
      Framed (.fixed t :: later)
  | given {u t : Text} {later : List Stretch} (shut : Shut t) (rest : Framed later) :
      Framed (.given u :: .fixed t :: later)

namespace Framed

theorem append {ss ts : List Stretch} (hs : Framed ss) (ht : Framed ts) : Framed (ss ++ ts) := by
  induction hs with
  | nil => exact ht
  | fixed shut _ ih => exact .fixed shut ih
  | given shut _ ih => exact .given shut ih

/-- The markers of framed stretches are those of the texts put in. -/
theorem occurrencesFrom_textOf {ss : List Stretch} (h : Framed ss) (n : Nat) :
    occurrencesFrom n (textOf ss) = (givenFrom n ss).flatMap fun g => occurrencesFrom g.1 g.2 := by
  induction h generalizing n with
  | nil => rfl
  | fixed shut _ ih =>
    rw [textOf_cons, Stretch.text, shut.occurrencesFrom_append, ih]
    rfl
  | given shut _ ih =>
    rw [textOf_cons, textOf_cons, Stretch.text, Stretch.text,
      Marker.occurrencesFrom_append (shut.apart_right _ _), shut.occurrencesFrom_append, ih]
    simp [givenFrom]

end Framed

namespace Quiz

/-! ## The template -/

/-- What is in front of the question. -/
def opening : Text := "<div class=\"quiz\"><h3>"

/-- What is between the question and the answers. -/
def fieldsOpening : Text := "</h3><form><fieldset>"

/-- What is in front of an answer. -/
def answerOpening (kind : Text) (id index : Nat) (correct : Bool) : Text :=
  "<div><input type=\"" ++ kind ++ "\" name=\"answer\" value=\"" ++ Text.ofNat index
    ++ "\" id=\"" ++ inputId id index ++ "\"" ++ (if correct then " correct" else "")
    ++ "><label for=\"" ++ inputId id index ++ "\">"

/-- What is behind an answer. -/
def answerClosing : Text := "</label></div>"

/-- What is behind the answers. -/
def fieldsClosing : Text :=
  "</fieldset><button type=\"submit\" class=\"quiz-button\">Submit</button></form>"

/-- What is in front of the content. -/
def contentOpening : Text := "<section class=\"content hidden\">"

/-- What is behind the content. -/
def closing : Text := "</section></div>"

/-- The stretches of answers from one index on. -/
def answerStretches (kind : Text) (id : Nat) : Nat → List Answer → List Stretch
  | _, [] => []
  | index, a :: rest =>
    .fixed (answerOpening kind id index a.correct) :: .given a.text :: .fixed answerClosing ::
      answerStretches kind id (index + 1) rest

/-- The stretches of lines with a line feed between neighbours. -/
def lineStretches : List Text → List Stretch
  | [] => []
  | [l] => [.given l]
  | l :: ls => .given l :: .fixed ['\n'] :: lineStretches ls

/-- The stretches of the fragment that stands for a quiz. -/
def stretches (q : Quiz) (id : Nat) : List Stretch :=
  .fixed opening :: .given q.question :: .fixed fieldsOpening ::
    (answerStretches q.inputType id 0 q.answers ++ .fixed fieldsClosing :: .fixed contentOpening ::
      (lineStretches q.contentLines ++ [.fixed closing]))

/-- The texts of a quiz in the order in which its fragment has them. -/
def texts (q : Quiz) : List Text := q.question :: (q.answers.map Answer.text ++ q.contentLines)

theorem answersHtml_eq (kind : Text) (id index : Nat) (as : List Answer) :
    answersHtml kind id index as = textOf (answerStretches kind id index as) := by
  induction as generalizing index with
  | nil => rfl
  | cons a rest ih =>
    have one : answerHtml kind id index a =
      answerOpening kind id index a.correct ++ a.text ++ answerClosing := rfl
    rw [answersHtml, ih, one]
    simp [answerStretches, Stretch.text]

theorem content_eq (lines : List Text) :
    Text.join ['\n'] lines = textOf (lineStretches lines) := by
  induction lines using lineStretches.induct with
  | case1 => rfl
  | case2 l => simp [Text.join, lineStretches, Stretch.text]
  | case3 l ls more ih =>
    rw [Text.join, ih, lineStretches]
    · simp [Stretch.text]
    · exact more
    · exact more

/-- **Template**: a fragment is its stretches laid end to end. -/
theorem html_eq (q : Quiz) (id : Nat) : q.html id = textOf (q.stretches id) := by
  have whole : q.html id = opening ++ q.question ++ fieldsOpening ++
    answersHtml q.inputType id 0 q.answers ++ fieldsClosing ++ contentOpening ++ q.content ++
    closing := rfl
  rw [whole, answersHtml_eq, content, content_eq]
  simp [stretches, Stretch.text]

/-! ## The template is shut -/

theorem notMem_inputId {c : Char} (other : c.isDigit = false) (lead : c ∉ ("quiz-" : Text))
    (id index : Nat) : c ∉ inputId id index := by
  have not_dash : c ≠ '-' := by
    rintro rfl
    exact lead (by decide)
  -- `simp` would first evaluate the literals in the equation of `inputId`
  unfold inputId
  simp only [List.mem_append, List.mem_cons, not_or]
  exact ⟨⟨lead, Text.notMem_ofNat other id⟩, not_dash, Text.notMem_ofNat other index⟩

theorem question_notMem_inputId (id index : Nat) : '?' ∉ inputId id index :=
  notMem_inputId rfl (by decide) id index

theorem question_notMem_inputType (q : Quiz) : '?' ∉ q.inputType := by
  unfold inputType
  split <;> decide

theorem shut_opening : Shut opening := ⟨by decide, by decide, by decide⟩

theorem shut_fieldsOpening : Shut fieldsOpening := ⟨by decide, by decide, by decide⟩

theorem shut_answerClosing : Shut answerClosing := ⟨by decide, by decide, by decide⟩

theorem shut_fieldsClosing : Shut fieldsClosing := ⟨by decide, by decide, by decide⟩

theorem shut_contentOpening : Shut contentOpening := ⟨by decide, by decide, by decide⟩

theorem shut_closing : Shut closing := ⟨by decide, by decide, by decide⟩

theorem shut_answerOpening {kind : Text} (h : '?' ∉ kind) (id index : Nat) (correct : Bool) :
    Shut (answerOpening kind id index correct) where
  head := by
    have first : ("<div><input type=\"" : Text).head? = some '<' := by decide
    unfold answerOpening
    simp only [List.head?_append, first, Option.some_or]
    exact .inl trivial
  last := by
    have last : ("\">" : Text).getLast? = some '>' := by decide
    unfold answerOpening
    rw [List.getLast?_append, last]
    exact .inl rfl
  plain := by
    have flag : '?' ∉ (if correct then " correct" else "").toList := by cases correct <;> decide
    unfold answerOpening
    simp only [List.mem_append, not_or]
    refine ⟨⟨⟨⟨⟨⟨⟨⟨⟨⟨?_, h⟩, ?_⟩, Text.notMem_ofNat rfl index⟩, ?_⟩,
      question_notMem_inputId id index⟩, ?_⟩, flag⟩, ?_⟩, question_notMem_inputId id index⟩, ?_⟩ <;>
      decide

theorem framed_answerStretches {kind : Text} (h : '?' ∉ kind) (id index : Nat)
    (as : List Answer) : Framed (answerStretches kind id index as) := by
  induction as generalizing index with
  | nil => exact .nil
  | cons a rest ih =>
    exact .fixed (shut_answerOpening h id index a.correct)
      (.given shut_answerClosing (ih (index + 1)))

theorem framed_lineStretches (lines : List Text) {t : Text} (shut : Shut t) :
    Framed (lineStretches lines ++ [.fixed t]) := by
  have feed : Shut ['\n'] := ⟨by decide, by decide, by decide⟩
  induction lines using lineStretches.induct with
  | case1 => exact .fixed shut .nil
  | case2 l => exact .given shut .nil
  | case3 l ls more ih =>
    rw [lineStretches]
    · exact .given feed ih
    · exact more

theorem framed_stretches (q : Quiz) (id : Nat) : Framed (q.stretches id) := by
  refine .fixed shut_opening (.given shut_fieldsOpening (.append ?_ ?_))
  · exact framed_answerStretches q.question_notMem_inputType id 0 q.answers
  · refine .fixed shut_fieldsClosing (.fixed shut_contentOpening ?_)
    exact framed_lineStretches q.contentLines shut_closing

/-! ## The markers of a fragment -/

theorem apart_html_right (x : Text) (q : Quiz) (id : Nat) (y : Text) :
    Apart x (q.html id ++ y) := by
  rw [html_eq, stretches, textOf_cons, List.append_assoc]
  exact shut_opening.apart_right x _

theorem apart_html_left (x : Text) (q : Quiz) (id : Nat) (y : Text) :
    Apart (x ++ q.html id) y := by
  obtain ⟨init, ends⟩ : ∃ init, q.html id = init ++ closing := ⟨_, rfl⟩
  rw [ends, ← List.append_assoc]
  exact shut_closing.apart_left _ y

/-- The texts of a quiz, each with its offset when the fragment is at `n`. -/
def textsFrom (q : Quiz) (id n : Nat) : List (Nat × Text) := givenFrom n (q.stretches id)

theorem filterMap_answerStretches (kind : Text) (id index : Nat) (as : List Answer) :
    (answerStretches kind id index as).filterMap given? = as.map Answer.text := by
  induction as generalizing index with
  | nil => rfl
  | cons a rest ih => simp [answerStretches, ih]

theorem filterMap_lineStretches (lines : List Text) :
    (lineStretches lines).filterMap given? = lines := by
  induction lines using lineStretches.induct with
  | case1 => rfl
  | case2 l => rfl
  | case3 l ls more ih =>
    rw [lineStretches]
    · simp [ih]
    · exact more

theorem textsFrom_map_snd (q : Quiz) (id n : Nat) : (q.textsFrom id n).map Prod.snd = q.texts := by
  rw [textsFrom, givenFrom_map_snd]
  simp [stretches, texts, filterMap_answerStretches, filterMap_lineStretches]

/-- **Fragments**: the markers of a fragment are those of the quiz's texts. -/
theorem occurrencesFrom_html (q : Quiz) (id n : Nat) :
    occurrencesFrom n (q.html id) =
      (q.textsFrom id n).flatMap fun g => occurrencesFrom g.1 g.2 := by
  rw [html_eq, (q.framed_stretches id).occurrencesFrom_textOf, textsFrom]

theorem infix_html_iff {m : Marker} {q : Quiz} {id : Nat} :
    m.text <:+: q.html id ↔ ∃ u ∈ q.texts, m.text <:+: u := by
  rw [infix_iff_mem 0, occurrencesFrom_html, ← q.textsFrom_map_snd id 0]
  constructor
  · rintro ⟨o, ho, rfl⟩
    obtain ⟨⟨n, u⟩, hu, ho⟩ := List.mem_flatMap.1 ho
    exact ⟨u, List.mem_map_of_mem hu, (infix_iff_mem n).2 ⟨o, ho, rfl⟩⟩
  · rintro ⟨u, hu, hm⟩
    obtain ⟨⟨n, u⟩, hg, rfl⟩ := List.mem_map.1 hu
    obtain ⟨o, ho, rfl⟩ := (infix_iff_mem n).1 hm
    exact ⟨o, List.mem_flatMap.2 ⟨_, hg, ho⟩, rfl⟩

end Quiz
end QuizPages
