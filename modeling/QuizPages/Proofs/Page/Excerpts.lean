import QuizPages.Proofs.Page.Agreement
import QuizPages.Proofs.Text.Boundary

/-!
# What the list shows of a question

The list shows of each question the longest leading part of at most 200 octets, and says whether that is all
of it: `excerpts_cut`.
-/

namespace QuizPages.Page

/-- The item of a block that holds a quiz shows of its question what fits, and whether something is cut off. -/
def ShowsQuestion (b : Block) (i : Item) : Prop :=
  ∀ q, Quiz.parse b.body = .ok q →
    ∃ excerpt, i.excerpt = some excerpt ∧ Text.Truncates q.question 200 excerpt i.facts.truncated

theorem showsQuestion_quizItem (p : Page) {b : Block} {q : Quiz} (h : Quiz.parse b.body = .ok q)
    (id sequence : Nat) : ShowsQuestion b (p.quizItem b q id sequence) := by
  intro q' parsed
  obtain rfl : q = q' := Except.ok.inj (h.symm.trans parsed)
  exact ⟨(q.question.truncate maxExcerpt).1, rfl, Text.truncates q.question maxExcerpt⟩

/-- The items of blocks show the questions of these blocks, one by one. -/
theorem forall₂_showsQuestion (p : Page) (id sequence : Nat) (blocks : List Block) :
    List.Forall₂ ShowsQuestion blocks (p.itemsFrom id sequence blocks) := by
  induction blocks generalizing id sequence with
  | nil => exact .nil
  | cons b later ih =>
    rcases parsed : Quiz.parse b.body with e | q
    · rw [p.itemsFrom_cons_of_error parsed]
      apply List.Forall₂.cons
      · intro q holds
        cases parsed.symm.trans holds
      · exact ih id (sequence + 1)
    · rw [p.itemsFrom_cons_of_ok parsed]
      apply List.Forall₂.cons
      · exact p.showsQuestion_quizItem parsed id sequence
      · exact ih (id + 1) (sequence + 1)

/-- **Excerpts**: a text is cut at the last place between characters that is not behind the limit, going back
to it octet by octet never ends inside a character, and the list shows each question so. -/
theorem excerpts_cut :
    (∀ (t : Text) (limit : Nat),
      Text.Truncates t limit (t.truncate limit).1 (t.truncate limit).2 ∧
      Utf8.truncate? t.octets limit = some ((t.truncate limit).1.octets, (t.truncate limit).2)) ∧
    ∀ p : Page, List.Forall₂ ShowsQuestion (Block.all p.body) p.list := by
  constructor
  · intro t limit
    exact ⟨Text.truncates t limit, Text.truncate?_octets t limit⟩
  · intro p
    exact p.forall₂_showsQuestion 0 0 (Block.all p.body)

end QuizPages.Page
