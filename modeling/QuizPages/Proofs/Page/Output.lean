import QuizPages.Page.Rendering
import QuizPages.Proofs.Document.Splice
import QuizPages.Proofs.Page.FrontMatter

/-!
# What a built page says of itself

The text of a built page is its front matter, the rendered body and what is appended. The front matter
goes through as it is, but whether a reader of the built page finds it again is decided on its closing
line: a page that ends with that line, and does not end the line, has an empty body, so what is
appended lands on the line and nothing closes the front matter any more.
-/

namespace QuizPages.Page

/-- What is appended to a page. -/
def appended (p : Page) : Option Assets → Text
  | some a => if p.disabled then [] else a.snippet
  | none => []

theorem finalText_eq (p : Page) (assets : Option Assets) :
    p.finalText assets = p.frontMatter ++ (p.renderedBody.text ++ p.appended assets) := by
  rcases assets with - | a
  · simp [finalText, appended]
  · by_cases off : p.disabled
    · simp [finalText, appended, off]
    · simp [finalText, appended, off, Assets.snippet, List.append_assoc]

/-- A page without a body is rendered without one. -/
theorem renderedBody_of_bodyless {p : Page} (h : p.body = []) : p.renderedBody.text = [] := by
  unfold renderedBody
  split
  · exact h
  · rw [h, Document.render_of_blockless (Block.next?_eq_none_iff.1 rfl)]

/-- **Front matter of built pages**: it is found again in the text of a built page, whatever the body
and the assets are, exactly if its closing line is ended or nothing is appended. -/
theorem frontMatter_kept_iff {text front body : Text} (h : splitFrontMatter text = (front, body))
    (present : front ≠ []) (path : Text) (assets : Option Assets) :
    (splitFrontMatter ((ofText path text).render assets).text).1 = front ↔
      front.getLast? = some '\n' ∨ (ofText path text).appended assets = [] := by
  have front_eq : (ofText path text).frontMatter = front := by rw [ofText, h]
  have body_eq : (ofText path text).body = body := by rw [ofText, h]
  rw [render, finalText_eq, front_eq, splitFrontMatter_append_iff h present]
  by_cases ended : front.getLast? = some '\n'
  · simp [ended]
  · -- The closing line is the last one, so there is no body between it and what is appended.
    have bodyless : body = [] := eq_nil_of_not_ended h present ended
    rw [renderedBody_of_bodyless (body_eq.trans bodyless), List.nil_append]

/-- Front matter, a quiz and a heading. -/
def titledPage : Text :=
  "---\ntitle: T\n...  \n<?quiz?>\nquestion: q\ncontent:\nx\n<?/quiz?>\n# H"

theorem frontMatter_kept_iff_titledPage :
    (splitFrontMatter titledPage).1 = "---\ntitle: T\n...  \n".toList ∧
    (splitFrontMatter ((ofText "a.md" titledPage).render (some Assets.bundled)).text).1 =
      "---\ntitle: T\n...  \n".toList := by
  have split : (splitFrontMatter titledPage).1 = "---\ntitle: T\n...  \n".toList := by decide +kernel
  refine ⟨split, ?_⟩
  have kept := (frontMatter_kept_iff (Prod.ext split rfl) (by decide) "a.md" (some Assets.bundled)).2
  exact kept (.inl (by decide))

/-- Front matter is lost if the page ends with the closing line, without a line feed: the stylesheet
comes to stand on that line. -/
theorem frontMatter_lost :
    (splitFrontMatter "---\ntitle: T\n---").1 = "---\ntitle: T\n---".toList ∧
    (splitFrontMatter
      ((ofText "a.md" "---\ntitle: T\n---").render (some (Assets.ofText "c" "j"))).text).1 = [] := by
  decide +kernel

end QuizPages.Page
