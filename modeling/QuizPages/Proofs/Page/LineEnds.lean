import Mathlib.Data.List.Induction
import QuizPages.Page
import QuizPages.Proofs.Document.LineEnds
import QuizPages.Proofs.Page.Delimiters

/-!
# Pages with other line ends

The delimiters of front matter are told by their lines without the white space at the end, so a page
splits at the same line whatever ends its lines, and the text between the delimiters keeps the line
ends of the page. With the rendering of the body (`exists_transcripts_crlf`) nothing about a page
depends on its line ends but the line ends of what stays: `lineEnds_neutral`.
-/

namespace QuizPages

open Text

/-! ## The split -/

theorem opensFrontMatter_crlf {t p : Text} (h : p ∈ pieces t) :
    opensFrontMatter p.crlf = opensFrontMatter p := by
  rw [opensFrontMatter, trimEnd_crlf h, opensFrontMatter]

theorem closesFrontMatter_crlf {t p : Text} (h : p ∈ pieces t) :
    closesFrontMatter p.crlf = closesFrontMatter p := by
  rw [closesFrontMatter, trimEnd_crlf h, closesFrontMatter]

theorem throughClosing?_crlf {t : Text} {ls : List Text} (h : ls ⊆ pieces t) :
    throughClosing? (ls.map crlf) =
      (throughClosing? ls).map fun r => (r.1.map crlf, r.2.map crlf) := by
  induction ls with
  | nil => rfl
  | cons l ls ih =>
    obtain ⟨here, later⟩ := List.cons_subset.1 h
    rw [List.map_cons, throughClosing?, closesFrontMatter_crlf here, throughClosing?]
    split
    · rfl
    · rw [ih later]
      cases throughClosing? ls <;> rfl

/-- A page splits at the same line whatever ends its lines. -/
theorem splitFrontMatter_crlf (t : Text) :
    splitFrontMatter t.crlf = ((splitFrontMatter t).1.crlf, (splitFrontMatter t).2.crlf) := by
  rw [splitFrontMatter, splitFrontMatter, pieces_crlf]
  rcases cut : pieces t with - | ⟨first, rest⟩
  · rfl
  · have here : first ∈ pieces t := cut ▸ List.mem_cons_self
    have later : rest ⊆ pieces t := cut ▸ List.subset_cons_self first rest
    simp only [List.map_cons, opensFrontMatter_crlf here, throughClosing?_crlf later]
    split
    · rcases throughClosing? rest with - | ⟨front, body⟩
      · rfl
      · simp only [Option.map_some, crlf_append, crlf_flatten]
    · rfl

/-! ## Between the delimiters -/

theorem afterFirstFeed_crlf (t : Text) : afterFirstFeed t.crlf = (afterFirstFeed t).crlf := by
  induction t with
  | nil => rfl
  | cons c t ih =>
    by_cases feed : c = '\n'
    · subst feed
      rfl
    · rw [crlf_cons feed, afterFirstFeed, if_neg feed, afterFirstFeed, if_neg feed]
      exact ih

theorem throughLastFeed_crlf (t : Text) : throughLastFeed t.crlf = (throughLastFeed t).crlf := by
  induction t using List.reverseRecOn with
  | nil => rfl
  | append_singleton s c ih =>
    by_cases feed : c = '\n'
    · rw [feed, crlf_concat_feed, throughLastFeed_concat, if_pos rfl, throughLastFeed_concat,
        if_pos rfl, crlf_concat_feed]
    · rw [crlf_concat feed, throughLastFeed_concat, throughLastFeed_concat, if_neg feed,
        if_neg feed, ih]

/-- The text between the delimiters has the line ends of the page. -/
theorem frontMatterBody_crlf (front : Text) :
    frontMatterBody front.crlf = (frontMatterBody front).crlf := by
  rw [frontMatterBody, afterFirstFeed_crlf, frontMatterBody]
  cases afterFirstFeed front using List.reverseRecOn with
  | nil => rfl
  | append_singleton s c =>
    by_cases feed : c = '\n'
    · -- The carriage return before the last line feed is left over, and it is no line of its own.
      have lone : ('\r' : Char) ≠ '\n' := by decide
      rw [feed, crlf_concat_feed, withoutLastFeed_concat, withoutLastFeed_concat, if_pos rfl,
        if_pos rfl, throughLastFeed_concat, if_neg lone, throughLastFeed_crlf]
    · have kept := crlf_concat feed s
      rw [kept, withoutLastFeed_concat, withoutLastFeed_concat, if_neg feed, if_neg feed, ← kept,
        throughLastFeed_crlf]

/-! ## Pages -/

namespace Page

theorem lineOffset_crlf (path text : Text) :
    (ofText path text.crlf).lineOffset = (ofText path text).lineOffset := by
  rw [lineOffset, lineOffset, ofText, ofText, splitFrontMatter_crlf]
  simp only [feeds_crlf]

/-- **Line ends**: a page splits at the same line whatever ends its lines, and takes as many lines of
front matter. The text between its delimiters keeps the line ends of the page. Its body has the
same outcomes; what is rendered is the same, and gaps and failed blocks keep their line ends. -/
theorem lineEnds_neutral {text : Text} (free : '\r' ∉ text) (path : Text) :
    let front := (splitFrontMatter text).1
    let body := (splitFrontMatter text).2
    splitFrontMatter text.crlf = (front.crlf, body.crlf) ∧
    frontMatterBody front.crlf = (frontMatterBody front).crlf ∧
    (ofText path text.crlf).lineOffset = (ofText path text).lineOffset ∧
    (Document.render body.crlf).outcomes = (Document.render body).outcomes ∧
    ∃ pieces pieces' tail, Document.Transcript body pieces tail ∧
      Document.Transcript body.crlf pieces' tail.crlf ∧
      List.Forall₂ Document.Piece.SameUpToEnds pieces pieces' := by
  intro front body
  have free_body : '\r' ∉ body := fun h =>
    free (splitFrontMatter_append text ▸ List.mem_append_right front h)
  obtain ⟨pieces, pieces', tail, told, told', same⟩ := Document.exists_transcripts_crlf free_body
  refine ⟨splitFrontMatter_crlf text, frontMatterBody_crlf front, lineOffset_crlf path text, ?_,
    pieces, pieces', tail, told, told', same⟩
  rw [told.outcomes, told'.outcomes, Document.map_outcome_of_forall₂ same]

/-- Front matter with a blank line, a quiz that ends within a line, a block that stays, and no line
feed at the end. -/
def unevenPage : Text :=
  "---\ntitle: T\n\n...\na <?quiz?>question: q\ncontent:\nx<?/quiz?> b\n<?quiz?>\nanswer: z\n<?/quiz?>"

theorem lineEnds_neutral_unevenPage :
    '\r' ∉ unevenPage ∧ unevenPage.crlf ≠ unevenPage ∧
    splitFrontMatter unevenPage.crlf =
      ((splitFrontMatter unevenPage).1.crlf, (splitFrontMatter unevenPage).2.crlf) ∧
    (Document.render (splitFrontMatter unevenPage).2.crlf).outcomes =
      (Document.render (splitFrontMatter unevenPage).2).outcomes ∧
    ((Document.render (splitFrontMatter unevenPage).2).outcomes.map (·.result.isOk)) =
      [true, false] := by
  have free : '\r' ∉ unevenPage := by decide +kernel
  obtain ⟨split, -, -, outcomes, -⟩ := lineEnds_neutral free "page.md"
  exact ⟨free, by decide +kernel, split, outcomes, by decide +kernel⟩

end Page
end QuizPages
