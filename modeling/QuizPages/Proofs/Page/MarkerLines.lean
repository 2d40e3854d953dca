import QuizPages.Page.Lint
import QuizPages.Proofs.Block.Cover
import QuizPages.Proofs.Marker.Seam

/-!
# The lines of markers

Line numbers are words of 32 bits, counted in the body of a page and then moved behind the front matter.
On a page whose lines have such numbers (`NumbersFit`), the line that is told for a marker of the body is
the one that it is on in the whole text: `onLine_lineOf`.
-/

namespace QuizPages

open Marker

/-- Whether a text holds a marker at its offset, and a line is the one that it is on: the one behind the
line feeds in front of it. -/
def Marker.Occurrence.OnLine (o : Occurrence) (text : Text) (line : UInt32) : Prop :=
  ∃ before after, text = before ++ (o.marker.text ++ after) ∧ before.size = o.offset ∧
    line.toNat = before.feeds + 1

namespace Page

variable {p : Page}

/-- All lines of the page have numbers of 32 bits. -/
def NumbersFit (p : Page) : Prop := p.frontMatter.feeds + p.body.feeds + 1 < UInt32.size

/-- The number of a line within the page is that within the body and the lines in front of it. -/
theorem toNat_add_lineOffset (fits : p.NumbersFit) {line : UInt32} (h : line.toNat ≤ p.body.feeds + 1) :
    (line + p.lineOffset).toNat = line.toNat + p.frontMatter.feeds := by
  have size : UInt32.size = 2 ^ 32 := rfl
  unfold NumbersFit at fits
  rw [UInt32.toNat_add, lineOffset, UInt32.toNat_ofNat', Nat.mod_eq_of_lt (by omega),
    Nat.mod_eq_of_lt (by omega)]

/-- A marker of the body at its place in the page. -/
def moved (p : Page) (o : Occurrence) : Occurrence := ⟨p.frontMatter.size + o.offset, o.marker⟩

/-- **Lines**: the line of a marker of the body is its line in the page. -/
theorem onLine_lineOf (fits : p.NumbersFit) {o : Occurrence} (h : o ∈ occurrences p.body) :
    (p.moved o).OnLine (p.frontMatter ++ p.body) (p.lineOf o) := by
  obtain ⟨a, b, body, offset⟩ := mem_occurrencesFrom_iff.1 h
  rw [Nat.zero_add] at offset
  have feeds : p.body.feeds = a.feeds + (o.marker.text ++ b).feeds := by
    rw [body, Block.feeds_append]
  have within : a.feeds + 1 < UInt32.size := by
    unfold NumbersFit at fits
    omega
  have line : (Text.lineAt p.body o.offset).toNat = a.feeds + 1 := by
    rw [body, offset, Block.toNat_lineAt, Nat.mod_eq_of_lt within]
  refine ⟨p.frontMatter ++ a, b, ?_, ?_, ?_⟩
  · rw [body, List.append_assoc]
    rfl
  · rw [Text.size_append, moved, offset]
  · rw [lineOf, toNat_add_lineOffset fits (by omega), line, Block.feeds_append]
    omega

end Page
end QuizPages
