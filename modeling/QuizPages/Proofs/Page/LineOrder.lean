import QuizPages.Page.Lint
import QuizPages.Proofs.Block.Context
import QuizPages.Proofs.Document.SecondPass
import QuizPages.Proofs.Page.Pairing
import QuizPages.Proofs.Sorting

/-!
# Blocks and issues by line

Line numbers are words of 32 bits. On a page whose lines have such numbers (`NumbersFit`) the
lines of the blocks do not decrease. Issues are sorted by line. The sort is stable and commutes
with a filter (`filter_mergeSort`), so the issues of blocks come in the order of their blocks:
`lint_filter_of_numbersFit`.
-/

namespace QuizPages

/-! ## Lines of blocks -/

namespace Block

/-- The first lines of blocks are those of the part of the document that they are in. -/
theorem Cover.startLine_mem {before rest : Text} {parts : List (Text × Block)} {tail : Text}
    (cover : Cover before rest parts tail) (fits : (before ++ rest).feeds + 1 < UInt32.size)
    {b : Block} (h : b ∈ parts.map Prod.snd) :
    before.feeds + 1 ≤ b.startLine.toNat ∧ b.startLine.toNat ≤ (before ++ rest).feeds + 1 := by
  obtain ⟨part, mem, rfl⟩ := List.mem_map.1 h
  obtain ⟨left, right, whole, ⟨between, rfl⟩, placed⟩ := cover.exists_placed_of_mem mem
  have place := placed.startLine
  rw [whole] at fits ⊢
  simp only [feeds_append] at fits place ⊢
  rw [Nat.mod_eq_of_lt (by omega)] at place
  omega

/-- Blocks further on do not start on earlier lines. -/
theorem Cover.pairwise_startLine {before rest : Text} {parts : List (Text × Block)} {tail : Text}
    (cover : Cover before rest parts tail) (fits : (before ++ rest).feeds + 1 < UInt32.size) :
    (parts.map Prod.snd).Pairwise fun a b => a.startLine.toNat ≤ b.startLine.toNat := by
  induction parts generalizing before rest with
  | nil => exact List.Pairwise.nil
  | cons part parts ih =>
    obtain ⟨gap, c⟩ := part
    have whole : before ++ rest = before ++ gap ++ c.raw ++ (woven parts ++ tail) := by
      simp [cover.rest_eq]
    rw [whole] at fits
    refine List.pairwise_cons.2 ⟨?_, ih cover.of_cons fits⟩
    intro b hb
    have place := cover.placed.1.startLine
    have bounds := cover.of_cons.startLine_mem fits hb
    simp only [feeds_append] at fits place bounds
    rw [Nat.mod_eq_of_lt (by omega)] at place
    simp only
    omega

end Block

namespace Page

/-! ## Issues of blocks -/

/-- Whether an issue has the code of a reason why a block holds no quiz. -/
def isFormat (i : Issue) : Bool :=
  [FormatError.empty, .missingQuestion, .missingContentMarker].any fun e => i.fault.code = e.code

/-- One issue need not come after another. -/
def byLine (a b : Issue) : Bool := a.line.toNat ≤ b.line.toNat

theorem code_of_mem_pairingIssues {p : Page} {i : Issue} (h : i ∈ p.pairingIssues) :
    i.fault.code ∈ [nestedCode, unmatchedCode, unterminatedCode] := by
  rcases p.mem_pairingIssues_iff.1 h with ⟨o, -, -, rfl⟩ | ⟨outer, o, -, -, rfl⟩ | ⟨u, -, rfl⟩
  · simp [code_unmatchedIssue]
  · simp [code_nestedIssue]
  · simp [code_unterminatedIssue]

theorem isFormat_of_mem_pairingIssues {p : Page} {i : Issue} (h : i ∈ p.pairingIssues) :
    isFormat i = false := by
  have other : ∀ code ∈ [nestedCode, unmatchedCode, unterminatedCode],
      ([FormatError.empty, .missingQuestion, .missingContentMarker].any fun e =>
        code = e.code) = false := by decide
  exact other i.fault.code (code_of_mem_pairingIssues h)

/-- The issue of a block, if it holds no quiz. -/
def blockIssue? (p : Page) (b : Block) : Option Issue :=
  (Quiz.fault? b.body).map fun e =>
    ⟨.error, ⟨e.code, e.message⟩, p.path, b.startLine + p.lineOffset⟩

theorem blockIssues_eq (p : Page) : p.blockIssues = (Block.all p.body).filterMap p.blockIssue? := by
  refine List.filterMap_congr fun b _ => ?_
  rcases parsed : Quiz.parse b.body with e | q
  · rw [blockIssue?, Quiz.fault?_of_error parsed]
    rfl
  · rw [blockIssue?, Quiz.fault?_of_ok parsed]
    rfl

/-- The issues of a page name it. -/
theorem path_of_mem_lint {p : Page} {i : Issue} (h : i ∈ p.lint) : i.path = p.path := by
  rw [lint] at h
  split at h
  · cases h
  · rcases List.mem_append.1 (List.mem_mergeSort.1 h) with pairing | block
    · rcases p.mem_pairingIssues_iff.1 pairing with
        ⟨o, -, -, rfl⟩ | ⟨outer, o, -, -, rfl⟩ | ⟨u, -, rfl⟩ <;> rfl
    · rw [blockIssues_eq] at block
      obtain ⟨b, -, reported⟩ := List.mem_filterMap.1 block
      obtain ⟨e, -, rfl⟩ := Option.map_eq_some_iff.1 reported
      rfl

theorem isFormat_of_mem_blockIssues {p : Page} {i : Issue} (h : i ∈ p.blockIssues) :
    isFormat i = true := by
  rw [blockIssues_eq] at h
  obtain ⟨b, -, reported⟩ := List.mem_filterMap.1 h
  obtain ⟨e, -, rfl⟩ := Option.map_eq_some_iff.1 reported
  cases e <;> rfl

theorem filter_isFormat (p : Page) :
    (p.pairingIssues ++ p.blockIssues).filter isFormat = p.blockIssues := by
  rw [List.filter_append, List.filter_eq_nil_iff.2, List.filter_eq_self.2, List.nil_append]
  · exact fun i hi => isFormat_of_mem_blockIssues hi
  · exact fun i hi => by simp [isFormat_of_mem_pairingIssues hi]

theorem byLine_trans (a b c : Issue) (ab : byLine a b) (bc : byLine b c) : byLine a c := by
  simp only [byLine, decide_eq_true_eq] at *
  omega

theorem byLine_total (a b : Issue) : byLine a b || byLine b a := by
  simp only [byLine, Bool.or_eq_true, decide_eq_true_eq]
  omega

/-- The issues of a page come by line. -/
theorem pairwise_lint (p : Page) : p.lint.Pairwise fun a b => byLine a b := by
  rw [lint]
  split
  · exact .nil
  · exact List.pairwise_mergeSort byLine_trans byLine_total _

/-- The issues of blocks are sorted among themselves. -/
theorem lint_filter {p : Page} (enabled : p.disabled = false) :
    p.lint.filter isFormat = p.blockIssues.mergeSort byLine := by
  rw [lint, enabled, if_neg Bool.false_ne_true]
  exact (filter_mergeSort byLine_trans byLine_total isFormat _).trans (by rw [filter_isFormat])

/-- Blocks further on do not start on earlier lines of the page. -/
theorem pairwise_startLine {p : Page} (fits : p.NumbersFit) :
    (Block.all p.body).Pairwise fun a b =>
      (a.startLine + p.lineOffset).toNat ≤ (b.startLine + p.lineOffset).toNat := by
  obtain ⟨parts, tail, cover, found⟩ := Block.exists_cover_all p.body
  have feeds : Text.feeds ([] ++ p.body) + 1 < UInt32.size := by
    have : p.frontMatter.feeds + p.body.feeds + 1 < UInt32.size := fits
    rw [List.nil_append]
    omega
  have lines := cover.pairwise_startLine feeds
  have bound : ∀ b ∈ parts.map Prod.snd, b.startLine.toNat ≤ p.body.feeds + 1 :=
    fun b hb => (cover.startLine_mem feeds hb).2
  rw [found] at lines bound
  refine lines.imp_of_mem ?_
  intro a b ha hb le
  rw [toNat_add_lineOffset fits (bound a ha), toNat_add_lineOffset fits (bound b hb)]
  omega

theorem pairwise_blockIssues {p : Page} (fits : p.NumbersFit) :
    p.blockIssues.Pairwise fun a b => byLine a b := by
  have line_of : ∀ {b : Block} {i : Issue}, p.blockIssue? b = some i →
      i.line = b.startLine + p.lineOffset := by
    intro b i reported
    obtain ⟨e, -, rfl⟩ := Option.map_eq_some_iff.1 reported
    rfl
  rw [blockIssues_eq, List.pairwise_filterMap]
  refine (pairwise_startLine fits).imp ?_
  intro a b le i hi j hj
  rw [byLine, line_of hi, line_of hj, decide_eq_true_eq]
  exact le

/-- **Order of issues**: the issues of blocks come in the order of the blocks. -/
theorem lint_filter_of_numbersFit {p : Page} (enabled : p.disabled = false)
    (fits : p.NumbersFit) : p.lint.filter isFormat = p.blockIssues := by
  rw [lint_filter enabled, List.mergeSort_of_pairwise (pairwise_blockIssues fits)]

end Page

end QuizPages
