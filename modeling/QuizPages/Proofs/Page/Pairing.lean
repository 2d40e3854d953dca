import Mathlib.Data.List.Basic
import QuizPages.Proofs.Marker.Role
import QuizPages.Proofs.Page.MarkerLines

/-!
# Pairing issues and blocks

The issues of a page's markers are read off the run of the pairing machine (`pair_eq`). The
machine pairs the markers as the blocks of the page do, so each kind of issue is told by where
its markers lie among the blocks: `pairsAsBlocks`.
-/

namespace QuizPages.Page

open Marker

/-! ## The issues of a run -/

/-- The code of a start marker inside an open quiz. -/
def nestedCode : Text := "NESTED_QUIZ_START"

/-- The code of an end marker that closes nothing. -/
def unmatchedCode : Text := "UNMATCHED_END_TAG"

/-- The code of a start marker that is never closed. -/
def unterminatedCode : Text := "UNTERMINATED_QUIZ"

theorem nestedCode_ne : nestedCode ≠ unmatchedCode ∧ nestedCode ≠ unterminatedCode := by
  decide

theorem unmatchedCode_ne : unmatchedCode ≠ nestedCode ∧ unmatchedCode ≠ unterminatedCode := by
  decide

theorem unterminatedCode_ne :
    unterminatedCode ≠ nestedCode ∧ unterminatedCode ≠ unmatchedCode := by
  decide

variable (p : Page)

/-- The issue of a start marker inside what `outer` opened. -/
def nestedIssue (outer o : Occurrence) : Issue :=
  ⟨.warning, Issue.nested (p.lineOf outer), p.path, p.lineOf o⟩

/-- The issue of an end marker that closes nothing. -/
def unmatchedIssue (o : Occurrence) : Issue := ⟨.error, Issue.unmatched, p.path, p.lineOf o⟩

/-- The issue of a start marker that is never closed. -/
def unterminatedIssue (o : Occurrence) : Issue := ⟨.error, Issue.unterminated, p.path, p.lineOf o⟩

theorem code_nestedIssue (outer o : Occurrence) : (p.nestedIssue outer o).fault.code = nestedCode :=
  rfl

theorem code_unmatchedIssue (o : Occurrence) : (p.unmatchedIssue o).fault.code = unmatchedCode :=
  rfl

theorem code_unterminatedIssue (o : Occurrence) :
    (p.unterminatedIssue o).fault.code = unterminatedCode :=
  rfl

/-- The issue at a marker, by what the machine has open there. -/
def issueAt? : Option Occurrence × Occurrence → Option Issue
  | (some outer, o) => if o.marker = .start then some (p.nestedIssue outer o) else none
  | (none, o) => if o.marker = .stop then some (p.unmatchedIssue o) else none

/-- The issues of the markers are those of the machine's run, in order, and one for what it
leaves open. -/
theorem pair_eq (opened : Option Occurrence) (os : List Occurrence) :
    p.pair (opened.map p.lineOf) os =
      (trace opened os).filterMap p.issueAt? ++
        ((leftOpen opened os).map p.unterminatedIssue).toList := by
  induction os generalizing opened with
  | nil => cases opened <;> rfl
  | cons o later ih =>
    have step : leftOpen opened (o :: later) = leftOpen (openAfter opened o) later := rfl
    rw [trace, step, List.filterMap_cons]
    rcases hm : o.marker with - | - <;> rcases opened with - | outer
    · simp only [pair, hm, issueAt?, openAfter, reduceCtorEq, if_false, Option.map_none]
      exact ih (some o)
    · simp only [pair, hm, issueAt?, openAfter, if_true, Option.map_some]
      rw [List.cons_append, ← ih (some outer)]
      rfl
    · simp only [pair, hm, issueAt?, openAfter, if_true, Option.map_none]
      rw [List.cons_append, ← ih none]
      rfl
    · simp only [pair, hm, issueAt?, openAfter, reduceCtorEq, if_false, Option.map_some]
      exact ih none

/-- The pairing issues with a code. -/
def pairingIssuesOf (code : Text) : List Issue := p.pairingIssues.filter (·.fault.code = code)

theorem pairingIssues_eq :
    p.pairingIssues = (trace none (occurrences p.body)).filterMap p.issueAt? ++
      ((looseIn p.body).map p.unterminatedIssue).toList := by
  rw [pairingIssues, ← (sectioned_all p.body).leftOpen_eq]
  exact p.pair_eq none _

/-- An issue of the markers is about an end marker that is met with nothing open, a start marker that is met
with a quiz open, or the start marker that is left open. -/
theorem mem_pairingIssues_iff {i : Issue} :
    i ∈ p.pairingIssues ↔
      (∃ o, (none, o) ∈ trace none (occurrences p.body) ∧ o.marker = .stop ∧ i = p.unmatchedIssue o) ∨
      (∃ outer o, (some outer, o) ∈ trace none (occurrences p.body) ∧ o.marker = .start ∧
        i = p.nestedIssue outer o) ∨
      ∃ u, looseIn p.body = some u ∧ i = p.unterminatedIssue u := by
  rw [pairingIssues_eq, List.mem_append, List.mem_filterMap, ← or_assoc]
  refine or_congr ?_ ?_
  · constructor
    · rintro ⟨⟨- | outer, o⟩, met, issue⟩
      · obtain ⟨stops, issue⟩ := Option.ite_none_right_eq_some.1 issue
        exact .inl ⟨o, met, stops, (Option.some.inj issue).symm⟩
      · obtain ⟨starts, issue⟩ := Option.ite_none_right_eq_some.1 issue
        exact .inr ⟨outer, o, met, starts, (Option.some.inj issue).symm⟩
    · rintro (⟨o, met, stops, rfl⟩ | ⟨outer, o, met, starts, rfl⟩)
      · exact ⟨_, met, if_pos stops⟩
      · exact ⟨_, met, if_pos starts⟩
  · rw [Option.mem_toList, Option.map_eq_some_iff]
    constructor <;> rintro ⟨u, loose, same⟩ <;> exact ⟨u, loose, same.symm⟩

/-- Issues with a code, marker by marker. -/
theorem pairingIssuesOf_eq (code : Text) :
    p.pairingIssuesOf code =
      (trace none (occurrences p.body)).filterMap
          (fun x => (p.issueAt? x).filter (·.fault.code = code)) ++
        ((looseIn p.body).map p.unterminatedIssue).toList.filter (·.fault.code = code) := by
  rw [pairingIssuesOf, pairingIssues_eq, List.filter_append, List.filter_filterMap]

theorem unmatched_eq :
    p.pairingIssuesOf unmatchedCode =
      ((occurrences p.body).filter (outside (Block.all p.body))).map p.unmatchedIssue := by
  have at_marker : ∀ x ∈ trace none (occurrences p.body),
      (p.issueAt? x).filter (·.fault.code = unmatchedCode) =
        (Option.guard (outside (Block.all p.body)) x.2).map p.unmatchedIssue := by
    intro x hx
    have place := (sectioned_all p.body).outside_iff hx
    obtain ⟨- | outer, o⟩ := x <;> rcases hm : o.marker with - | - <;>
      simp_all [issueAt?, Option.guard, Option.filter, code_nestedIssue, code_unmatchedIssue,
        nestedCode_ne]
  have at_end : ((looseIn p.body).map p.unterminatedIssue).toList.filter
      (·.fault.code = unmatchedCode) = [] := by
    simp [List.filter_eq_nil_iff, code_unterminatedIssue, unterminatedCode_ne]
  rw [pairingIssuesOf_eq, at_end, List.append_nil, List.filterMap_congr at_marker,
    ← List.filterMap_eq_filter, List.map_filterMap]
  conv_rhs => rw [← trace_map_snd none (occurrences p.body), List.filterMap_map]
  rfl

theorem nested_eq :
    p.pairingIssuesOf nestedCode =
      ((occurrences p.body).filter (·.marker = .start)).filterMap fun o =>
        (outer? (Block.all p.body) (looseIn p.body) o).map (p.nestedIssue · o) := by
  have at_marker : ∀ x ∈ trace none (occurrences p.body),
      (p.issueAt? x).filter (·.fault.code = nestedCode) =
        if x.2.marker = .start then
          (outer? (Block.all p.body) (looseIn p.body) x.2).map (p.nestedIssue · x.2)
        else none := by
    intro x hx
    have place := (sectioned_all p.body).outer?_eq hx
    obtain ⟨- | outer, o⟩ := x <;> rcases hm : o.marker with - | - <;>
      simp_all [issueAt?, Option.filter, code_nestedIssue, code_unmatchedIssue, unmatchedCode_ne]
  have at_end : ((looseIn p.body).map p.unterminatedIssue).toList.filter
      (·.fault.code = nestedCode) = [] := by
    simp [List.filter_eq_nil_iff, code_unterminatedIssue, unterminatedCode_ne]
  rw [pairingIssuesOf_eq, at_end, List.append_nil, List.filterMap_congr at_marker,
    List.filterMap_filter]
  conv_rhs => rw [← trace_map_snd none (occurrences p.body), List.filterMap_map]
  simp

theorem unterminated_eq :
    p.pairingIssuesOf unterminatedCode = (looseIn p.body).toList.map p.unterminatedIssue := by
  have at_marker : (trace none (occurrences p.body)).filterMap
      (fun x => (p.issueAt? x).filter (·.fault.code = unterminatedCode)) = [] := by
    rw [List.filterMap_eq_nil_iff]
    rintro ⟨- | outer, o⟩ - <;> rcases hm : o.marker with - | - <;>
      simp [issueAt?, Option.filter, code_nestedIssue, code_unmatchedIssue, hm, nestedCode_ne,
        unmatchedCode_ne]
  rw [pairingIssuesOf_eq, at_marker, List.nil_append]
  rcases looseIn p.body with - | u <;> simp [code_unterminatedIssue]

/-! ## Issues and blocks -/

/-- The markers of a page are paired as its blocks have them. -/
structure PairsAsBlocks (p : Page) : Prop where
  /-- The markers are all places of the body that read as one, from left to right. -/
  occurs : ∀ o, o ∈ occurrences p.body ↔
    ∃ a b, p.body = a ++ (o.marker.text ++ b) ∧ o.offset = Text.size a
  increasing : (occurrences p.body).Pairwise fun a b => a.offset < b.offset
  /-- The issues are those of the machine. -/
  machine : p.pairingIssues =
    (trace none (occurrences p.body)).filterMap p.issueAt? ++
      ((leftOpen none (occurrences p.body)).map p.unterminatedIssue).toList
  /-- The machine opens at the start of each block, and at the first start marker behind them. -/
  opened : Marker.opened (occurrences p.body) =
    (Block.all p.body).map Block.opening ++ (looseIn p.body).toList
  /-- It closes at the end of each block. -/
  closed : Marker.closed (occurrences p.body) = (Block.all p.body).map Block.closing
  /-- At a start marker it has open what the marker is nested in. -/
  outer : ∀ x ∈ trace none (occurrences p.body), x.2.marker = .start →
    x.1 = outer? (Block.all p.body) (looseIn p.body) x.2
  /-- One issue for each end marker outside the blocks. -/
  unmatched : p.pairingIssuesOf unmatchedCode =
    ((occurrences p.body).filter (outside (Block.all p.body))).map p.unmatchedIssue
  /-- One issue for each start marker in the body of a block or behind a loose one. -/
  nested : p.pairingIssuesOf nestedCode =
    ((occurrences p.body).filter (·.marker = .start)).filterMap fun o =>
      (outer? (Block.all p.body) (looseIn p.body) o).map (p.nestedIssue · o)
  /-- One issue for a loose start marker. -/
  unterminated : p.pairingIssuesOf unterminatedCode =
    (looseIn p.body).toList.map p.unterminatedIssue
  /-- The line that an issue tells for a marker, also in its message, is the one that the marker is on,
  where the lines of the page have numbers of 32 bits. -/
  line : p.NumbersFit → ∀ o ∈ occurrences p.body,
    (p.moved o).OnLine (p.frontMatter ++ p.body) (p.lineOf o)
  /-- Each marker has one role. -/
  role : ∀ o ∈ occurrences p.body, ∃! r, HeldAmong (Block.all p.body) (looseIn p.body) o r

end QuizPages.Page
