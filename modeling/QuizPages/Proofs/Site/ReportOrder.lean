import QuizPages.Proofs.Page.Lines
import QuizPages.Proofs.Page.Reading
import QuizPages.Proofs.Report.Order
import QuizPages.Proofs.Site.Agreement
import QuizPages.Proofs.Text.OctetOrder

/-!
# Reports page by page

Each report on a tree is gathered page by page and sorted at the end. The pages come in ascending order, and
what is told about one page is in order already: first what has no line, and then the blocks or issues, whose
lines do not decrease (`Item.InTurn`). So if no two pages are called alike there is nothing left to sort:
`reports_in_order`.
-/

namespace QuizPages

/-! ## Items of one page -/

namespace Item

/-- What is told about the page of a path: first items without a line, and then items with lines that do
not decrease. -/
structure InTurn (path : Text) (heads lined : List Item) : Prop where
  headed : ∀ i ∈ heads, i.path = some path ∧ i.range = none
  ranged : ∀ i ∈ lined, i.path = some path ∧ i.range.isSome
  byLine : lined.Pairwise fun i j =>
    ∀ a ∈ i.range, ∀ b ∈ j.range, a.start.toNat ≤ b.start.toNat

/-- Items of one page are compared by their ranges. -/
theorem le_of_ranges {a b : Item} {p : Text} (ha : a.path = some p) (hb : b.path = some p)
    (ranges : (compareRanges a.range b.range).isLE) : a.le b := by
  rw [le, compare_of_paths ha hb, Text.compare_eq_iff.2 rfl]
  exact ranges

/-- Items of different pages are compared by their paths. -/
theorem le_of_ascending {a b : Item} {p q : Text} (ha : a.path = some p) (hb : b.path = some q)
    (ascending : Text.compare p q = .lt) : a.le b := by
  rw [le, compare_of_paths ha hb, ascending]
  rfl

namespace InTurn

variable {path : Text} {heads lined : List Item}

theorem of_headed (headed : ∀ i ∈ heads, i.path = some path ∧ i.range = none) : InTurn path heads [] where
  headed := headed
  ranged _ mem := absurd mem List.not_mem_nil
  byLine := .nil

theorem path_of_mem (h : InTurn path heads lined) {i : Item} (mem : i ∈ heads ++ lined) :
    i.path = some path := by
  rcases List.mem_append.1 mem with mem | mem
  · exact (h.headed i mem).1
  · exact (h.ranged i mem).1

/-- What is told in turn is sorted. -/
theorem pairwise (h : InTurn path heads lined) : (heads ++ lined).Pairwise fun a b => a.le b := by
  refine List.pairwise_append.2 ⟨?_, ?_, ?_⟩
  · refine List.pairwise_of_forall_mem_list fun a ha b hb => ?_
    obtain ⟨pa, ra⟩ := h.headed a ha
    obtain ⟨pb, rb⟩ := h.headed b hb
    apply le_of_ranges pa pb
    rw [ra, rb]
    rfl
  · refine h.byLine.imp_of_mem fun {a b} ha hb lines => ?_
    obtain ⟨pa, ra⟩ := h.ranged a ha
    obtain ⟨pb, rb⟩ := h.ranged b hb
    obtain ⟨r, ra⟩ := Option.isSome_iff_exists.1 ra
    obtain ⟨s, rb⟩ := Option.isSome_iff_exists.1 rb
    apply le_of_ranges pa pb
    rw [ra, rb, compareRanges, Nat.isLE_compare]
    exact lines r ra s rb
  · intro a ha b hb
    obtain ⟨pa, ra⟩ := h.headed a ha
    obtain ⟨pb, rb⟩ := h.ranged b hb
    obtain ⟨s, rb⟩ := Option.isSome_iff_exists.1 rb
    apply le_of_ranges pa pb
    rw [ra, rb]
    rfl

end InTurn

/-- Sorting changes nothing about what is told in turn of one page after another, in ascending order of
their paths. -/
theorem sort_flatten {paths : List Text} {each : List (List Item)}
    (ascending : paths.Pairwise fun p q => Text.compare p q = .lt)
    (inTurn : List.Forall₂ (fun p items => ∃ heads lined, items = heads ++ lined ∧ InTurn p heads lined)
      paths each) : sort each.flatten = each.flatten := by
  apply sort_of_pairwise
  -- Along with the order, whatever is told is told about one of the paths.
  suffices sorted : each.flatten.Pairwise (fun a b => a.le b) ∧
      ∀ i ∈ each.flatten, ∃ p ∈ paths, i.path = some p from sorted.1
  induction inTurn with
  | nil => exact ⟨.nil, fun i mem => absurd mem List.not_mem_nil⟩
  | @cons p items paths each here _ ih =>
    obtain ⟨heads, lined, rfl, here⟩ := here
    obtain ⟨first, ascending⟩ := List.pairwise_cons.1 ascending
    obtain ⟨sorted, among⟩ := ih ascending
    rw [List.flatten_cons]
    constructor
    · refine List.pairwise_append.2 ⟨here.pairwise, sorted, fun a ha b hb => ?_⟩
      obtain ⟨q, later, pb⟩ := among b hb
      exact le_of_ascending (here.path_of_mem ha) pb (first q later)
    · intro i mem
      rcases List.mem_append.1 mem with mem | mem
      · exact ⟨p, List.mem_cons_self, here.path_of_mem mem⟩
      · obtain ⟨q, later, same⟩ := among i mem
        exact ⟨q, List.mem_cons_of_mem p later, same⟩

end Item

/-- What is said about a reading has no line. -/
theorem Reading.headed (r : Reading) (path : Text) :
    ∀ i ∈ r.items path, i.path = some path ∧ i.range = none := by
  intro i mem
  obtain ⟨fault, -, rfl⟩ := List.mem_map.1 mem
  exact ⟨rfl, rfl⟩

/-! ## What is told about the blocks of a page -/

namespace Page

open Item

variable {p : Page} {heads : List Item} (headed : ∀ i ∈ heads, i.path = some p.path ∧ i.range = none)
include headed

/-- The blocks are listed in turn. -/
theorem inTurn_list (fits : p.NumbersFit) : InTurn p.path heads p.list := by
  have places := p.itemsFrom_map_place 0 0 (Block.all p.body)
  refine ⟨headed, fun i mem => ?_, ?_⟩
  · have place := List.mem_map_of_mem (f := fun i => (i.path, i.range)) mem
    rw [list, places] at place
    obtain ⟨b, -, same⟩ := List.mem_map.1 place
    obtain ⟨path, range⟩ := Prod.mk.inj same
    exact ⟨path.symm, by rw [← range]; rfl⟩
  · have lines : (p.list.map fun i => (i.path, i.range)).Pairwise fun x y =>
        ∀ a ∈ x.2, ∀ b ∈ y.2, a.start.toNat ≤ b.start.toNat := by
      rw [list, places, List.pairwise_map]
      exact (pairwise_startLine fits).imp fun le => by simpa [rangeOf] using le
    exact List.pairwise_map.1 lines

/-- So are the issues, which are sorted by line. -/
theorem inTurn_lint : InTurn p.path heads (p.lint.map Issue.item) := by
  refine ⟨headed, fun i mem => ?_, ?_⟩
  · obtain ⟨issue, found, rfl⟩ := List.mem_map.1 mem
    exact ⟨congrArg some (path_of_mem_lint found), rfl⟩
  · rw [List.pairwise_map]
    exact p.pairwise_lint.imp fun le => by simpa [Issue.item, byLine] using le

/-- On a rendered page its own item comes before the blocks that were left in place. -/
theorem inTurn_render (fits : p.NumbersFit) (assets : Option Assets) :
    InTurn p.path (heads ++ [p.item (p.finalText assets)])
      (p.renderedBody.failures.map fun x => p.failureItem x.1 x.2) := by
  refine ⟨?_, ?_, ?_⟩
  · intro i mem
    rcases List.mem_append.1 mem with mem | mem
    · exact headed i mem
    · rw [List.mem_singleton.1 mem]
      exact ⟨rfl, rfl⟩
  · intro i mem
    obtain ⟨x, -, rfl⟩ := List.mem_map.1 mem
    exact ⟨rfl, rfl⟩
  · rcases asks : p.disabled with - | -
    · have issues := pairwise_blockIssues fits
      rw [blockIssues_eq_failures, List.pairwise_map] at issues
      rw [renderedBody_of_enabled asks, List.pairwise_map]
      exact issues.imp fun le => by simpa [failureIssue, failureItem, byLine] using le
    · rw [renderedBody, if_pos asks]
      exact .nil

end Page

/-! ## Pages in order -/

namespace Site

open Item

variable {t : FileTree} {root : Path} {assets : Option Assets} {files : List PageFile}

/-- What is said about the reading of a page. -/
def noted (t : FileTree) (f : PageFile) : List Item := (Reading.ofPath {} t f.path).items f.relative

/-- What a report says of the text of a page, if it can be read. -/
def shown (t : FileTree) (about : Page → List Item) (f : PageFile) : List Item :=
  ((Reading.ofPath {} t f.path).text?.map fun text => about (Page.ofText f.relative text)).getD []

theorem told_eq (t : FileTree) (about : Page → List Item) :
    told t about = fun f => noted t f ++ shown t about f :=
  rfl

theorem noted_headed (t : FileTree) (f : PageFile) :
    ∀ i ∈ noted t f, i.path = some f.relative ∧ i.range = none :=
  Reading.headed _ _

theorem inTurn_listed (t : FileTree) (f : PageFile) :
    InTurn f.relative (noted t f) (shown t listed f) := by
  have headed := noted_headed t f
  unfold shown
  rcases reading : Reading.ofPath {} t f.path with reason | ⟨text, size, replaced⟩
  · exact .of_headed headed
  · have fits := Page.numbersFit_of_reading reading f.relative
    show InTurn f.relative (noted t f) (listed (Page.ofText f.relative text))
    rw [listed]
    split
    · exact .of_headed headed
    · exact Page.inTurn_list headed fits

theorem inTurn_checked (t : FileTree) (f : PageFile) :
    InTurn f.relative (noted t f) (shown t checked f) := by
  have headed := noted_headed t f
  unfold shown
  rcases Reading.ofPath {} t f.path with reason | ⟨text, size, replaced⟩
  · exact .of_headed headed
  · exact Page.inTurn_lint (p := Page.ofText f.relative text) headed

/-- What a build says of the page of a path is told in turn: what is said about its reading, its own item
unless it was passed over, and then the blocks that were left in place. -/
structure BuiltInTurn (path : Text) (b : Built) (page : Option Item) (errors : List Item) : Prop where
  items : b.items = b.warnings ++ page.toList ++ errors
  own : page.isSome = b.output.isSome ∧ ∀ i ∈ page, i.kind = .page
  inTurn : InTurn path (b.warnings ++ page.toList) errors

theorem exists_builtInTurn (t : FileTree) (assets : Option Assets) (f : PageFile) :
    ∃ page errors, BuiltInTurn f.relative (built t assets f) page errors := by
  have headed : ∀ i ∈ (built t assets f).warnings, _ := noted_headed t f
  rcases reading : Reading.ofPath {} t f.path with reason | ⟨text, size, replaced⟩
  · have output : (built t assets f).output = none := by
      rw [built, reading]
      rfl
    refine ⟨none, [], ?_, ?_, ?_⟩
    · simp [Built.items, output]
    · simp [output]
    · exact .of_headed (by simpa using headed)
  · let p := Page.ofText f.relative text
    have fits : p.NumbersFit := Page.numbersFit_of_reading reading f.relative
    have output : (built t assets f).output = some (p.render assets) := by
      rw [built, reading]
      rfl
    refine ⟨some (p.item (p.finalText assets)), _, ?_, ?_, Page.inTurn_render headed fits assets⟩
    · simp only [Built.items, output, List.append_assoc]
      rfl
    · simp [output, Page.item, Item.ofPage]

/-- Pages that are called apart come in ascending order. -/
theorem ascending_of_found {scope exclude : Option Path}
    (found : (Scan.pages t root scope exclude).2 = .ok files)
    (distinct : (files.map PageFile.relative).Nodup) :
    files.Pairwise fun f g => Text.compare f.relative g.relative = .lt := by
  have apart : files.Pairwise fun f g => f.relative ≠ g.relative := List.pairwise_map.1 distinct
  exact ((Scan.pages_sorted found).and apart).imp fun ⟨le, other⟩ => Text.compare_eq_lt le other

/-- There is nothing to sort in a report on pages that come in ascending order. -/
theorem reportOn_eq {about : Page → List Item}
    (ascending : files.Pairwise fun f g => Text.compare f.relative g.relative = .lt)
    (inTurn : ∀ f, InTurn f.relative (noted t f) (shown t about f)) :
    reportOn t about files = files.flatMap fun f => noted t f ++ shown t about f := by
  rw [reportOn, told_eq, List.flatMap_def]
  apply sort_flatten (List.pairwise_map.2 ascending)
  rw [List.forall₂_map_left_iff, List.forall₂_map_right_iff, List.forall₂_same]
  exact fun f _ => ⟨_, _, rfl, inTurn f⟩

/-- Nor is there in the report of a run over such pages, from whatever trees they are read. -/
theorem sort_built {bs : List Built}
    (ascending : files.Pairwise fun f g => Text.compare f.relative g.relative = .lt)
    (each : List.Forall₂ (fun f b => ∃ t', b = built t' assets f) files bs) :
    sort (bs.flatMap Built.items) = bs.flatMap Built.items := by
  rw [List.flatMap_def]
  apply sort_flatten (List.pairwise_map.2 ascending)
  rw [List.forall₂_map_left_iff, List.forall₂_map_right_iff]
  refine each.imp ?_
  rintro f b ⟨t', rfl⟩
  obtain ⟨page, errors, items, -, inTurn⟩ := exists_builtInTurn t' assets f
  exact ⟨_, _, items, inTurn⟩

/-- **Order of reports**: if no two pages are called alike, the reports of the list, of the check and of a
build that is done are what is told about each page, one page after another in the order of the octets of what
they are called, and nothing is sorted any more. About each page, there is first what is said about its
reading, in a build then its own item, and then its blocks or issues by lines that do not decrease. -/
theorem reports_in_order (t : FileTree) (root : Path) :
    (∀ scope files, (Scan.pages t root scope none).2 = .ok files →
      (files.map PageFile.relative).Nodup →
      files.Pairwise (fun f g => f.relative.octets < g.relative.octets) ∧
      (list t root scope).2 = .ok (files.flatMap fun f => noted t f ++ shown t listed f) ∧
      (lint t root scope).2 = .ok (files.flatMap fun f => noted t f ++ shown t checked f) ∧
      ∀ f ∈ files, InTurn f.relative (noted t f) (shown t listed f) ∧
        InTurn f.relative (noted t f) (shown t checked f)) ∧
    ∀ (options : Options) files items stats,
      (Scan.pages t root options.scope (some (root.join options.out))).2 = .ok files →
      (files.map PageFile.relative).Nodup → (build t root options).result = .ok (items, stats) →
      files.Pairwise (fun f g => f.relative.octets < g.relative.octets) ∧
      ∃ bs, (buildPages t (root.join options.out) options.assets files).result = .ok bs ∧
        items = bs.flatMap Built.items ∧
        List.Forall₂ (fun f b => (∃ t', b = built t' options.assets f) ∧
          ∃ page errors, BuiltInTurn f.relative b page errors) files bs := by
  have octets {files : List PageFile}
      (ascending : files.Pairwise fun f g => Text.compare f.relative g.relative = .lt) :
      files.Pairwise fun f g => f.relative.octets < g.relative.octets :=
    ascending.imp Text.octets_lt_iff.2
  constructor
  · intro scope files found distinct
    have ascending := ascending_of_found found distinct
    refine ⟨octets ascending, ?_, ?_, fun f _ => ⟨inTurn_listed t f, inTurn_checked t f⟩⟩
    · rw [← reportOn_eq ascending (inTurn_listed t), list, survey_result, found]
      rfl
    · rw [← reportOn_eq ascending (inTurn_checked t), lint, survey_result, found]
      rfl
  · intro options files items stats found distinct done
    have ascending := ascending_of_found found distinct
    obtain ⟨bs, run, answer, -⟩ := build_done found done
    refine ⟨octets ascending, bs, run, ?_, ?_⟩
    · rw [(Prod.mk.inj answer).1, sort_built ascending (buildPages_built run)]
    · refine (buildPages_built run).imp ?_
      rintro f b ⟨t', rfl⟩
      exact ⟨⟨t', rfl⟩, exists_builtInTurn t' options.assets f⟩

theorem reports_in_order_brokenPages :
    let root : Path := ⟨"/".toList⟩
    let options : Options := { out := ⟨"site".toList⟩ }
    ∃ quizzes issues items stats,
      (list brokenPages root none).2 = .ok quizzes ∧
      quizzes.map (·.path) = [some "a.md".toList, some "b.md".toList] ∧
      (lint brokenPages root none).2 = .ok issues ∧
      issues.map (·.path) = [some "a.md".toList, some "b.md".toList] ∧
      (build brokenPages root options).result = .ok (items, stats) ∧
      items.map (·.kind) = [.page, .error, .error] := by
  intro root options
  let files : List PageFile := [⟨⟨"/a.md".toList⟩, "a.md".toList⟩, ⟨⟨"/b.md".toList⟩, "b.md".toList⟩]
  have distinct : (files.map PageFile.relative).Nodup := by decide
  have found (exclude : Option Path) (all : (brokenPages.entries.filterMap fun e =>
      Scan.pageAt? brokenPages root (Scan.start root none) exclude [] e.1) = files) :
      (Scan.pages brokenPages root none exclude).2 = .ok files := by
    have reached : brokenPages.entryAt (Scan.start root none) = .ok ([], .directory) := by decide +kernel
    unfold Scan.pages
    simp only [reached, all]
    rw [Scan.inOrder_of_sorted (by decide +kernel)]
  obtain ⟨surveys, builds⟩ := reports_in_order brokenPages root
  obtain ⟨-, lists, checks, -⟩ := surveys none files (found none (by decide +kernel)) distinct
  have outside := found (some (root.join options.out)) (by decide +kernel)
  have apart : samePlace brokenPages (root.join (options.scope.getD ⟨[]⟩)) (root.join options.out) =
      false := by
    decide +kernel
  obtain ⟨-, result⟩ := build_of_found apart outside
  have kinds : (buildPages brokenPages (root.join options.out) none files).result.map
      (fun bs => (bs.flatMap Built.items).map (·.kind)) = .ok [.page, .error, .error] := by
    decide +kernel
  rcases run : (buildPages brokenPages (root.join options.out) none files).result with e | bs <;>
    rw [run] at kinds
  · cases kinds
  · rw [run] at result
    obtain ⟨-, bs', run', items, -⟩ := builds options files _ _ outside distinct result
    obtain rfl := Except.ok.inj (run.symm.trans run')
    refine ⟨_, _, _, _, lists, by decide +kernel, checks, by decide +kernel, result, ?_⟩
    rw [items]
    exact Except.ok.inj kinds

end Site
end QuizPages
