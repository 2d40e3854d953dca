import QuizPages.CommandLine.Run
import QuizPages.Proofs.Page.Spots
import QuizPages.Proofs.Scan.Exclusion
import QuizPages.Proofs.Site.Tally

/-!
# Three reports on one tree

The list of quizzes, the check and the build go through a tree on their own: the build leaves out what lies in
its output directory, the list passes over disabled pages, and each words its errors differently. Still a
build that is done has errors at just the spots where the list has them on the pages that were built, and the
check has them all: `reports_agree`. So a tree that passes the strict check is built without failures.
-/

namespace QuizPages.Site

variable {t : FileTree} {root : Path} {assets : Option Assets} {files : List PageFile}

/-! ## Reports page by page -/

/-- What a report says of one page: what is to be said about its reading, then what `about` says. -/
def told (t : FileTree) (about : Page → List Item) (f : PageFile) : List Item :=
  let reading := Reading.ofPath {} t f.path
  reading.items f.relative ++
    (reading.text?.map fun text => about (Page.ofText f.relative text)).getD []

/-- What the list says of a page. -/
def listed (p : Page) : List Item := if p.disabled then [] else p.list

/-- What the check says of a page. -/
def checked (p : Page) : List Item := p.lint.map Issue.item

/-- The report on some pages. -/
def reportOn (t : FileTree) (about : Page → List Item) (files : List PageFile) : List Item :=
  Item.sort (files.flatMap (told t about))

/-- A survey is the report on all pages that are found. -/
theorem survey_result (t : FileTree) (root : Path) (scope : Option Path) (about : Page → List Item) :
    (survey t root scope about).2 = (Scan.pages t root scope none).2.map (reportOn t about) := by
  unfold survey
  rcases Scan.pages t root scope none with ⟨records, e | files⟩
  · rfl
  · show Except.ok _ = Except.ok _
    rw [reportOn, List.flatMap_map]
    congr 2
    apply List.flatMap_congr
    intro f _
    unfold told
    dsimp only
    rcases (Reading.ofPath {} t f.path).text? with - | text
    · exact (List.append_nil _).symm
    · rfl

theorem errorSpots_reportOn (about : Page → List Item) (files : List PageFile) :
    errorSpots (reportOn t about files) = errorSpots (files.flatMap (told t about)) :=
  errorSpots_perm (List.mergeSort_perm _ _)

/-! ## One page -/

/-- Reading a page is no error, whatever is said about it. -/
theorem errorSpots_items_append (r : Reading) (path : Text) (items : List Item) :
    errorSpots (r.items path ++ items) = errorSpots items := by
  rw [errorSpots_append, errorSpots_eq_zero (r.items_filter_isError path), zero_add]

theorem errorSpots_listed (p : Page) (assets : Option Assets) :
    errorSpots (p.render assets).items = errorSpots (listed p) := by
  rcases asks : p.disabled with - | -
  · rw [Page.errorSpots_render_of_enabled asks, listed, asks, if_neg Bool.false_ne_true,
      Page.errorSpots_list]
  · rw [Page.errorSpots_render_of_disabled asks, listed, asks, if_pos rfl]
    rfl

theorem errorSpots_listed_le (p : Page) : errorSpots (listed p) ≤ errorSpots (checked p) := by
  rcases asks : p.disabled with - | -
  · rw [listed, asks, if_neg Bool.false_ne_true, Page.errorSpots_list]
    exact Page.failureSpots_le_lint asks
  · rw [listed, asks, if_pos rfl]
    exact Multiset.zero_le _

/-- A build has the errors of the list on each page, also if the page is passed over, disabled, or read with
pieces replaced. -/
theorem errorSpots_built (t : FileTree) (assets : Option Assets) (f : PageFile) :
    errorSpots (built t assets f).items = errorSpots (told t listed f) := by
  unfold built told Built.items
  dsimp only
  rw [errorSpots_items_append, errorSpots_items_append]
  rcases (Reading.ofPath {} t f.path).text? with - | text
  · rfl
  · exact errorSpots_listed _ assets

theorem errorSpots_told_le (t : FileTree) (f : PageFile) :
    errorSpots (told t listed f) ≤ errorSpots (told t checked f) := by
  unfold told
  dsimp only
  rw [errorSpots_items_append, errorSpots_items_append]
  rcases (Reading.ofPath {} t f.path).text? with - | text
  · exact le_refl _
  · exact errorSpots_listed_le _

/-- A disabled page has no error in any of the reports. -/
theorem errorSpots_of_disabled {f : PageFile} {text : Text}
    (read : (Reading.ofPath {} t f.path).text? = some text)
    (disabled : (Page.ofText f.relative text).disabled = true) (assets : Option Assets) :
    errorSpots (built t assets f).items = 0 ∧ errorSpots (told t listed f) = 0 ∧
      errorSpots (told t checked f) = 0 := by
  have checks : errorSpots (told t checked f) = 0 := by
    unfold told
    dsimp only
    rw [errorSpots_items_append, read]
    show errorSpots (checked (Page.ofText f.relative text)) = 0
    rw [checked, Page.lint_of_disabled disabled]
    rfl
  have lists : errorSpots (told t listed f) = 0 :=
    Multiset.le_zero.1 (checks ▸ errorSpots_told_le t f)
  exact ⟨(errorSpots_built t assets f).trans lists, lists, checks⟩

/-! ## Agreement -/

/-- The strict check of a tree passes if there is no error. -/
theorem lint_passes_iff {scope : Option Path} {issues : List Item}
    (found : (lint t root scope).2 = .ok issues) (style : Report.Style) :
    (CommandLine.lint t root style scope true).failure = none ↔ errorCount issues = 0 := by
  unfold CommandLine.lint
  rcases checks : lint t root scope with ⟨records, result⟩
  rw [checks] at found
  obtain rfl := found
  simp only [Bool.true_and, ite_eq_right_iff, reduceCtorEq, imp_false, bne_iff_ne, not_not]

/-- **Agreement**: after a build that is done, whose pages go to places of their own and to the place of none of
them, the report of the build has errors at the same spots as the list has on the pages that were built, and
the check has errors at all of them. If there is no error for the check, the build has no failures. -/
theorem reports_agree {options : Options} {items : List Item} {stats : Stats}
    (found : (Scan.pages t root options.scope (some (root.join options.out))).2 = .ok files)
    (separate : Separate t (root.join options.out) files)
    (done : (build t root options).result = .ok (items, stats)) :
    ∃ all, (Scan.pages t root options.scope none).2 = .ok all ∧ files.Subperm all ∧
      (list t root options.scope).2 = .ok (reportOn t listed all) ∧
      (lint t root options.scope).2 = .ok (reportOn t checked all) ∧
      items.Perm (files.flatMap fun f => (built t options.assets f).items) ∧
      errorSpots items = errorSpots (reportOn t listed files) ∧
      errorSpots items ≤ errorSpots (reportOn t checked all) ∧
      (∀ style, (CommandLine.lint t root style options.scope true).failure = none ↔
        errorCount (reportOn t checked all) = 0) ∧
      (errorCount (reportOn t checked all) = 0 → stats.failures = 0) ∧
      ∀ f ∈ all, ∀ text, (Reading.ofPath {} t f.path).text? = some text →
        (Page.ofText f.relative text).disabled = true →
        errorSpots (built t options.assets f).items = 0 ∧ errorSpots (told t listed f) = 0 ∧
          errorSpots (told t checked f) = 0 := by
  obtain ⟨all, unrestricted, among⟩ := Scan.pages_subperm found
  obtain ⟨bs, run, -, same, tells, -⟩ := tells_of_found found done
  obtain ⟨rfl, -⟩ := buildPages_delivers (undisturbed_of_found found separate) run
  rw [List.flatMap_map] at same
  have lists : (list t root options.scope).2 = .ok (reportOn t listed all) := by
    rw [list, survey_result, unrestricted]
    rfl
  have checks : (lint t root options.scope).2 = .ok (reportOn t checked all) := by
    rw [lint, survey_result, unrestricted]
    rfl
  have spots : errorSpots items = errorSpots (reportOn t listed files) := by
    rw [errorSpots_perm same, errorSpots_reportOn]
    exact errorSpots_flatMap_congr (errorSpots_built t options.assets) files
  have contained : errorSpots items ≤ errorSpots (reportOn t checked all) := by
    rw [spots, errorSpots_reportOn, errorSpots_reportOn]
    calc errorSpots (files.flatMap (told t listed))
        ≤ errorSpots (files.flatMap (told t checked)) :=
          errorSpots_flatMap_le (errorSpots_told_le t) files
      _ ≤ errorSpots (all.flatMap (told t checked)) :=
          errorSpots_le_of_subperm (flatMap_subperm among _)
  refine ⟨all, unrestricted, among, lists, checks, same, spots, contained, lint_passes_iff checks, ?_, ?_⟩
  · intro clean
    have count := Multiset.card_le_card contained
    rw [card_errorSpots, card_errorSpots, clean] at count
    rw [tells.failures]
    exact Nat.le_zero.1 count
  · intro f _ text read disabled
    exact errorSpots_of_disabled read disabled options.assets

/-- A page with an empty block behind front matter, one that is no text, and an output directory with a page
that a build left there before and with a link at the target of the first page. -/
def brokenBefore : FileTree where
  entries :=
    [(["a.md".toList], .file (Text.octets "---\n---\n<?quiz?>\n<?/quiz?>\n")),
      (["b.md".toList], .file [0]), (["notes.txt".toList], .file [110]), (["site".toList], .directory),
      (["site".toList, "a.md".toList], .link ⟨"../notes.txt".toList⟩),
      (["site".toList, "old.md".toList], .file (Text.octets "<?quiz?>\n<?/quiz?>\n"))]
  current := []
  distinct := by decide
  named := by decide
  rooted := by decide
  closed := by decide

/-- The list tells about the page that was left as well, the build only about those that it was made from. -/
theorem reports_agree_brokenBefore :
    let root : Path := ⟨"/".toList⟩
    let options : Options := { out := ⟨"site".toList⟩ }
    let pages : List PageFile :=
      [⟨⟨"/a.md".toList⟩, "a.md".toList⟩, ⟨⟨"/b.md".toList⟩, "b.md".toList⟩]
    let spot : Spot := ⟨some "a.md".toList, some 3, ["EMPTY_QUIZ".toList]⟩
    ∃ items stats issues, (build brokenBefore root options).result = .ok (items, stats) ∧
      (Scan.pages brokenBefore root options.scope (some (root.join options.out))).2 = .ok pages ∧
      (lint brokenBefore root options.scope).2 = .ok issues ∧
      errorSpots items = {spot} ∧ {spot} ≤ errorSpots issues := by
  intro root options pages spot
  have found : (Scan.pages brokenBefore root options.scope (some (root.join options.out))).2 = .ok pages := by
    have reached : brokenBefore.entryAt root = .ok ([], .directory) := by decide +kernel
    exact Scan.pages_of_sorted reached (by decide +kernel) (by decide +kernel)
  have told_once : errorSpots (reportOn brokenBefore listed pages) = {spot} := by
    rw [errorSpots_reportOn]
    decide +kernel
  obtain ⟨⟨items, stats⟩, done⟩ := exists_answer_of_found (by decide +kernel) found (by decide +kernel)
  obtain ⟨all, -, -, -, checks, -, spots, contained, -⟩ := reports_agree found (by decide +kernel) done
  rw [told_once] at spots
  exact ⟨items, stats, _, done, found, checks, spots, spots ▸ contained⟩

end QuizPages.Site
