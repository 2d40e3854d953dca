import Mathlib.Algebra.GroupWithZero.Nat
import Mathlib.Data.List.Forall2
import QuizPages.Proofs.Site.Effect

/-!
# What a build counts

A build tells twice what became of its pages: the statistics count page by page, and the report gathers the
items of all pages and sorts them. Each page adds the same to both (`Stats.Tells.record`), so both tell the
same in the end: `build_tells`.
-/

namespace QuizPages

/-- Whether an item stands for a page. -/
def Item.isPage (i : Item) : Bool := i.kind == .page

/-! ## The items of a page -/

theorem Reading.items_filter_isPage (r : Reading) (path : Text) :
    (r.items path).filter Item.isPage = [] := by
  refine List.filter_eq_nil_iff.2 fun i hi => ?_
  obtain ⟨fault, -, rfl⟩ := List.mem_map.1 hi
  exact Bool.false_ne_true

/-- What is said about a reading is no error. -/
theorem Reading.items_filter_isError (r : Reading) (path : Text) :
    (r.items path).filter Item.isError = [] := by
  refine List.filter_eq_nil_iff.2 fun i hi => ?_
  obtain ⟨fault, -, rfl⟩ := List.mem_map.1 hi
  exact Bool.false_ne_true

/-- The report on a rendered page has one item for the page itself. -/
theorem Page.render_filter_isPage (p : Page) (assets : Option Assets) :
    (p.render assets).items.filter Item.isPage = [p.item (p.finalText assets)] := by
  rw [render, List.filter_cons_of_pos rfl, List.filter_eq_nil_iff.2]
  intro i hi
  obtain ⟨⟨o, e⟩, -, rfl⟩ := List.mem_map.1 hi
  exact Bool.false_ne_true

theorem errorCount_append (items later : List Item) :
    errorCount (items ++ later) = errorCount items + errorCount later := by
  rw [errorCount, List.filter_append, List.length_append, errorCount, errorCount]

namespace Site

variable {t : FileTree} {root out : Path} {assets : Option Assets} {files : List PageFile}

/-! ## One page -/

/-- What a page adds to the report of a build: a page that is passed over adds one warning with its path;
any other page adds one item for itself, which says what the statistics count, and one error for each block
that was left in place. -/
inductive Contributes (f : PageFile) (b : Built) : Prop
  | skipped (reason : Skip) (output : b.output = none)
      (items : b.items =
        [{ Item.ofFault .warning ⟨reason.code, reason.message⟩ with path := some f.relative }])
  | rendered (o : PageOutput) (page : Item) (output : b.output = some o)
      (item : b.items.filter Item.isPage = [page])
      (path : page.path = some f.relative)
      (quizzes : page.facts.quizzes = some o.rendered)
      (disabled : page.facts.disabled = o.disabled)
      (failures : errorCount b.items = o.failures)

theorem contributes_built (t : FileTree) (assets : Option Assets) (f : PageFile) :
    Contributes f (built t assets f) := by
  unfold built
  rcases Reading.ofPath {} t f.path with reason | ⟨text, size, replaced⟩
  · exact .skipped reason rfl rfl
  · let r : Reading := .loaded text size replaced
    let p := Page.ofText f.relative text
    have items : Built.items ⟨r.items f.relative, some (p.render assets)⟩ =
        r.items f.relative ++ (p.render assets).items := rfl
    refine .rendered (p.render assets) (p.item (p.finalText assets)) rfl ?_ rfl rfl rfl ?_
    · show (Built.items ⟨r.items f.relative, some (p.render assets)⟩).filter Item.isPage = _
      rw [items, List.filter_append, Reading.items_filter_isPage, Page.render_filter_isPage]
      rfl
    · show errorCount (Built.items ⟨r.items f.relative, some (p.render assets)⟩) = _
      rw [items, errorCount_append, errorCount, Reading.items_filter_isError]
      exact Nat.zero_add _

/-! ## One page after another -/

/-- Whether statistics and a report tell the same about a number of pages. -/
structure Stats.Tells (s : Stats) (items : List Item) (scanned : Nat) : Prop where
  pages : s.pages = (items.filter Item.isPage).length
  scanned : s.pages + s.skipped = scanned
  /-- Each item of a page says how many quizzes were rendered. -/
  counted : ∀ i ∈ items.filter Item.isPage, i.facts.quizzes.isSome = true
  quizzes : s.quizzes =
    ((items.filter Item.isPage).map fun i => (i.facts.quizzes.getD 0).toNat).sum
  disabled : s.disabled = ((items.filter Item.isPage).filter (·.facts.disabled)).length
  failures : s.failures = errorCount items

theorem Stats.Tells.nothing : Stats.Tells {} [] 0 where
  pages := rfl
  scanned := rfl
  counted _ hi := absurd hi List.not_mem_nil
  quizzes := rfl
  disabled := rfl
  failures := rfl

/-- **Step**: a page adds the same to the statistics and to the report. -/
theorem Stats.Tells.record {s : Stats} {items : List Item} {n : Nat} (h : s.Tells items n)
    {f : PageFile} {b : Built} (page : Contributes f b) :
    (s.record b).Tells (items ++ b.items) (n + 1) := by
  obtain ⟨pages, scanned, counted, quizzes, disabled, failures⟩ := h
  cases page with
  | skipped reason output added =>
    have recorded : s.record b = { s with skipped := s.skipped + 1 } := by
      rw [Stats.record, output]
    have same : (items ++ b.items).filter Item.isPage = items.filter Item.isPage := by
      rw [added, List.filter_append]
      exact List.append_nil _
    have fine : errorCount b.items = 0 := by
      rw [added]
      rfl
    rw [recorded]
    refine ⟨?_, ?_, ?_, ?_, ?_, ?_⟩
    · rw [same]
      exact pages
    · dsimp only
      omega
    · rw [same]
      exact counted
    · rw [same]
      exact quizzes
    · rw [same]
      exact disabled
    · rw [errorCount_append, fine]
      exact failures
  | rendered o page output item path rendered asks left =>
    have recorded : s.record b = { s with
        pages := s.pages + 1
        quizzes := s.quizzes + o.rendered.toNat
        failures := s.failures + o.failures
        disabled := s.disabled + (if o.disabled then 1 else 0) } := by
      rw [Stats.record, output]
    have more : (items ++ b.items).filter Item.isPage = items.filter Item.isPage ++ [page] := by
      rw [List.filter_append, item]
    rw [recorded]
    refine ⟨?_, ?_, ?_, ?_, ?_, ?_⟩
    · rw [more, List.length_append, ← pages]
      rfl
    · dsimp only
      omega
    · intro i hi
      rw [more] at hi
      rcases List.mem_append.1 hi with before | last
      · exact counted i before
      · rw [List.mem_singleton.1 last, rendered]
        rfl
    · rw [more, List.map_append, List.sum_append, ← quizzes]
      simp [rendered]
    · rw [more, List.filter_append, List.length_append, ← disabled, List.filter_singleton, asks]
      cases o.disabled <;> rfl
    · rw [errorCount_append, ← failures, left]

/-- **Run**: so do pages one after another. -/
theorem Stats.Tells.foldl {s : Stats} {items : List Item} {n : Nat} (h : s.Tells items n)
    {bs : List Built} (each : List.Forall₂ Contributes files bs) :
    (bs.foldl Stats.record s).Tells (items ++ bs.flatMap Built.items) (n + files.length) := by
  induction each generalizing s items n with
  | nil => simpa using h
  | @cons f b files bs first rest ih =>
    have later := ih (h.record first)
    rw [List.append_assoc] at later
    rw [List.length_cons, Nat.add_comm files.length, ← Nat.add_assoc]
    exact later

theorem Stats.skipped_foldl (s : Stats) (bs : List Built) :
    (bs.foldl record s).skipped = s.skipped + (bs.filter (·.output.isNone)).length := by
  induction bs generalizing s with
  | nil => rfl
  | cons b bs ih =>
    rw [List.foldl_cons, ih, record, List.filter_cons]
    rcases b.output with - | o
    · simp only [Option.isNone_none, if_true, List.length_cons]
      omega
    · rfl

/-- The order of a report does not matter. -/
theorem Stats.Tells.perm {s : Stats} {items items' : List Item} {n : Nat} (h : s.Tells items n)
    (same : items'.Perm items) : s.Tells items' n where
  pages := by rw [h.pages, (same.filter _).length_eq]
  scanned := h.scanned
  counted i hi := h.counted i ((same.filter _).mem_iff.1 hi)
  quizzes := by rw [h.quizzes, ((same.filter _).map _).sum_nat]
  disabled := by rw [h.disabled, ((same.filter _).filter _).length_eq]
  failures := by rw [h.failures, errorCount, errorCount, (same.filter _).length_eq]

/-- Each page contributes to a run that is done, also if pages get in each other's way. -/
theorem buildPages_contributes {bs : List Built}
    (done : (buildPages t out assets files).result = .ok bs) : List.Forall₂ Contributes files bs := by
  refine (buildPages_built done).imp ?_
  rintro f b ⟨t', rfl⟩
  exact contributes_built t' assets f

/-! ## A build -/

theorem tells_of_found {options : Options} {items : List Item} {stats : Stats}
    (found : (Scan.pages t root options.scope (some (root.join options.out))).2 = .ok files)
    (done : (build t root options).result = .ok (items, stats)) :
    ∃ bs, (buildPages t (root.join options.out) options.assets files).result = .ok bs ∧
      List.Forall₂ Contributes files bs ∧
      items.Perm (bs.flatMap Built.items) ∧
      stats.Tells items files.length ∧
      stats.skipped = (bs.filter (·.output.isNone)).length := by
  obtain ⟨bs, run, answer, -⟩ := build_done found done
  obtain ⟨rfl, rfl⟩ := Prod.mk.inj answer
  have each := buildPages_contributes run
  have sorted : (Item.sort (bs.flatMap Built.items)).Perm (bs.flatMap Built.items) :=
    List.mergeSort_perm _ _
  refine ⟨bs, run, each, sorted, Stats.Tells.perm ?_ sorted, ?_⟩
  · simpa [Stats.ofBuilt] using Stats.Tells.nothing.foldl each
  · rw [Stats.ofBuilt, Stats.skipped_foldl]
    exact Nat.zero_add _

/-- **Tally**: after a build that is done, statistics and report tell the same about the pages that were
found. The report has what each of them contributes, and nothing else. -/
theorem build_tells {options : Options} {items : List Item} {stats : Stats}
    (done : (build t root options).result = .ok (items, stats)) :
    ∃ files bs,
      (Scan.pages t root options.scope (some (root.join options.out))).2 = .ok files ∧
      (buildPages t (root.join options.out) options.assets files).result = .ok bs ∧
      List.Forall₂ Contributes files bs ∧
      items.Perm (bs.flatMap Built.items) ∧
      stats.Tells items files.length ∧
      stats.skipped = (bs.filter (·.output.isNone)).length := by
  rcases build_cases t root options with ⟨failed, -⟩ | ⟨failed, -⟩ | ⟨files, found, -⟩
  · rw [failed] at done
    cases done
  · rw [failed] at done
    cases done
  · obtain ⟨bs, all⟩ := tells_of_found found done
    exact ⟨files, bs, found, all⟩

/-- A page with an empty block, and one that is no text. -/
def brokenPages : FileTree where
  entries :=
    [(["a.md".toList], .file (Text.octets "<?quiz?>\n<?/quiz?>\n")), (["b.md".toList], .file [0])]
  current := []
  distinct := by decide
  named := by decide
  rooted := by decide
  closed := by decide

theorem build_tells_brokenPages :
    let root : Path := ⟨"/".toList⟩
    let options : Options := { out := ⟨"site".toList⟩ }
    ∃ items stats, (build brokenPages root options).result = .ok (items, stats) ∧
      stats = { pages := 1, skipped := 1, failures := 1 } ∧ stats.Tells items 2 ∧
      errorCount items = 1 := by
  intro root options
  let files : List PageFile := [⟨⟨"/a.md".toList⟩, "a.md".toList⟩,
    ⟨⟨"/b.md".toList⟩, "b.md".toList⟩]
  have found : (Scan.pages brokenPages root options.scope (some (root.join options.out))).2 = .ok files := by
    have reached : brokenPages.entryAt (Scan.start root options.scope) = .ok ([], .directory) := by
      decide +kernel
    have all : (brokenPages.entries.filterMap fun e => Scan.pageAt? brokenPages root
        (Scan.start root options.scope) (some (root.join options.out)) [] e.1) = files := by
      decide +kernel
    unfold Scan.pages
    simp only [reached, all]
    rw [Scan.inOrder_of_sorted (by decide +kernel)]
  obtain ⟨-, result⟩ := build_of_found (by decide +kernel) found
  have counted : (buildPages brokenPages (root.join options.out) options.assets files).result.map
      Stats.ofBuilt = .ok { pages := 1, skipped := 1, failures := 1 } := by
    decide +kernel
  rcases run : (buildPages brokenPages (root.join options.out) options.assets files).result with e | bs <;>
    rw [run] at counted result
  · cases counted
  · obtain ⟨files, bs', found', -, -, -, tells, -⟩ := build_tells result
    obtain rfl := Except.ok.inj (found.symm.trans found')
    have stats := Except.ok.inj counted
    refine ⟨_, _, result, stats, tells, ?_⟩
    rw [← tells.failures, stats]

end Site
end QuizPages
