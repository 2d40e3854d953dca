import Mathlib.Data.List.Perm.Subperm
import QuizPages.Proofs.Scan.Pages
import QuizPages.Proofs.Sorting

/-!
# What a scan leaves out

A scan that excludes a directory finds some of the pages that are found without it, each as often at most
(`pages_subperm`): a walk that is not stopped goes further. Which pages are left out can be told from their
paths alone. A walk stops at the first excluded path, and all that lies below is excluded with it, so stopping
there leaves out what a filter of all pages would (`pages_excluding`).
-/

namespace QuizPages.Scan

variable {t : FileTree} {root : Path} {scope exclude : Option Path}

/-- A walk also gets along where nothing is excluded. -/
theorem reaches_none {here : Place} {path : Path} {names : List Text}
    (h : reaches t exclude here path names = true) : reaches t none here path names = true := by
  induction names generalizing here path with
  | nil => rfl
  | cons n names ih =>
    rw [reaches] at h ⊢
    simp only [Bool.and_eq_true] at h ⊢
    obtain ⟨⟨passable, -⟩, later⟩ := h
    exact ⟨⟨passable, rfl⟩, ih later⟩

theorem pageAt?_none {start : Path} {here place : Place} {f : PageFile}
    (h : pageAt? t root start exclude here place = some f) :
    pageAt? t root start none here place = some f := by
  unfold pageAt? at h ⊢
  split at h
  · rename_i inside
    rw [if_pos inside]
    dsimp only at h ⊢
    split at h
    · rename_i found
      rw [Bool.and_eq_true] at found
      rw [if_pos (by rw [found.1, reaches_none found.2]; rfl)]
      exact h
    · cases h
  · cases h

/-- What is found in less places is part of what is found in more of them. -/
theorem filterMap_sublist {α β : Type} {less more : α → Option β}
    (h : ∀ a b, less a = some b → more a = some b) (l : List α) :
    (l.filterMap less).Sublist (l.filterMap more) := by
  induction l with
  | nil => exact List.Sublist.slnil
  | cons a l ih =>
    rcases found : less a with - | b
    · rw [List.filterMap_cons_none found, List.filterMap_cons]
      split
      · exact ih
      · exact ih.cons _
    · rw [List.filterMap_cons_some found, List.filterMap_cons_some (h a b found)]
      exact ih.cons_cons b

/-- **Exclusion**: where a scan finds pages, the same scan without an excluded directory finds them too. -/
theorem pages_subperm {files : List PageFile} (found : (pages t root scope exclude).2 = .ok files) :
    ∃ all, (pages t root scope none).2 = .ok all ∧ files.Subperm all := by
  rcases pages_eq_ok found with ⟨place, content, reached, same⟩ | ⟨here, reached, same⟩
  · refine ⟨files, ?_, List.Subperm.refl files⟩
    unfold pages
    simp only [reached]
    rw [same]
  · refine ⟨inOrder (t.entries.filterMap fun e => pageAt? t root (start root scope) none here e.1), ?_, ?_⟩
    · rw [pages_of_directory reached]
    · have less : (t.entries.filterMap fun e => pageAt? t root (start root scope) exclude here e.1).Sublist
          (t.entries.filterMap fun e => pageAt? t root (start root scope) none here e.1) :=
        filterMap_sublist (fun e f => pageAt?_none) t.entries
      rw [same]
      exact (List.mergeSort_perm _ _).subperm.trans
        (less.subperm.trans (List.mergeSort_perm _ _).symm.subperm)

/-! ## Exclusion as a filter -/

/-- A walk is only stopped by what is above the place it goes to, and all of that is outside if the place
itself is. -/
theorem reaches_of_outside {out : Path} {here : Place} {path : Path} {names : List Text}
    (h : reaches t none here path names = true) (named : ∀ n ∈ names, Path.IsName n)
    (outside : ¬ (pathAlong path names).startsWith out = true) :
    reaches t (some out) here path names = true := by
  induction names generalizing here path with
  | nil => rfl
  | cons n names ih =>
    rw [reaches] at h ⊢
    simp only [Bool.and_eq_true, Bool.not_eq_true', Option.any_some] at h ⊢
    obtain ⟨⟨passable, -⟩, later⟩ := h
    have named_later : ∀ m ∈ names, Path.IsName m := fun m mem => named m (List.mem_cons_of_mem n mem)
    have first_outside : (path.join ⟨n⟩).startsWith out = false := by
      rw [Bool.eq_false_iff]
      intro inside
      have below : (pathAlong (path.join ⟨n⟩) names).startsWith out = true :=
        startsWith_pathAlong inside named_later
      exact outside below
    exact ⟨⟨passable, first_outside⟩, ih later named_later outside⟩

/-- Where a path is excluded, a walk reaches what it reaches otherwise and is outside. -/
theorem reaches_excluding {out : Path} {here : Place} {path : Path} {names : List Text}
    (named : ∀ n ∈ names, Path.IsName n) (moved : names ≠ []) :
    reaches t (some out) here path names =
      (reaches t none here path names && !(pathAlong path names).startsWith out) := by
  rw [Bool.eq_iff_iff, Bool.and_eq_true, Bool.not_eq_true', ← Bool.not_eq_true]
  constructor
  · intro h
    exact ⟨reaches_none h, not_startsWith_of_reaches h moved⟩
  · rintro ⟨h, outside⟩
    exact reaches_of_outside h named outside

/-- At each place, exclusion takes away the page whose path is excluded and no other. -/
theorem pageAt?_excluding {start out : Path} {here place : Place} (named : ∀ n ∈ place, Path.IsName n) :
    pageAt? t root start (some out) here place =
      (pageAt? t root start none here place).filter fun f => !f.path.startsWith out := by
  unfold pageAt?
  split
  · rename_i below
    simp only [Bool.and_eq_true, decide_eq_true_eq] at below
    have moved : place.drop here.length ≠ [] := by
      rw [← List.length_pos_iff, List.length_drop]
      omega
    have named_rest : ∀ n ∈ place.drop here.length, Path.IsName n := fun n mem =>
      named n (List.mem_of_mem_drop mem)
    simp only [reaches_excluding named_rest moved, ← Bool.and_assoc]
    -- Both sides ask whether a page is found without the exclusion.
    generalize ((t.content? place).isSome && (pathAlong start (place.drop here.length)).isPage &&
      reaches t none here start (place.drop here.length)) = found
    cases found with
    | false => rfl
    | true => rw [Bool.true_and, if_pos rfl, Option.filter_some]
  · rfl

/-- Pages in order without some of them are the others in order. -/
theorem filter_inOrder (p : PageFile → Bool) (files : List PageFile) :
    (inOrder files).filter p = inOrder (files.filter p) := by
  apply filter_mergeSort
  · intro f g h
    exact Text.le_trans
  · intro f g
    exact Text.le_total _ _

/-- **Exclusion as a filter**: below a directory, a scan that never enters what is excluded finds the pages
of the scan that goes everywhere whose paths are not excluded, in the same order. -/
theorem pages_excluding (directory : t.hasDirectory (start root scope) = true)
    (out : Path) :
    ∃ records all, pages t root scope none = (records, .ok all) ∧
      pages t root scope (some out) =
        (records, .ok (all.filter fun f => !f.path.startsWith out)) := by
  obtain ⟨here, reached⟩ := FileTree.entryAt_of_hasDirectory directory
  have each : ∀ e ∈ t.entries, pageAt? t root (start root scope) (some out) here e.1 =
      (pageAt? t root (start root scope) none here e.1).filter fun f => !f.path.startsWith out := by
    intro e mem
    apply pageAt?_excluding
    exact t.named e.1 (List.mem_map_of_mem mem)
  refine ⟨Scan.records t here, _, pages_of_directory reached, ?_⟩
  rw [pages_of_directory reached, filter_inOrder, List.filter_filterMap, List.filterMap_congr each]

/-- Pages with a site among them, and a page beside it that is called almost alike. -/
def siteInDocs : FileTree where
  entries :=
    [(["docs".toList], .directory),
      (["docs".toList, "a.md".toList], .file []),
      (["docs".toList, "site.md".toList], .file []),
      (["docs".toList, "site".toList], .directory),
      (["docs".toList, "site".toList, "a.md".toList], .file []),
      (["docs".toList, "site".toList, "old".toList], .directory),
      (["docs".toList, "site".toList, "old".toList, "b.md".toList], .file [])]
  current := []
  distinct := by decide
  named := by decide
  rooted := by decide
  closed := by decide

theorem pages_excluding_siteInDocs :
    let root : Path := ⟨"/".toList⟩
    let scope : Option Path := some ⟨"docs".toList⟩
    siteInDocs.hasDirectory (start root scope) = true ∧
      pages siteInDocs root scope none =
        ([], .ok [⟨⟨"/docs/a.md".toList⟩, "docs/a.md".toList⟩,
          ⟨⟨"/docs/site.md".toList⟩, "docs/site.md".toList⟩,
          ⟨⟨"/docs/site/a.md".toList⟩, "docs/site/a.md".toList⟩,
          ⟨⟨"/docs/site/old/b.md".toList⟩, "docs/site/old/b.md".toList⟩]) ∧
      pages siteInDocs root scope (some ⟨"/docs/site".toList⟩) =
        ([], .ok [⟨⟨"/docs/a.md".toList⟩, "docs/a.md".toList⟩,
          ⟨⟨"/docs/site.md".toList⟩, "docs/site.md".toList⟩]) := by
  intro root scope
  have directory : siteInDocs.hasDirectory (start root scope) = true := by decide +kernel
  let files : List PageFile := [⟨⟨"/docs/a.md".toList⟩, "docs/a.md".toList⟩,
    ⟨⟨"/docs/site.md".toList⟩, "docs/site.md".toList⟩,
    ⟨⟨"/docs/site/a.md".toList⟩, "docs/site/a.md".toList⟩,
    ⟨⟨"/docs/site/old/b.md".toList⟩, "docs/site/old/b.md".toList⟩]
  have whole : pages siteInDocs root scope none = ([], .ok files) := by
    have reached : siteInDocs.entryAt (start root scope) = .ok (["docs".toList], .directory) := by
      decide +kernel
    have quiet : records siteInDocs ["docs".toList] = [] := by decide +kernel
    have all : (siteInDocs.entries.filterMap fun e =>
        pageAt? siteInDocs root (start root scope) none ["docs".toList] e.1) = files := by
      decide +kernel
    rw [pages_of_directory reached, quiet, all, inOrder_of_sorted (by decide +kernel)]
  obtain ⟨records, all, unrestricted, restricted⟩ :=
    pages_excluding directory ⟨"/docs/site".toList⟩
  rw [whole] at unrestricted
  obtain ⟨rfl, same⟩ := Prod.mk.inj unrestricted
  obtain rfl := Except.ok.inj same
  refine ⟨directory, whole, ?_⟩
  rw [restricted]
  decide +kernel

end QuizPages.Scan
