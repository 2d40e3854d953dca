import QuizPages.Proofs.Site.Effect

/-!
# The layout of the output

The output directory mirrors the scanned one: pages that are called by their paths below the root go to
different places, all below the output directory (`targets_mirror`). A page that is called otherwise can
get in the way of another one: a `\` in a name is shown as a separator, and then two pages are called
alike (`build_merges_pages`).
-/

namespace QuizPages.Site

open FileTree

variable {t : FileTree} {root out : Path} {files : List PageFile}

/-- The target of a page goes on from the image of the scanned path as the page does from that path. -/
theorem exists_names_of_found {options : Options}
    (below : (Scan.start root options.scope).startsWith root = true)
    (found : (Scan.pages t root options.scope (some (root.join options.out))).2 = .ok files)
    (called : Scan.CalledBelow root files) {f : PageFile} (mem : f ∈ files) :
    ∃ names, f.path.placeFrom t.current = (Scan.start root options.scope).placeFrom t.current ++ names ∧
      target (root.join options.out) t.current f =
        image root (Scan.start root options.scope) (root.join options.out) t.current ++ names := by
  rw [target, placeFrom_target (called f mem)]
  rcases Scan.pages_cases found with ⟨place, content, -, all⟩ | ⟨here, -, all⟩
  · rw [all f mem]
    exact ⟨[], (List.append_nil _).symm, (List.append_nil _).symm⟩
  · obtain ⟨names, -, proper, -, same, -⟩ := all f mem
    rw [same]
    exact ⟨names, Path.placeFrom_pathAlong proper _ _, image_pathAlong below proper _ _⟩

theorem pairwise_target {options : Options}
    (below : (Scan.start root options.scope).startsWith root = true)
    (found : (Scan.pages t root options.scope (some (root.join options.out))).2 = .ok files)
    (called : Scan.CalledBelow root files) :
    files.Pairwise fun f g =>
      target (root.join options.out) t.current f ≠ target (root.join options.out) t.current g := by
  refine (Scan.pages_pairwise found).imp_of_mem fun {f g} mem mem' apart same => apart ?_
  obtain ⟨names, place, to_place⟩ := exists_names_of_found below found called mem
  obtain ⟨names', place', to_place'⟩ := exists_names_of_found below found called mem'
  rw [to_place, to_place', List.append_cancel_left_eq] at same
  rw [place, place', same]

/-- **Mirror**: pages that are called by their paths below the root go to different places, and below the
output directory if the scanned directory does. -/
theorem targets_mirror {options : Options}
    (below : (Scan.start root options.scope).startsWith root = true)
    (found : (Scan.pages t root options.scope (some (root.join options.out))).2 = .ok files)
    (called : Scan.CalledBelow root files)
    (inside : (root.join options.out).placeFrom t.current <+:
      image root (Scan.start root options.scope) (root.join options.out) t.current) :
    (∀ f ∈ files, (root.join options.out).placeFrom t.current <+:
      target (root.join options.out) t.current f) ∧
    files.Pairwise fun f g =>
      target (root.join options.out) t.current f ≠ target (root.join options.out) t.current g := by
  constructor
  · intro f mem
    obtain ⟨names, -, same⟩ := exists_names_of_found below found called mem
    rw [same]
    exact inside.trans (List.prefix_append _ names)
  · exact pairwise_target below found called

/-- Two pages in a directory, one of which is no text. -/
def pageAndBinary : FileTree where
  entries :=
    [(["r".toList], .directory), (["r".toList, "docs".toList], .directory),
      (["r".toList, "docs".toList, "a.md".toList], .file [120]),
      (["r".toList, "docs".toList, "b.md".toList], .file [0])]
  current := []
  distinct := by decide
  named := by decide
  rooted := by decide
  closed := by decide

/-- The pages of `pageAndBinary`. -/
def pageAndBinaryPages : List PageFile :=
  [⟨⟨"/r/docs/a.md".toList⟩, "docs/a.md".toList⟩, ⟨⟨"/r/docs/b.md".toList⟩, "docs/b.md".toList⟩]

theorem targets_mirror_pageAndBinary :
    let root : Path := ⟨"/r".toList⟩
    let options : Options := { scope := some ⟨"docs".toList⟩, out := ⟨"site".toList⟩ }
    let out := root.join options.out
    (Scan.pages pageAndBinary root options.scope (some out)).2 = .ok pageAndBinaryPages ∧
      (∀ f ∈ pageAndBinaryPages, ["r".toList, "site".toList] <+: target out [] f) ∧
      pageAndBinaryPages.Pairwise fun f g => target out [] f ≠ target out [] g := by
  intro root options out
  have found : (Scan.pages pageAndBinary root options.scope (some out)).2 = .ok pageAndBinaryPages := by
    have reached : pageAndBinary.entryAt (Scan.start root options.scope) =
        .ok (["r".toList, "docs".toList], .directory) := by
      decide +kernel
    exact Scan.pages_of_sorted reached (by decide +kernel) (by decide +kernel)
  exact ⟨found, targets_mirror (by decide) found (by decide) (by decide)⟩

/-- A page in a directory, and one whose name is written like its path. -/
def twoPages : FileTree where
  entries :=
    [(["docs".toList], .directory), (["docs".toList, "a".toList], .directory),
      (["docs".toList, "a".toList, "b.md".toList], .file [120]),
      (["docs".toList, "a\\b.md".toList], .file [121])]
  current := []
  distinct := by decide
  named := by decide
  rooted := by decide
  closed := by decide

/-- Two pages with different texts go to one file, and the text of only one of them is there after the
build, which is done. -/
theorem build_merges_pages :
    let root : Path := ⟨"/".toList⟩
    let options : Options := { scope := some ⟨"docs".toList⟩, out := ⟨"site".toList⟩ }
    let first : PageFile := ⟨⟨"/docs/a/b.md".toList⟩, "docs/a/b.md".toList⟩
    let second : PageFile := ⟨⟨"/docs/a\\b.md".toList⟩, "docs/a/b.md".toList⟩
    (Scan.pages twoPages root options.scope (some (root.join options.out))).2 = .ok [first, second] ∧
      (build twoPages root options).result.isOk = true ∧
      twoPages.read first.path = .ok [120] ∧ twoPages.read second.path = .ok [121] ∧
      target (root.join options.out) [] first = target (root.join options.out) [] second ∧
      (build twoPages root options).tree.read ⟨"/site/docs/a/b.md".toList⟩ = .ok [121] := by
  intro root options first second
  have found : (Scan.pages twoPages root options.scope (some (root.join options.out))).2 =
      .ok [first, second] := by
    have reached : twoPages.entryAt (Scan.start root options.scope) = .ok (["docs".toList], .directory) := by
      decide +kernel
    exact Scan.pages_of_sorted reached (by decide +kernel) (by decide +kernel)
  obtain ⟨tree, result⟩ := build_of_found (by decide +kernel) found
  refine ⟨found, ?_, by decide +kernel, by decide +kernel, by decide +kernel, ?_⟩
  · rw [result]
    decide +kernel
  · rw [tree]
    decide +kernel

end QuizPages.Site
