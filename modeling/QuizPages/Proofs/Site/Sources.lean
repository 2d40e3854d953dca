import QuizPages.Proofs.FileTree.Writing
import QuizPages.Proofs.Scan.Pages
import QuizPages.Site

/-!
# What a build leaves alone

A build writes one file for each page, where the path of its target leads, and changes no other file
(`changes_build`). So it can only damage a page that it found if the target of a page is at the place of
such a page. The guard of a build compares the scanned directory with the output directory and a walk
stops at paths that begin with that of the output directory, while targets are where the output
directory and the path below the root lead together: `build_keeps_pages` tells when the three agree, in
trees without links.
-/

namespace QuizPages

namespace Site

open FileTree

variable {t t' : FileTree} {root out : Path}

/-! ## What a build changes -/

theorem changes_buildPage (t : FileTree) (out : Path) (assets : Option Assets) (f : PageFile) :
    Changes (t.LeadsThrough (out.join ⟨f.relative⟩)) (t.leads (out.join ⟨f.relative⟩) = some ·) t
      (buildPage t out assets f).tree := by
  unfold buildPage
  dsimp only
  split
  · exact .refl _ _ t
  · exact changes_deliver t _ _

/-- Whether a place is on the way to the target of one of some pages. -/
def OnWay (t : FileTree) (out : Path) (files : List PageFile) (place : Place) : Prop :=
  ∃ f ∈ files, t.LeadsThrough (out.join ⟨f.relative⟩) place

/-- Whether the target of one of some pages is at a place, links gone along. -/
def IsTarget (t : FileTree) (out : Path) (files : List PageFile) (place : Place) : Prop :=
  ∃ f ∈ files, t.leads (out.join ⟨f.relative⟩) = some place

instance (t : FileTree) (out : Path) (files : List PageFile) (place : Place) :
    Decidable (IsTarget t out files place) :=
  inferInstanceAs (Decidable (∃ f ∈ files, t.leads (out.join ⟨f.relative⟩) = some place))

theorem onWay_of_changes {way written : Place → Prop} (h : Changes way written t t')
    {files : List PageFile} {place : Place} : OnWay t' out files place ↔ OnWay t out files place := by
  simp only [OnWay, h.same_leadsThrough]

theorem isTarget_of_changes {way written : Place → Prop} (h : Changes way written t t')
    {files : List PageFile} {place : Place} : IsTarget t' out files place ↔ IsTarget t out files place := by
  simp only [IsTarget, h.same_leads]

theorem OnWay.mono {files more : List PageFile} (sub : files ⊆ more) {place : Place}
    (h : OnWay t out files place) : OnWay t out more place := by
  obtain ⟨f, mem, through⟩ := h
  exact ⟨f, sub mem, through⟩

theorem IsTarget.mono {files more : List PageFile} (sub : files ⊆ more) {place : Place}
    (h : IsTarget t out files place) : IsTarget t out more place := by
  obtain ⟨f, mem, led⟩ := h
  exact ⟨f, sub mem, led⟩

theorem changes_buildPages (t : FileTree) (out : Path) (assets : Option Assets) (files : List PageFile) :
    Changes (OnWay t out files) (IsTarget t out files) t (buildPages t out assets files).tree := by
  induction files generalizing t with
  | nil => exact .refl _ _ t
  | cons f files ih =>
    have first : Changes (OnWay t out (f :: files)) (IsTarget t out (f :: files)) t
        (buildPage t out assets f).tree :=
      (changes_buildPage t out assets f).mono (fun q through => ⟨f, List.mem_cons_self, through⟩)
        fun q same => ⟨f, List.mem_cons_self, same⟩
    rw [buildPages]
    dsimp only
    split
    · exact first
    · have rest := ih (buildPage t out assets f).tree
      have later : files ⊆ f :: files := List.subset_cons_self f files
      exact first.trans (rest.mono (fun q way => ((onWay_of_changes first).1 way).mono later)
        fun q written => ((isTarget_of_changes first).1 written).mono later)

/-- **Frame**: a build makes directories on the way to the targets of the pages that it found, and
changes no file but those targets. -/
theorem changes_build {options : Options} {files : List PageFile}
    (found : (Scan.pages t root options.scope (some (root.join options.out))).2 = .ok files) :
    Changes (OnWay t (root.join options.out) files) (IsTarget t (root.join options.out) files) t
      (build t root options).tree := by
  unfold build
  dsimp only
  split
  · exact .refl _ _ t
  · rcases scanned : Scan.pages t root options.scope (some (root.join options.out)) with ⟨records, files'⟩
    rw [scanned] at found
    obtain rfl := found
    exact changes_buildPages t _ _ files

/-! ## Where the pages go -/

/-- Where a page goes, if no link is met. -/
def target (out : Path) (current : Place) (f : PageFile) : Place :=
  (out.join ⟨f.relative⟩).placeFrom current

/-- Where a build puts what is found at a path: as it lies below the root, so below the output
directory. -/
def image (root p out : Path) (current : Place) : Place :=
  (p.components.drop root.components.length).foldl Place.follow (out.placeFrom current)

/-- The target of a page is at the image of its path. -/
theorem placeFrom_target {p : Path} {relative : Text}
    (called : (Path.after? root p).map Path.text = some relative) (out : Path) (current : Place) :
    (out.join ⟨relative⟩).placeFrom current = image root p out current := by
  obtain ⟨r, found, rfl⟩ := Option.map_eq_some_iff.1 called
  rw [Path.placeFrom_join, Path.placeFrom, image, Path.components_of_after? found, List.drop_left]

theorem image_pathAlong {source : Path} {names : List Text} (below : source.startsWith root = true)
    (named : ∀ n ∈ names, Path.IsName n) (out : Path) (current : Place) :
    image root (Scan.pathAlong source names) out current = image root source out current ++ names := by
  have fits : root.components.length ≤ source.components.length :=
    (List.isPrefixOf_iff_prefix.1 below).length_le
  rw [image, Path.components_pathAlong named, List.drop_append_of_le_length fits, List.foldl_append,
    Path.foldl_follow_names, image]

/-- When the output of a build stays clear of the pages that it is made from. -/
inductive Clear (t : FileTree) (root source out : Path) : Prop
  /-- Neither the scanned directory nor its image lies within the other. -/
  | apart (directory : t.hasDirectory source = true)
      (outside : ¬ source.placeFrom t.current <+: image root source out t.current)
      (around : ¬ image root source out t.current <+: source.placeFrom t.current)
  /-- The paths of the scanned directory and of the output directory go on from a common beginning by
  names, so the walk knows the output directory when it comes there. -/
  | along (directory : t.hasDirectory source = true) {base : List Path.Component} {s o : List Text}
      (source_eq : source.components = base ++ s.map .name)
      (out_eq : out.components = base ++ o.map .name)
      (inside : out.placeFrom t.current <+: image root source out t.current)
  /-- A single page goes to another place. -/
  | single (file : t.hasDirectory source = false)
      (elsewhere : image root source out t.current ≠ source.placeFrom t.current)

/-- The output stays clear of the pages if both directories lie below the root by names. -/
theorem clear_of_names {source : Path} {s o : List Text} (directory : t.hasDirectory source = true)
    (source_eq : source.components = root.components ++ s.map .name)
    (out_eq : out.components = root.components ++ o.map .name) : Clear t root source out := by
  refine .along directory source_eq out_eq ?_
  rw [image, source_eq, List.drop_left, Path.foldl_follow_names]
  exact List.prefix_append _ s

/-- A target below the image of the scanned directory is at no place that a walk finds. -/
theorem Clear.target_ne {source : Path} (h : Clear t root source out)
    (directory : t.hasDirectory source = true) {n m : List Text}
    (outside : ¬ out.components <+: source.components ++ m.map .name) :
    image root source out t.current ++ n ≠ source.placeFrom t.current ++ m := by
  intro same
  cases h with
  | apart _ apart around =>
    have within : image root source out t.current <+: source.placeFrom t.current ++ m :=
      same ▸ List.prefix_append _ n
    rcases List.prefix_or_prefix_of_prefix within (List.prefix_append _ m) with inner | outer
    · exact around inner
    · exact apart outer
  | @along _ base s o source_eq out_eq inside =>
    have source_place : source.placeFrom t.current = base.foldl Place.follow t.current ++ s := by
      rw [Path.placeFrom, source_eq, List.foldl_append, Path.foldl_follow_names]
    have out_place : out.placeFrom t.current = base.foldl Place.follow t.current ++ o := by
      rw [Path.placeFrom, out_eq, List.foldl_append, Path.foldl_follow_names]
    obtain ⟨x, image_eq⟩ := inside
    rw [← image_eq, out_place, source_place] at same
    simp only [List.append_assoc, List.append_cancel_left_eq] at same
    -- The names below the beginning lead into the output directory, so the path says so too.
    have within : o <+: s ++ m := ⟨x ++ n, same⟩
    refine outside ?_
    rw [out_eq, source_eq, List.append_assoc, ← List.map_append, List.prefix_append_right_inj]
    exact within.map _
  | single file =>
    rw [directory] at file
    cases file

/-- No page goes to the place of a page, if pages are called by their paths below the root and the output
stays clear of them. -/
theorem target_ne_page {options : Options} {files : List PageFile}
    (below : (Scan.start root options.scope).startsWith root = true)
    (found : (Scan.pages t root options.scope (some (root.join options.out))).2 = .ok files)
    (called : Scan.CalledBelow root files)
    (clear : Clear t root (Scan.start root options.scope) (root.join options.out))
    {f g : PageFile} (mem_f : f ∈ files) (mem_g : g ∈ files) :
    target (root.join options.out) t.current g ≠ f.path.placeFrom t.current := by
  rw [target, placeFrom_target (called g mem_g)]
  rcases Scan.pages_cases found with ⟨place, content, reached, all⟩ | ⟨here, reached, all⟩
  · rw [all f mem_f, all g mem_g]
    cases clear with
    | apart directory | along directory =>
      rw [hasDirectory_of_file reached] at directory
      cases directory
    | single _ elsewhere => exact elsewhere
  · obtain ⟨n, -, names_n, -, same_n, -⟩ := all g mem_g
    obtain ⟨m, -, names_m, -, same_m, outside⟩ := all f mem_f
    rw [same_n, same_m, image_pathAlong below names_n, Path.placeFrom_pathAlong names_m]
    refine clear.target_ne (hasDirectory_of_entryAt reached) fun within => outside ?_
    rw [Path.startsWith, Path.components_pathAlong names_m]
    exact List.isPrefixOf_iff_prefix.2 within

/-- **Sources**: pages that a build found can be read as before after it, whatever came of it, if they
are called by their paths below the root, the output stays clear of them, and there are no links. -/
theorem build_keeps_pages {options : Options} {files : List PageFile} (linkless : t.Linkless)
    (below : (Scan.start root options.scope).startsWith root = true)
    (found : (Scan.pages t root options.scope (some (root.join options.out))).2 = .ok files)
    (called : Scan.CalledBelow root files)
    (clear : Clear t root (Scan.start root options.scope) (root.join options.out))
    {f : PageFile} (mem : f ∈ files) {content : Octets} (before : t.read f.path = .ok content) :
    (build t root options).tree.read f.path = .ok content := by
  refine (changes_build found).read before ?_
  rintro place led ⟨g, mem_g, same⟩
  rw [leads_of_linkless linkless] at led same
  exact target_ne_page below found called clear mem mem_g (Option.some.inj (same.trans led.symm))

/-- A page, and what a build made of it before. -/
def builtBefore : FileTree where
  entries :=
    [(["r".toList], .directory), (["r".toList, "a.md".toList], .file [120]),
      (["r".toList, "site".toList], .directory),
      (["r".toList, "site".toList, "a.md".toList], .file [121])]
  current := []
  distinct := by decide
  named := by decide
  rooted := by decide
  closed := by decide

theorem build_keeps_pages_builtBefore :
    let page : PageFile := ⟨⟨"/r/a.md".toList⟩, "a.md".toList⟩
    let root : Path := ⟨"/r".toList⟩
    let options : Options := { out := ⟨"site".toList⟩, assets := some (Assets.ofText "c" "j") }
    (Scan.pages builtBefore root options.scope (some (root.join options.out))).2 = .ok [page] ∧
      builtBefore.read page.path = .ok [120] ∧
      (build builtBefore root options).tree.read page.path = .ok [120] := by
  intro page root options
  have found : (Scan.pages builtBefore root options.scope (some (root.join options.out))).2 =
      .ok [page] := by
    decide +kernel
  have before : builtBefore.read page.path = .ok [120] := by decide +kernel
  have called : Scan.CalledBelow root [page] :=
    Scan.calledBelow_of_plain (by decide) (by decide) found (by decide)
  have source_eq : (Scan.start root options.scope).components = root.components ++ [].map .name := by
    decide
  have out_eq : (root.join options.out).components = root.components ++ ["site".toList].map .name := by
    decide
  exact ⟨found, before, build_keeps_pages (linkless_of_forall (by decide)) (by decide) found called
    (clear_of_names (by decide) source_eq out_eq) List.mem_cons_self before⟩

/-- A page in a directory. -/
def onePage : FileTree where
  entries :=
    [(["r".toList], .directory), (["r".toList, "docs".toList], .directory),
      (["r".toList, "docs".toList, "a.md".toList], .file [120])]
  current := []
  distinct := by decide
  named := by decide
  rooted := by decide
  closed := by decide

/-- The output directory `docs/..` is not the scanned directory `docs`, and no page has a path that
begins with it, but a page goes to its own place: the build is done, and the page is overwritten. -/
theorem build_overwrites_page :
    let page : PageFile := ⟨⟨"/r/docs/a.md".toList⟩, "docs/a.md".toList⟩
    let options : Options :=
      { scope := some ⟨"docs".toList⟩
        out := ⟨"docs/..".toList⟩
        assets := some (Assets.ofText "c" "j") }
    let built := build onePage ⟨"/r".toList⟩ options
    (Scan.pages onePage ⟨"/r".toList⟩ options.scope (some ⟨"/r/docs/..".toList⟩)).2 = .ok [page] ∧
      built.result.isOk = true ∧ onePage.read page.path = .ok [120] ∧
      built.tree.read page.path ≠ .ok [120] := by
  decide +kernel

end Site
end QuizPages
