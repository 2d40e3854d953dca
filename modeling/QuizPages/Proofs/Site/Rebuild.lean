import QuizPages.Proofs.Ignore.Steady
import QuizPages.Proofs.Scan.Again
import QuizPages.Proofs.Site.Mirror

/-!
# Building again

A build changes nothing outside the output directory but directories on the way there, and below it only
pages (`changes_output`). Nothing of this is found by the next scan, and what that scan found before it
passes over as before (`passesOver_of_changes`), unless the build has made a repository of a directory on
the way (`build_makes_repository`). So the next build finds the same pages, makes the same of them, and
leaves every file as it is (`build_again`).
-/

namespace QuizPages

/-- Whether something is a page is told by the last component. -/
theorem Path.isPage_of_getLast? {p : Path} {n : Text} (h : p.components.getLast? = some (.name n))
    (name : IsName n) : p.isPage = (⟨n⟩ : Path).isPage := by
  have own : (⟨n⟩ : Path).components = [.name n] := by
    rw [components_eq, name.front, name.steps, List.nil_append]
  unfold isPage extension? fileName?
  rw [h, own, List.getLast?_singleton]

namespace Site

open FileTree Ignore

variable {t t' : FileTree} {root out : Path} {files : List PageFile} {options : Options}
  {r s o : List Text}

/-- Whether a place is below another one and has the name of a page. -/
def IsPageBelow (out place : Place) : Prop :=
  (∀ n ∈ place, Path.IsName n) ∧ ∃ m n, place = out ++ m ++ [n] ∧ (⟨n⟩ : Path).isPage = true

/-- Whether the exclude files that files `.git` lead to stay the same when directories are made on the way
to a place and below it, and pages are put below it. -/
def Sealed (t : FileTree) (out : Place) : Prop :=
  ∀ t', Changes (fun q => q <+: out ∨ out <+: q) (IsPageBelow out) t t' →
    ∀ d, ¬ out <+: d → (t.content? (d ++ [".git".toList])).isSome →
      rulesIn t' .exclude d = rulesIn t .exclude d

/-- Whether what makes a directory a repository is there, wherever it lies on the way to a place. -/
def Settled (t : FileTree) (out : Place) : Prop :=
  ∀ d, ∀ n ∈ [".git".toList, ".jj".toList], d ++ [n] <+: out → (t.find? (d ++ [n])).isSome

theorem sealed_of_forall {out : Place}
    (h : ∀ e ∈ t.entries, e.1.getLast? = some ".git".toList → e.2 = .directory) : Sealed t out := by
  intro t' _ d _ file
  obtain ⟨content, file⟩ := Option.isSome_iff_exists.1 file
  have found := content?_eq_some_iff.1 file
  rw [find?, if_neg (by simp)] at found
  have directory := h _ (Entry.mem_of_find? found) List.getLast?_concat
  cases directory

/-! ## What a walk passes over -/

theorem not_isPageBelow {place q : Place} {n : Text} (other : (⟨n⟩ : Path).isPage = false) :
    ¬ IsPageBelow place (q ++ [n]) := by
  rintro ⟨-, m, n', same, page⟩
  obtain ⟨-, last⟩ := List.append_inj' same rfl
  rw [List.singleton_inj.1 last, page] at other
  cases other

/-- A directory outside of the output directory does not become a repository. -/
theorem isRepository_of_changes {place d : Place} (linkless : t.Linkless) (settled : Settled t place)
    (h : Changes (fun q => q <+: place ∨ place <+: q) (IsPageBelow place) t t')
    (outside : ¬ place <+: d) : isRepository t' d = isRepository t d := by
  have same : ∀ n ∈ [".git".toList, ".jj".toList],
      (t'.find? (d ++ [n])).isSome = (t.find? (d ++ [n])).isSome := by
    intro n mem
    have other : (⟨n⟩ : Path).isPage = false := by
      revert n
      decide
    have absent (none : t.find? (d ++ [n]) = none) : ¬ d ++ [n] <+: place := fun way => by
      have there := settled d n mem way
      rw [none] at there
      cases there
    rcases h.find?_cases (d ++ [n]) with same | ⟨before | behind, none, -⟩ | ⟨page, -⟩
    · rw [same]
    · exact absurd before (absent none)
    · -- The output directory is `.git` itself, or the directory that is asked about is inside it.
      rcases List.prefix_concat_iff.1 behind with rfl | above
      · exact absurd List.prefix_rfl (absent none)
      · exact absurd above outside
    · exact absurd page (not_isPageBelow other)
  have git := same _ List.mem_cons_self
  have jj := same _ (List.mem_cons_of_mem _ List.mem_cons_self)
  simp only [isRepository, behind?_of_linkless linkless, behind?_of_linkless (h.linkless linkless),
    List.any_cons, List.any_nil, git, jj]

/-- Outside of the output directory, the same entries are passed over as before. -/
theorem passesOver_of_changes {place p : Place} (linkless : t.Linkless) (settled : Settled t place)
    (sealed : Sealed t place)
    (h : Changes (fun q => q <+: place ∨ place <+: q) (IsPageBelow place) t t')
    (present : (t.find? p).isSome) (outside : ¬ place <+: p) : passesOver t' p = passesOver t p := by
  have outside_above {d names : Place} (split : p = d ++ names) : ¬ place <+: d := fun inside =>
    outside (split ▸ inside.trans (List.prefix_append d names))
  apply passesOver_congr (h.isDirectory_eq present)
  · intro d names split moved
    exact isRepository_of_changes linkless settled h (outside_above split)
  · intro d names split moved source
    have proper : ∀ n ∈ d, Path.IsName n := fun n mem =>
      isName_of_find? present n (split ▸ List.mem_append_left names mem)
    -- Only the exclude file of a work tree is read from a path that can go anywhere.
    by_cases own : source = .exclude ∧ (t.content? (d ++ [".git".toList])).isSome
    · rw [own.1]
      exact sealed t' h d (outside_above split) own.2
    · refine rulesIn_of_changes h linkless proper (fun q n mem => not_isPageBelow ?_) fun same => ?_
      · revert n
        decide
      · rw [← Option.not_isSome_iff_eq_none]
        exact fun file => own ⟨same, file⟩

/-! ## Directories given by names -/

/-- Whether the root, the scanned directory and the output directory are given by names: `r` on the way to
the root, and `s` and `o` from there on. -/
structure ByNames (root : Path) (options : Options) (r s o : List Text) : Prop where
  root : root.components = .root :: r.map .name
  scope : (options.scope.getD ⟨[]⟩).components = s.map .name
  out : options.out.components = o.map .name

theorem placeFrom_of_names {p : Path} {names : List Text} (h : p.components = .root :: names.map .name)
    (current : Place) : p.placeFrom current = names := by
  rw [Path.placeFrom, h, List.foldl_cons, Path.foldl_follow_names]
  rfl

theorem startsWith_iff_of_names {p base : Path} {names above : List Text}
    (h : p.components = .root :: names.map .name)
    (h' : base.components = .root :: above.map .name) : p.startsWith base = true ↔ above <+: names := by
  have inj : Function.Injective Path.Component.name := fun a b same => Path.Component.name.inj same
  rw [Path.startsWith, List.isPrefixOf_iff_prefix, h, h', List.cons_prefix_cons,
    List.prefix_map_iff_of_injective inj]
  exact and_iff_right rfl

theorem leads_of_samePlace {p q : Path} (h : samePlace t p q = true) : t.leads p = t.leads q := by
  unfold samePlace placeOf at h
  rcases at_p : t.entryAt p with e | ⟨a, _⟩
  · rw [at_p] at h
    cases h
  · rcases at_q : t.entryAt q with e | ⟨b, _⟩
    · rw [at_p, at_q] at h
      cases h
    · rw [at_p, at_q] at h
      obtain rfl : a = b := beq_iff_eq.1 h
      rw [leads_of_entryAt at_p, leads_of_entryAt at_q]

namespace ByNames

variable (h : ByNames root options r s o)

include h

theorem source_eq :
    (root.join (options.scope.getD ⟨[]⟩)).components = .root :: (r ++ s).map .name := by
  rw [Path.components_join_of_names h.scope, h.root, List.map_append, List.cons_append]

theorem start_eq : (Scan.start root options.scope).components = .root :: (r ++ s).map .name := by
  have source := h.source_eq
  have scope := h.scope
  unfold Scan.start
  rcases given : options.scope with - | p <;> rw [given] at source scope
  · rw [List.map_eq_nil_iff.1 scope.symm, List.append_nil]
    exact h.root
  · exact source

theorem out_eq : (root.join options.out).components = .root :: (r ++ o).map .name := by
  rw [Path.components_join_of_names h.out, h.root, List.map_append, List.cons_append]

theorem below : (Scan.start root options.scope).startsWith root = true :=
  (startsWith_iff_of_names h.start_eq h.root).2 (List.prefix_append r s)

theorem clear (directory : t.hasDirectory (Scan.start root options.scope) = true) :
    Clear t root (Scan.start root options.scope) (root.join options.out) := by
  apply clear_of_names directory (s := s) (o := o)
  · rw [h.start_eq, h.root, List.map_append, List.cons_append]
  · rw [h.out_eq, h.root, List.map_append, List.cons_append]

/-- The path of a page leads to its place below the scanned directory, and its target is as far below the
output directory. -/
theorem page_cases (directory : t.hasDirectory (Scan.start root options.scope) = true)
    (found : (Scan.pages t root options.scope (some (root.join options.out))).2 = .ok files)
    (called : Scan.CalledBelow root files) {f : PageFile} (mem : f ∈ files) :
    ∃ m n, (⟨n⟩ : Path).isPage = true ∧
      ((root.join options.out).join ⟨f.relative⟩).components =
        .root :: (r ++ o ++ (s ++ m) ++ [n]).map .name := by
  rcases Scan.pages_cases found with ⟨place, content, reached, -⟩ | ⟨here, -, all⟩
  · rw [hasDirectory_of_file reached] at directory
    cases directory
  · obtain ⟨names, moved, proper, -, same, -⟩ := all f mem
    obtain ⟨m, n, rfl⟩ := (List.eq_nil_or_concat' names).resolve_left moved
    have path : f.path.components = root.components ++ (s ++ m ++ [n]).map .name := by
      rw [same, Path.components_pathAlong proper, h.start_eq, h.root]
      simp
    refine ⟨m, n, ?_, ?_⟩
    · have page := Scan.isPage_of_mem found mem
      have last : f.path.components.getLast? = some (.name n) := by
        rw [path, List.map_append, ← List.append_assoc]
        exact List.getLast?_concat
      rwa [Path.isPage_of_getLast? last (proper n (by simp))] at page
    · obtain ⟨rest, left, relative⟩ := Option.map_eq_some_iff.1 (called f mem)
      have names : rest.components = (s ++ m ++ [n]).map .name := by
        have whole := Path.components_of_after? left
        rwa [path, List.append_cancel_left_eq, eq_comm] at whole
      rw [← relative, Path.components_join_of_names names, h.out_eq]
      simp

/-- A build makes directories above and below the output directory, and writes pages below it. -/
theorem changes_output (linkless : t.Linkless)
    (directory : t.hasDirectory (Scan.start root options.scope) = true)
    (found : (Scan.pages t root options.scope (some (root.join options.out))).2 = .ok files)
    (called : Scan.CalledBelow root files) :
    Changes (fun q => q <+: r ++ o ∨ r ++ o <+: q) (IsPageBelow (r ++ o)) t (build t root options).tree := by
  refine (changes_build found).mono ?_ ?_
  · rintro q ⟨f, mem, through⟩
    obtain ⟨m, n, -, path⟩ := h.page_cases directory found called mem
    have above := isPrefix_of_leadsThrough linkless path through
    rw [List.append_assoc] at above
    exact List.prefix_or_prefix_of_prefix above (List.prefix_append _ _)
  · rintro q ⟨f, mem, led⟩
    obtain ⟨m, n, page, path⟩ := h.page_cases directory found called mem
    rw [leads_of_linkless linkless, placeFrom_of_names path] at led
    obtain rfl := Option.some.inj led
    have names : ∀ x ∈ r ++ o ++ (s ++ m) ++ [n], Path.IsName x := fun x mem =>
      Path.isName_of_mem_components (path ▸ List.mem_cons_of_mem _ (List.mem_map_of_mem mem))
    exact ⟨names, s ++ m, n, rfl, page⟩

/-- No page gets in the way of another one. -/
theorem separate (linkless : t.Linkless)
    (directory : t.hasDirectory (Scan.start root options.scope) = true)
    (found : (Scan.pages t root options.scope (some (root.join options.out))).2 = .ok files)
    (called : Scan.CalledBelow root files) : Separate t (root.join options.out) files := by
  apply separate_of_linkless linkless (pairwise_target h.below found called)
  intro f mem g mem'
  exact target_ne_page h.below found called (h.clear directory) mem' mem

/-- The guard of a build passes. -/
theorem samePlace_eq_false (linkless : t.Linkless) (apart : o ≠ s) :
    samePlace t (root.join (options.scope.getD ⟨[]⟩)) (root.join options.out) = false := by
  rw [← Bool.not_eq_true]
  intro same
  have places := leads_of_samePlace same
  rw [leads_of_linkless linkless, leads_of_linkless linkless, placeFrom_of_names h.source_eq,
    placeFrom_of_names h.out_eq] at places
  exact apart (List.append_cancel_left (Option.some.inj places)).symm

end ByNames

/-! ## The next build -/

/-- The next scan finds the same pages. -/
theorem pages_after_build (linkless : t.Linkless) (by_names : ByNames root options r s o)
    (directory : t.hasDirectory (Scan.start root options.scope) = true)
    (settled : Settled t (r ++ o)) (sealed : Sealed t (r ++ o))
    (changes : Changes (fun q => q <+: r ++ o ∨ r ++ o <+: q) (IsPageBelow (r ++ o)) t t') :
    (Scan.pages t' root options.scope (some (root.join options.out))).2 =
      (Scan.pages t root options.scope (some (root.join options.out))).2 := by
  obtain ⟨here, reached⟩ := entryAt_of_hasDirectory directory
  obtain rfl : r ++ s = here := by
    have led := leads_of_entryAt reached
    rw [leads_of_linkless linkless, placeFrom_of_names by_names.start_eq] at led
    exact Option.some.inj led
  have excluded {names : List Text} (proper : ∀ n ∈ names, Path.IsName n) :
      (Scan.pathAlong (Scan.start root options.scope) names).startsWith (root.join options.out) = true ↔
        r ++ o <+: r ++ s ++ names := by
    refine startsWith_iff_of_names ?_ by_names.out_eq
    rw [Path.components_pathAlong proper, by_names.start_eq, List.cons_append, ← List.map_append]
  refine Scan.pages_again changes reached (fun names moved present outside => ?_) fun names written => ?_
  · have proper : ∀ n ∈ names, Path.IsName n := fun n mem =>
      isName_of_find? present n (List.mem_append_right _ mem)
    rw [excluded proper] at outside
    exact passesOver_of_changes linkless settled sealed changes present outside
  · obtain ⟨all, m, n, same, -⟩ := written
    rw [excluded fun n mem => all n (List.mem_append_right _ mem), same, List.append_assoc]
    exact List.prefix_append _ _

/-- **Again**: a build that is done can be done again: it comes to the same report and the same statistics,
and every file keeps its content. -/
theorem build_again {answer : List Item × Stats} (linkless : t.Linkless)
    (by_names : ByNames root options r s o) (apart : o ≠ s)
    (directory : t.hasDirectory (Scan.start root options.scope) = true)
    (found : (Scan.pages t root options.scope (some (root.join options.out))).2 = .ok files)
    (plain : ∀ f ∈ files, ∀ rest ∈ Path.after? root f.path, '\\' ∉ rest.text)
    (settled : Settled t (r ++ o)) (sealed : Sealed t (r ++ o))
    (done : (build t root options).result = .ok answer) :
    let first := build t root options
    let second := build first.tree root options
    second.result = .ok answer ∧
      ∀ place, second.tree.content? place = first.tree.content? place := by
  have called := Scan.calledBelow_of_rest by_names.below directory found plain
  have changes := by_names.changes_output linkless directory found called
  have undisturbed := undisturbed_of_found found (by_names.separate linkless directory found called)
  obtain ⟨bs, run, rfl, tree⟩ := build_done found done
  obtain ⟨rfl, delivered⟩ := buildPages_delivers undisturbed run
  obtain ⟨again, kept⟩ := delivered.again undisturbed
  have found_again := (pages_after_build linkless by_names directory settled sealed changes).trans found
  have linkless_again : (build t root options).tree.Linkless := changes.linkless linkless
  obtain ⟨tree', result'⟩ := build_of_found (by_names.samePlace_eq_false linkless_again apart) found_again
  dsimp only
  rw [tree', result', tree, again]
  exact ⟨rfl, kept⟩

theorem build_again_pageAndBinary :
    let root : Path := ⟨"/r".toList⟩
    let options : Options := { out := ⟨"site".toList⟩ }
    let first := build pageAndBinary root options
    let second := build first.tree root options
    let place := ["r".toList, "site".toList, "docs".toList, "a.md".toList]
    first.result.isOk = true ∧ second.result = first.result ∧
      first.tree.content? place = some [120] ∧ second.tree.content? place = some [120] := by
  intro root options first second place
  have found : (Scan.pages pageAndBinary root options.scope (some (root.join options.out))).2 =
      .ok pageAndBinaryPages := by
    have reached : pageAndBinary.entryAt root = .ok (["r".toList], .directory) := by decide +kernel
    exact Scan.pages_of_sorted reached (by decide +kernel) (by decide +kernel)
  have by_names : ByNames root options ["r".toList] [] ["site".toList] :=
    ⟨by decide, by decide, by decide⟩
  have settled : Settled pageAndBinary ["r".toList, "site".toList] := by
    have other : ∀ n ∈ [".git".toList, ".jj".toList], n ∉ ["r".toList, "site".toList] := by decide
    exact fun d n mem way => absurd (way.subset (by simp)) (other n mem)
  have guard : samePlace pageAndBinary (root.join (options.scope.getD ⟨[]⟩)) (root.join options.out) = false := by
    decide +kernel
  have built : first.tree.content? place = some [120] := by
    rw [show first.tree = _ from (build_of_found guard found).1]
    decide +kernel
  obtain ⟨answer, done⟩ := exists_answer_of_found guard found (by decide +kernel)
  obtain ⟨again, kept⟩ := build_again (linkless_of_forall (by decide)) by_names (by decide) (by decide) found
    (by decide +kernel) settled (sealed_of_forall (by decide)) done
  exact ⟨by rw [done]; rfl, again.trans done.symm, built, (kept place).trans built⟩

/-- A page that is ignored once its directory is in a repository. -/
def ignoredPage : FileTree where
  entries := [([".gitignore".toList], .file (Text.octets "b.md\n".toList)), (["b.md".toList], .file [121])]
  current := []
  distinct := by decide
  named := by decide
  rooted := by decide
  closed := by decide

/-- An output directory below `.git` makes a repository of the root, where `.gitignore` counts: the first
build finds a page, and the second none. -/
theorem build_makes_repository :
    let root : Path := ⟨"/".toList⟩
    let options : Options := { out := ⟨".git/site".toList⟩ }
    let first := build ignoredPage root options
    let second := build first.tree root options
    ignoredPage.Linkless ∧ ByNames root options [] [] [".git".toList, "site".toList] ∧
      Sealed ignoredPage [".git".toList, "site".toList] ∧
      (first.result.toOption.map fun answer => answer.2.pages) = some 1 ∧
      (second.result.toOption.map fun answer => answer.2.pages) = some 0 := by
  refine ⟨linkless_of_forall (by decide), ⟨by decide, by decide, by decide⟩, sealed_of_forall (by decide), ?_, ?_⟩
  · decide +kernel
  · decide +kernel

end Site
end QuizPages
