import QuizPages.Proofs.FileTree.Changes
import QuizPages.Proofs.FileTree.Reach
import QuizPages.Proofs.Text.Order
import QuizPages.Scan

/-!
# What a scan finds

A scan of a file finds that file; a scan of a directory finds files at places below it, by paths that go
on from the scanned one by names and are not excluded (`pages_cases`). The pages are there
(`entryAt_ne_missing`) and come in order (`pages_sorted`). Below the root, a page is called by what is
left of its path there (`calledBelow_of_rest`).
-/

namespace QuizPages

namespace Scan

variable {t : FileTree} {root : Path} {scope exclude : Option Path}

/-- What a walk reaches is not excluded. -/
theorem not_startsWith_of_reaches {out : Path} {here : Place} {path : Path} {names : List Text}
    (h : reaches t (some out) here path names = true) (moved : names ≠ []) :
    ¬ (pathAlong path names).startsWith out = true := by
  induction names generalizing here path with
  | nil => exact absurd rfl moved
  | cons n names ih =>
    rw [reaches] at h
    simp only [Bool.and_eq_true, Bool.not_eq_true', Option.any_some] at h
    obtain ⟨⟨-, outside⟩, later⟩ := h
    rcases names with - | ⟨m, names⟩
    · simpa [pathAlong] using outside
    · exact ih later (List.cons_ne_nil m names)

/-- Nothing is found above a directory or beside it. -/
theorem pageAt?_of_not_below {start : Path} {here place : Place} (h : ¬ here <+: place) :
    pageAt? t root start exclude here place = none := by
  unfold pageAt?
  rw [if_neg]
  simp [h]

theorem mem_inOrder {f : PageFile} {files : List PageFile} : f ∈ inOrder files ↔ f ∈ files :=
  List.mem_mergeSort

theorem inOrder_of_sorted {files : List PageFile}
    (h : files.Pairwise fun f g => Text.le f.relative g.relative) : inOrder files = files :=
  List.mergeSort_of_pairwise h

theorem pageAt?_eq_some {start out : Path} {here place : Place} {f : PageFile}
    (h : pageAt? t root start (some out) here place = some f) :
    ∃ names, names ≠ [] ∧ place = here ++ names ∧
      f = ⟨pathAlong start names, (pathAlong start names).display root⟩ ∧
      ¬ (pathAlong start names).startsWith out = true ∧ (t.content? place).isSome ∧
      (pathAlong start names).isPage := by
  unfold pageAt? at h
  split at h
  · rename_i inside
    simp only [Bool.and_eq_true, decide_eq_true_eq] at inside
    obtain ⟨names, rfl⟩ := List.isPrefixOf_iff_prefix.1 inside.1
    have moved : names ≠ [] := by
      rintro rfl
      simp at inside
    simp only [List.drop_left] at h
    split at h
    · rename_i reached
      simp only [Bool.and_eq_true] at reached
      obtain ⟨⟨content, page⟩, reached⟩ := reached
      exact ⟨names, moved, rfl, (Option.some.inj h).symm, not_startsWith_of_reaches reached moved, content,
        page⟩
    · cases h
  · cases h

/-- A scan of a directory looks at each entry of the tree. -/
theorem pages_of_directory {here : Place} (reached : t.entryAt (start root scope) = .ok (here, .directory)) :
    pages t root scope exclude = (records t here,
      .ok (inOrder (t.entries.filterMap fun e => pageAt? t root (start root scope) exclude here e.1))) := by
  unfold pages
  simp only [reached]

/-- What a scan of a directory finds can be read off its entries, if they come in order. -/
theorem pages_of_sorted {here : Place} {files : List PageFile}
    (reached : t.entryAt (start root scope) = .ok (here, .directory))
    (found : (t.entries.filterMap fun e => pageAt? t root (start root scope) exclude here e.1) = files)
    (sorted : files.Pairwise fun f g => Text.le f.relative g.relative) :
    (pages t root scope exclude).2 = .ok files := by
  rw [pages_of_directory reached, found, inOrder_of_sorted sorted]

/-- A scan that does not fail has a file or a directory to scan. -/
theorem pages_eq_ok {files : List PageFile} (found : (pages t root scope exclude).2 = .ok files) :
    (∃ place content, t.entryAt (start root scope) = .ok (place, .file content) ∧
      files = if (start root scope).isPage then
        [⟨start root scope, (start root scope).display root⟩] else []) ∨
    ∃ here, t.entryAt (start root scope) = .ok (here, .directory) ∧
      files = inOrder (t.entries.filterMap fun e =>
        pageAt? t root (start root scope) exclude here e.1) := by
  unfold pages at found
  rcases reached : t.entryAt (start root scope) with e | ⟨here, - | content | target⟩ <;>
    simp only [reached] at found
  · cases found
  · exact .inr ⟨here, rfl, (Except.ok.inj found).symm⟩
  · exact .inl ⟨here, content, rfl, (Except.ok.inj found).symm⟩
  · exact absurd reached FileTree.entryAt_ne_link

/-- What a scan finds: the scanned file itself, or what lies below the scanned directory and is not
excluded. -/
theorem pages_cases {out : Path} {files : List PageFile}
    (found : (pages t root scope (some out)).2 = .ok files) :
    (∃ place content, t.entryAt (start root scope) = .ok (place, .file content) ∧
      ∀ f ∈ files, f = ⟨start root scope, (start root scope).display root⟩) ∨
    ∃ here, t.entryAt (start root scope) = .ok (here, .directory) ∧
      ∀ f ∈ files, ∃ names, names ≠ [] ∧ (∀ n ∈ names, Path.IsName n) ∧
        (∃ content, t.find? (here ++ names) = some (.file content)) ∧
        f = ⟨pathAlong (start root scope) names, (pathAlong (start root scope) names).display root⟩ ∧
        ¬ (pathAlong (start root scope) names).startsWith out = true := by
  rcases pages_eq_ok found with ⟨place, content, reached, rfl⟩ | ⟨here, reached, rfl⟩
  · refine .inl ⟨place, content, reached, fun f hf => ?_⟩
    split at hf
    · exact List.mem_singleton.1 hf
    · cases hf
  · refine .inr ⟨here, reached, fun f hf => ?_⟩
    obtain ⟨⟨place, e⟩, present, page⟩ := List.mem_filterMap.1 (mem_inOrder.1 hf)
    obtain ⟨names, moved, rfl, same, outside, content, -⟩ := pageAt?_eq_some page
    obtain ⟨content, there⟩ := Option.isSome_iff_exists.1 content
    have there := FileTree.content?_eq_some_iff.1 there
    have proper := FileTree.isName_of_find? (t := t) (p := here ++ names) (by rw [there]; rfl)
    exact ⟨names, moved, fun n mem => proper n (List.mem_append_right here mem), ⟨content, there⟩, same,
      outside⟩

/-- A scan only fails for want of something to scan. -/
theorem pages_eq_error {reason : Text} (h : (pages t root scope exclude).2 = .error reason) :
    t.has (start root scope) = false ∧
      reason = "Scan path does not exist: " ++ (start root scope).text := by
  unfold pages at h
  rcases reached : t.entryAt (start root scope) with e | ⟨here, - | content | target⟩ <;>
    simp only [reached] at h
  · exact ⟨by rw [FileTree.has, reached]; rfl, (Except.error.inj h).symm⟩
  · cases h
  · cases h
  · cases h

theorem isPage_of_mem {out : Path} {files : List PageFile}
    (found : (pages t root scope (some out)).2 = .ok files) {f : PageFile} (mem : f ∈ files) :
    f.path.isPage = true := by
  rcases pages_eq_ok found with ⟨_, _, -, rfl⟩ | ⟨here, -, rfl⟩
  · split at mem
    · rename_i page
      rwa [List.mem_singleton.1 mem]
    · cases mem
  · obtain ⟨⟨place, e⟩, -, page⟩ := List.mem_filterMap.1 (mem_inOrder.1 mem)
    obtain ⟨names, -, -, rfl, -, -, page⟩ := pageAt?_eq_some page
    exact page

/-- Nothing is missing on the way to a page that was found. -/
theorem entryAt_ne_missing {out : Path} {files : List PageFile}
    (found : (pages t root scope (some out)).2 = .ok files) {f : PageFile} (mem : f ∈ files) :
    t.entryAt f.path ≠ .error .missing := by
  rcases pages_cases found with ⟨place, content, reached, all⟩ | ⟨here, reached, all⟩
  · rw [all f mem, reached]
    nofun
  · obtain ⟨names, moved, proper, ⟨content, there⟩, rfl, -⟩ := all f mem
    exact FileTree.entryAt_pathAlong_ne_missing reached proper moved there

/-- Pages are found in ascending order of what they are called. -/
theorem pages_sorted {files : List PageFile} (found : (pages t root scope exclude).2 = .ok files) :
    files.Pairwise fun f g => Text.le f.relative g.relative := by
  rcases pages_eq_ok found with ⟨_, _, -, rfl⟩ | ⟨here, -, rfl⟩
  · split
    · exact List.pairwise_singleton _ _
    · exact .nil
  · apply List.pairwise_mergeSort
    · exact fun _ _ _ => Text.le_trans
    · exact fun _ _ => Text.le_total _ _

/-- No two pages are at the same place, as far as their paths tell. -/
theorem pages_pairwise {out : Path} {files : List PageFile}
    (found : (pages t root scope (some out)).2 = .ok files) :
    files.Pairwise fun f g => f.path.placeFrom t.current ≠ g.path.placeFrom t.current := by
  rcases pages_eq_ok found with ⟨_, _, -, rfl⟩ | ⟨here, reached, rfl⟩
  · split
    · exact List.pairwise_singleton _ _
    · exact .nil
  · have place : ∀ e ∈ t.entries, ∀ f, pageAt? t root (start root scope) (some out) here e.1 = some f →
        ∃ names, e.1 = here ++ names ∧
          f.path.placeFrom t.current = (start root scope).placeFrom t.current ++ names := by
      intro e mem f page
      obtain ⟨names, -, whole, rfl, -⟩ := pageAt?_eq_some page
      have proper : ∀ n ∈ names, Path.IsName n := fun n hn =>
        t.named _ (List.mem_map_of_mem mem) n (whole ▸ List.mem_append_right _ hn)
      exact ⟨names, whole, Path.placeFrom_pathAlong proper _ _⟩
    have apart : t.entries.Pairwise fun e e' => e.1 ≠ e'.1 := List.pairwise_map.1 t.distinct
    refine (List.Perm.pairwise_iff (fun h => h.symm) (List.mergeSort_perm _ _)).2 ?_
    rw [List.pairwise_filterMap]
    refine apart.imp_of_mem fun {e e'} mem mem' other f page g page' same => other ?_
    obtain ⟨names, whole, placed⟩ := place e mem f page
    obtain ⟨names', whole', placed'⟩ := place e' mem' g page'
    rw [placed, placed', List.append_cancel_left_eq] at same
    rw [whole, whole', same]

/-! ## How pages are called -/

theorem startsWith_pathAlong {source : Path} {names : List Text} (below : source.startsWith root = true)
    (named : ∀ n ∈ names, Path.IsName n) : (pathAlong source names).startsWith root = true := by
  have first := List.isPrefixOf_iff_prefix.1 below
  refine List.isPrefixOf_iff_prefix.2 ?_
  rw [Path.components_pathAlong named]
  exact first.trans (List.prefix_append _ _)

theorem components_pathAlong_ne {source : Path} {names : List Text}
    (below : source.startsWith root = true) (named : ∀ n ∈ names, Path.IsName n) (moved : names ≠ []) :
    (pathAlong source names).components ≠ root.components := by
  intro same
  have fits : root.components.length ≤ source.components.length :=
    (List.isPrefixOf_iff_prefix.1 below).length_le
  have longer := List.length_pos_of_ne_nil moved
  have lengths := congrArg List.length same
  rw [Path.components_pathAlong named, List.length_append, List.length_map] at lengths
  omega

/-- Whether pages are called by what is left of their paths below the root. A page elsewhere is called
by its whole path, and so is a root that is a page itself; a `\` in a name is shown as `/`. -/
def CalledBelow (root : Path) (files : List PageFile) : Prop :=
  ∀ f ∈ files, (Path.after? root f.path).map Path.text = some f.relative

instance (root : Path) (files : List PageFile) : Decidable (CalledBelow root files) :=
  inferInstanceAs (Decidable (∀ f ∈ files, (Path.after? root f.path).map Path.text = some f.relative))

theorem calledBelow_of_rest {out : Path} {files : List PageFile}
    (below : (start root scope).startsWith root = true)
    (directory : t.hasDirectory (start root scope) = true)
    (found : (pages t root scope (some out)).2 = .ok files)
    (plain : ∀ f ∈ files, ∀ rest ∈ Path.after? root f.path, '\\' ∉ rest.text) :
    CalledBelow root files := by
  intro f mem
  rcases pages_cases found with ⟨place, content, reached, -⟩ | ⟨here, reached, all⟩
  · rw [FileTree.hasDirectory_of_file reached] at directory
    cases directory
  · obtain ⟨names, moved, proper, -, rfl, -⟩ := all f mem
    exact Path.after?_display (startsWith_pathAlong below proper)
      (components_pathAlong_ne below proper moved) (plain _ mem)

theorem calledBelow_of_plain {out : Path} {files : List PageFile}
    (below : (start root scope).startsWith root = true)
    (directory : t.hasDirectory (start root scope) = true)
    (found : (pages t root scope (some out)).2 = .ok files) (plain : ∀ f ∈ files, '\\' ∉ f.path.text) :
    CalledBelow root files :=
  calledBelow_of_rest below directory found fun f mem _ left inside =>
    plain f mem (Path.mem_text_of_after? left (by decide) inside)

end Scan
end QuizPages
