import QuizPages.Proofs.Site.Sources

/-!
# What a build does

Pages are read and written in turn. As long as they are there and no target leads to a page or to where
another target leads (`Undisturbed`), each is read as it was when the build began (`buildPages_delivers`): so
afterwards the target of each page that can be read holds its rendered text, and no other file has changed
(`build_effect`). A build that fails has either not begun, or stopped at a page that could not be written, for
whatever reason, and has then dealt with the pages before it and with no others (`build_failure`).

The file of a target is the one that its path leads to. Where a link is met, that is another file than the
one that the names tell, and two targets with different names can be one file.
-/

namespace QuizPages

/-- What is read of a file stays the same, unless there was nothing or the file is written. -/
theorem Reading.ofPath_of_changes {t t' : FileTree} {way written : Place → Prop}
    (h : FileTree.Changes way written t t') {p : Path} (present : t.entryAt p ≠ .error .missing)
    (spared : ∀ place, t.leads p = some place → ¬ written place) (options : Options) :
    ofPath options t' p = ofPath options t p := by
  have same := h.same_entryAt_of_spared present spared
  simp only [ofPath, FileTree.read, same]

namespace Site

open FileTree

variable {t t' : FileTree} {root out : Path} {assets : Option Assets} {files : List PageFile}

/-! ## One page -/

/-- What becomes of a page, if it can be written. -/
def built (t : FileTree) (assets : Option Assets) (f : PageFile) : Built :=
  let reading := Reading.ofPath {} t f.path
  ⟨reading.items f.relative,
    reading.text?.map fun text => (Page.ofText f.relative text).render assets⟩

/-- The text that a page is rendered to, if it can be read. -/
def rendered? (t : FileTree) (assets : Option Assets) (f : PageFile) : Option Text :=
  (built t assets f).output.map PageOutput.text

theorem built_of_changes {way written : Place → Prop} (h : Changes way written t t') {f : PageFile}
    (present : t.entryAt f.path ≠ .error .missing)
    (spared : ∀ place, t.leads f.path = some place → ¬ written place) :
    built t' assets f = built t assets f := by
  simp only [built, Reading.ofPath_of_changes h present spared]

/-- A page that cannot be read is passed over. -/
theorem buildPage_of_none {f : PageFile} (unread : rendered? t assets f = none) (out : Path) :
    (buildPage t out assets f).tree = t ∧
      (buildPage t out assets f).result = .ok (built t assets f) := by
  unfold rendered? built at unread
  unfold buildPage built
  rcases reading : Reading.ofPath {} t f.path with reason | ⟨text, size, replaced⟩
  · exact ⟨rfl, rfl⟩
  · rw [reading] at unread
    cases unread

/-- The text of a page that can be read is delivered. -/
theorem buildPage_of_some {f : PageFile} {text : Text} (read : rendered? t assets f = some text)
    (out : Path) :
    (buildPage t out assets f).tree = (t.deliver (out.join ⟨f.relative⟩) text).1 ∧
      (buildPage t out assets f).result =
        ((t.deliver (out.join ⟨f.relative⟩) text).2.mapError BuildError.undelivered).map
          fun _ => built t assets f := by
  unfold rendered? built at read
  unfold buildPage built
  rcases reading : Reading.ofPath {} t f.path with reason | ⟨source, size, replaced⟩ <;>
    rw [reading] at read
  · cases read
  · obtain rfl := Option.some.inj read
    exact ⟨rfl, rfl⟩

/-- The reasons why a page cannot be written. -/
inductive Undelivered (out : Path) (f : PageFile) : BuildError → Prop
  | directory {dir : Path} (e : FileError) (above : (out.join ⟨f.relative⟩).parent? = some dir) :
    Undelivered out f (.undelivered (.noDirectory dir e))
  | file (e : FileError) : Undelivered out f (.undelivered (.noFile (out.join ⟨f.relative⟩) e))

theorem Undelivered.file_eq {f : PageFile} {p : Path} {e : FileError}
    (h : Undelivered out f (.undelivered (.noFile p e))) : p = out.join ⟨f.relative⟩ := by
  cases h
  rfl

/-- A page is built, and then its target holds its text if there is one, and can be written again; or its
text could not be written, and no file has changed. -/
theorem buildPage_cases (t : FileTree) (out : Path) (assets : Option Assets) (f : PageFile) :
    ((buildPage t out assets f).result = .ok (built t assets f) ∧
      ∀ text, rendered? t assets f = some text →
        (buildPage t out assets f).tree.read (out.join ⟨f.relative⟩) = .ok text.octets ∧
        (buildPage t out assets f).tree.Accepts (out.join ⟨f.relative⟩) text) ∨
    ∃ e, (buildPage t out assets f).result = .error e ∧ Undelivered out f e ∧
      (rendered? t assets f).isSome ∧
      Changes (t.LeadsThrough (out.join ⟨f.relative⟩)) (fun _ => False) t
        (buildPage t out assets f).tree := by
  rcases read : rendered? t assets f with - | text
  · exact .inl ⟨(buildPage_of_none read out).2, nofun⟩
  · obtain ⟨tree, result⟩ := buildPage_of_some read out
    rw [tree, result]
    rcases deliver_cases t (fun _ => False) (out.join ⟨f.relative⟩) text with
      ⟨dir, e, above, failed, changes⟩ | ⟨e, failed, changes⟩ | ⟨_, done, -⟩
    · rw [failed]
      exact .inr ⟨_, rfl, .directory e above, rfl, changes⟩
    · rw [failed]
      exact .inr ⟨_, rfl, .file e, rfl, changes⟩
    · left
      refine ⟨by rw [done]; rfl, fun text' same => ?_⟩
      obtain rfl := Option.some.inj same
      exact ⟨read_deliver done, accepts_deliver done⟩

theorem undelivered_of_error {f : PageFile} {e : BuildError}
    (failed : (buildPage t out assets f).result = .error e) : Undelivered out f e := by
  rcases buildPage_cases t out assets f with ⟨fine, -⟩ | ⟨e', stopped, undelivered, -⟩
  · rw [fine] at failed
    cases failed
  · rwa [← Except.error.inj (stopped.symm.trans failed)]

/-! ## One page after another -/

/-- The pages that can be read. -/
def readable (t : FileTree) (assets : Option Assets) (files : List PageFile) : List PageFile :=
  files.filter fun f => (rendered? t assets f).isSome

theorem readable_subset (t : FileTree) (assets : Option Assets) (files : List PageFile) :
    readable t assets files ⊆ files :=
  List.filter_sublist.subset

/-- Only a page that can be read changes anything. -/
theorem changes_readable_buildPage (t : FileTree) (out : Path) (assets : Option Assets) (f : PageFile) :
    Changes (OnWay t out (readable t assets [f])) (IsTarget t out (readable t assets [f])) t
      (buildPage t out assets f).tree := by
  rcases read : rendered? t assets f with - | text
  · rw [(buildPage_of_none read out).1]
    exact .refl _ _ t
  · have mem : f ∈ readable t assets [f] := by simp [readable, read]
    exact (changes_buildPage t out assets f).mono (fun q through => ⟨f, mem, through⟩)
      fun q same => ⟨f, mem, same⟩

/-- Whether the targets of pages lead to different files, none of which is one of these pages. -/
structure Separate (t : FileTree) (out : Path) (files : List PageFile) : Prop where
  distinct : files.Pairwise fun f g => ¬ t.Meet (out.join ⟨f.relative⟩) (out.join ⟨g.relative⟩)
  elsewhere : ∀ f ∈ files, ∀ g ∈ files, ¬ t.Meet (out.join ⟨f.relative⟩) g.path

instance (t : FileTree) (out : Path) (files : List PageFile) : Decidable (Separate t out files) :=
  decidable_of_iff
    (files.Pairwise (fun f g : PageFile => ¬ t.Meet (out.join ⟨f.relative⟩) (out.join ⟨g.relative⟩)) ∧
      ∀ f ∈ files, ∀ g ∈ files, ¬ t.Meet (out.join ⟨f.relative⟩) g.path)
    ⟨fun ⟨distinct, elsewhere⟩ => ⟨distinct, elsewhere⟩, fun h => ⟨h.distinct, h.elsewhere⟩⟩

theorem Separate.sublist {sub : List PageFile} (h : Separate t out files) (part : sub.Sublist files) :
    Separate t out sub where
  distinct := h.distinct.sublist part
  elsewhere f hf g hg := h.elsewhere f (part.subset hf) g (part.subset hg)

theorem placeFrom_of_meet (linkless : t.Linkless) {p q : Path} (meet : t.Meet p q) :
    p.placeFrom t.current = q.placeFrom t.current := by
  obtain ⟨place, led, led'⟩ := meet
  rw [leads_of_linkless linkless] at led led'
  exact Option.some.inj (led.trans led'.symm)

/-- Without links the names in the paths tell whether targets are apart. -/
theorem separate_of_linkless (linkless : t.Linkless)
    (distinct : files.Pairwise fun f g => target out t.current f ≠ target out t.current g)
    (elsewhere : ∀ f ∈ files, ∀ g ∈ files, target out t.current f ≠ g.path.placeFrom t.current) :
    Separate t out files where
  distinct := distinct.imp fun apart meet => apart (placeFrom_of_meet linkless meet)
  elsewhere f mem g mem' meet := elsewhere f mem g mem' (placeFrom_of_meet linkless meet)

/-- Whether pages are there and can be built one after another without getting in each other's way. -/
structure Undisturbed (t : FileTree) (out : Path) (files : List PageFile) : Prop where
  present : ∀ f ∈ files, t.entryAt f.path ≠ .error .missing
  separate : Separate t out files

namespace Undisturbed

theorem sublist {sub : List PageFile} (h : Undisturbed t out files) (part : sub.Sublist files) :
    Undisturbed t out sub where
  present f mem := h.present f (part.subset mem)
  separate := h.separate.sublist part

theorem of_changes {way written : Place → Prop} (h : Undisturbed t out files)
    (changes : Changes way written t t')
    (spared : ∀ f ∈ files, ∀ place, t.leads f.path = some place → ¬ written place) :
    Undisturbed t' out files where
  present f mem := by
    rw [changes.same_entryAt_of_spared (h.present f mem) (spared f mem)]
    exact h.present f mem
  separate :=
    { distinct := h.separate.distinct.imp fun apart meet => apart (changes.same_meet.1 meet)
      elsewhere := fun f mem g mem' meet =>
        h.separate.elsewhere f mem g mem' (changes.same_meet.1 meet) }

/-- The targets of some of the pages are at the place of none of them. -/
theorem not_isTarget (h : Undisturbed t out files) {some : List PageFile} (sub : some ⊆ files)
    {f : PageFile} (mem : f ∈ files) (place : Place) (led : t.leads f.path = .some place) :
    ¬ IsTarget t out some place := by
  rintro ⟨g, mem_g, led'⟩
  exact h.separate.elsewhere g (sub mem_g) f mem ⟨place, led', led⟩

variable {f : PageFile}

theorem after_buildPage (h : Undisturbed t out (f :: files)) (assets : Option Assets) :
    Undisturbed (buildPage t out assets f).tree out files := by
  apply (h.sublist (List.sublist_cons_self f files)).of_changes (changes_buildPage t out assets f)
  intro g mem place led led'
  exact h.separate.elsewhere f List.mem_cons_self g (List.mem_cons_of_mem f mem) ⟨place, led', led⟩

theorem built_after_buildPage (h : Undisturbed t out (f :: files)) (assets : Option Assets) :
    ∀ g ∈ files, built (buildPage t out assets f).tree assets g = built t assets g := by
  intro g mem
  have mem := List.mem_cons_of_mem f mem
  apply built_of_changes (changes_buildPage t out assets f) (h.present g mem)
  intro place led led'
  exact h.separate.elsewhere f List.mem_cons_self g mem ⟨place, led', led⟩

end Undisturbed

/-- Whether a tree differs from another one exactly by the texts of some pages, each in the file that its
target leads to, and by directories on the way there. Those texts can be written again. -/
structure Delivers (out : Path) (assets : Option Assets) (files : List PageFile) (t t' : FileTree) :
    Prop where
  written : ∀ f ∈ files, ∀ text, rendered? t assets f = some text →
    t'.read (out.join ⟨f.relative⟩) = .ok text.octets ∧ t'.Accepts (out.join ⟨f.relative⟩) text
  changes : Changes (OnWay t out (readable t assets files)) (IsTarget t out (readable t assets files)) t t'

theorem Delivers.cons {f : PageFile} {t'' : FileTree}
    (first : Delivers out assets [f] t t') (rest : Delivers out assets files t' t'')
    (same : ∀ g ∈ files, built t' assets g = built t assets g)
    (distinct : ∀ g ∈ files, ¬ t.Meet (out.join ⟨f.relative⟩) (out.join ⟨g.relative⟩)) :
    Delivers out assets (f :: files) t t'' := by
  have rendered : ∀ g ∈ files, rendered? t' assets g = rendered? t assets g := fun g mem => by
    rw [rendered?, same g mem, ← rendered?]
  have later : readable t' assets files = readable t assets files :=
    List.filter_congr fun g mem => by rw [rendered g mem]
  obtain ⟨written, changes⟩ := rest
  rw [later] at changes
  have changes : Changes (OnWay t out (readable t assets files)) (IsTarget t out (readable t assets files))
      t' t'' :=
    changes.mono (fun _ => (onWay_of_changes first.changes).1) fun _ => (isTarget_of_changes first.changes).1
  constructor
  · intro g mem text read
    rcases List.mem_cons.1 mem with rfl | mem
    · -- The pages behind it go elsewhere.
      obtain ⟨before, accepts⟩ := first.written g List.mem_cons_self text read
      refine ⟨changes.read before ?_, accepts.later changes⟩
      rintro place led ⟨g', mem', led'⟩
      rw [first.changes.same_leads] at led
      exact distinct g' (List.mem_of_mem_filter mem') ⟨place, led, led'⟩
    · exact written g mem text (by rw [rendered g mem, read])
  · have sub_first : readable t assets [f] ⊆ readable t assets (f :: files) :=
      (List.Sublist.filter _ (List.Sublist.cons_cons f (List.nil_sublist files))).subset
    have sub_rest : readable t assets files ⊆ readable t assets (f :: files) :=
      ((List.sublist_cons_self f files).filter _).subset
    exact (first.changes.mono (fun _ => OnWay.mono sub_first) fun _ => IsTarget.mono sub_first).trans
      (changes.mono (fun _ => OnWay.mono sub_rest) fun _ => IsTarget.mono sub_rest)

/-- A run that is done has dealt with its first page and then with the others. -/
theorem buildPages_cons_eq_ok {f : PageFile} {bs : List Built}
    (done : (buildPages t out assets (f :: files)).result = .ok bs) :
    ∃ later, bs = built t assets f :: later ∧
      (buildPage t out assets f).result = .ok (built t assets f) ∧
      (buildPages (buildPage t out assets f).tree out assets files).result = .ok later ∧
      (buildPages t out assets (f :: files)).tree =
        (buildPages (buildPage t out assets f).tree out assets files).tree := by
  rw [buildPages] at done ⊢
  dsimp only at done ⊢
  rcases buildPage_cases t out assets f with ⟨result, -⟩ | ⟨e, result, -⟩ <;> simp only [result] at done ⊢
  · rcases rest : (buildPages (buildPage t out assets f).tree out assets files).result with e | later <;>
      rw [rest] at done
    · cases done
    · obtain rfl := Except.ok.inj done
      exact ⟨later, rfl, trivial, rfl, trivial⟩
  · cases done

/-- Each page of a run that is done is read from some tree. -/
theorem buildPages_built {bs : List Built} (done : (buildPages t out assets files).result = .ok bs) :
    List.Forall₂ (fun f b => ∃ t', b = built t' assets f) files bs := by
  induction files generalizing t bs with
  | nil =>
    obtain rfl := Except.ok.inj done
    exact .nil
  | cons f files ih =>
    obtain ⟨later, rfl, -, rest, -⟩ := buildPages_cons_eq_ok done
    exact .cons ⟨t, rfl⟩ (ih rest)

/-- **Run**: pages that do not get in each other's way are all read as they were before the first one was
written. -/
theorem buildPages_delivers {bs : List Built} (h : Undisturbed t out files)
    (done : (buildPages t out assets files).result = .ok bs) :
    bs = files.map (built t assets) ∧
      Delivers out assets files t (buildPages t out assets files).tree := by
  induction files generalizing t bs with
  | nil =>
    obtain rfl := Except.ok.inj done
    exact ⟨rfl, nofun, .refl _ _ t⟩
  | cons f files ih =>
    obtain ⟨later, rfl, result, rest, tree⟩ := buildPages_cons_eq_ok done
    rcases buildPage_cases t out assets f with ⟨-, written⟩ | ⟨e, failed, -⟩
    · have first : Delivers out assets [f] t (buildPage t out assets f).tree := by
        refine ⟨?_, changes_readable_buildPage t out assets f⟩
        intro g mem
        rw [List.mem_singleton.1 mem]
        exact written
      have same := h.built_after_buildPage assets
      obtain ⟨distinct, -⟩ := List.pairwise_cons.1 h.separate.distinct
      obtain ⟨rfl, delivered⟩ := ih (h.after_buildPage assets) rest
      rw [tree]
      exact ⟨by rw [List.map_cons, List.map_congr_left same], first.cons delivered same distinct⟩
    · rw [result] at failed
      cases failed

/-- Pages are built if each of them goes where a text can be written. -/
theorem buildPages_of_accepts (h : Undisturbed t out files)
    (accepts : ∀ f ∈ files, ∀ text, rendered? t assets f = some text →
      t.Accepts (out.join ⟨f.relative⟩) text) :
    ∃ bs, (buildPages t out assets files).result = .ok bs := by
  induction files generalizing t with
  | nil => exact ⟨[], rfl⟩
  | cons f files ih =>
    have first : (buildPage t out assets f).result = .ok (built t assets f) := by
      rcases read : rendered? t assets f with - | text
      · exact (buildPage_of_none read out).2
      · have delivered := accepts f List.mem_cons_self text read t (.refl _ _ t)
        rw [(buildPage_of_some read out).2, delivered]
        rfl
    have rest : ∃ bs, (buildPages (buildPage t out assets f).tree out assets files).result = .ok bs := by
      apply ih (h.after_buildPage assets)
      intro g mem text read
      rw [rendered?, h.built_after_buildPage assets g mem, ← rendered?] at read
      exact (accepts g (List.mem_cons_of_mem f mem) text read).later (changes_buildPage t out assets f)
    obtain ⟨bs, rest⟩ := rest
    rw [buildPages]
    dsimp only
    rw [first]
    dsimp only
    rw [rest]
    exact ⟨_, rfl⟩

/-- **Again**: once the targets hold the texts of their pages, another run makes the same of them and
changes no file. -/
theorem Delivers.again (delivered : Delivers out assets files t t') (h : Undisturbed t out files) :
    (buildPages t' out assets files).result = .ok (files.map (built t assets)) ∧
      ∀ place, (buildPages t' out assets files).tree.content? place = t'.content? place := by
  have spared : ∀ f ∈ files, ∀ place, t.leads f.path = some place →
      ¬ IsTarget t out (readable t assets files) place :=
    fun f => h.not_isTarget (readable_subset t assets files)
  have same : ∀ f ∈ files, built t' assets f = built t assets f := fun f mem =>
    built_of_changes delivered.changes (h.present f mem) (spared f mem)
  have held : ∀ f ∈ files, ∀ text, rendered? t' assets f = some text →
      t'.read (out.join ⟨f.relative⟩) = .ok text.octets ∧ t'.Accepts (out.join ⟨f.relative⟩) text := by
    intro f mem text read
    rw [rendered?, same f mem] at read
    exact delivered.written f mem text read
  have undisturbed := h.of_changes delivered.changes spared
  obtain ⟨bs, done⟩ := buildPages_of_accepts undisturbed fun f mem text read => (held f mem text read).2
  obtain ⟨rfl, again⟩ := buildPages_delivers undisturbed done
  refine ⟨by rw [done, List.map_congr_left same], fun place => ?_⟩
  by_cases goal : IsTarget t' out (readable t' assets files) place
  · obtain ⟨f, mem, led⟩ := goal
    obtain ⟨mem, read⟩ := List.mem_filter.1 mem
    obtain ⟨text, read⟩ := Option.isSome_iff_exists.1 read
    rw [content?_of_read (held f mem text read).1 led,
      content?_of_read (again.written f mem text read).1 ((again.changes.same_leads _).trans led)]
  · exact again.changes.content?_eq goal

/-- A run that fails stops at one page, after it has built those before it. -/
theorem buildPages_error {e : BuildError} (failed : (buildPages t out assets files).result = .error e) :
    ∃ before f after bs, files = before ++ f :: after ∧
      (buildPages t out assets before).result = .ok bs ∧
      (buildPage (buildPages t out assets before).tree out assets f).result = .error e ∧
      (buildPages t out assets files).tree =
        (buildPage (buildPages t out assets before).tree out assets f).tree := by
  induction files generalizing t with
  | nil => cases failed
  | cons g files ih =>
    rw [buildPages] at failed ⊢
    dsimp only at failed ⊢
    rcases first : (buildPage t out assets g).result with e' | b <;> simp only [first] at failed ⊢
    · obtain rfl := Except.error.inj failed
      exact ⟨[], g, files, [], rfl, rfl, first, rfl⟩
    · rcases rest : (buildPages (buildPage t out assets g).tree out assets files).result with e' | later <;>
        rw [rest] at failed
      · obtain rfl := Except.error.inj failed
        obtain ⟨before, f, after, bs, rfl, done, stopped, tree⟩ := ih rest
        refine ⟨g :: before, f, after, b :: bs, rfl, ?_⟩
        rw [buildPages]
        simp only [first, done]
        exact ⟨rfl, stopped, tree⟩
      · cases failed

/-- When a page cannot be written, those before it have been dealt with, and no file but their targets has
changed. -/
theorem changes_of_stopped {before after : List PageFile} {f : PageFile} {bs : List Built} {e : BuildError}
    (h : Undisturbed t out (before ++ f :: after))
    (done : (buildPages t out assets before).result = .ok bs)
    (stopped : (buildPage (buildPages t out assets before).tree out assets f).result = .error e)
    (last : t' = (buildPage (buildPages t out assets before).tree out assets f).tree) :
    (∀ g ∈ before, ∀ text, rendered? t assets g = some text →
      t'.read (out.join ⟨g.relative⟩) = .ok text.octets) ∧
    (∀ place, ¬ IsTarget t out (readable t assets before) place →
      t'.content? place = t.content? place) ∧
    (rendered? t assets f).isSome ∧
    ∀ g ∈ f :: after, ∀ place, t.leads (out.join ⟨g.relative⟩) = some place →
      t'.content? place = t.content? place := by
  have mem : f ∈ before ++ f :: after := List.mem_append_right before List.mem_cons_self
  have sub : readable t assets before ⊆ before ++ f :: after :=
    List.Subset.trans (readable_subset t assets before) (List.subset_append_left before _)
  obtain ⟨-, written, changes⟩ :=
    buildPages_delivers (h.sublist (List.sublist_append_left before (f :: after))) done
  rcases buildPage_cases (buildPages t out assets before).tree out assets f with
    ⟨fine, -⟩ | ⟨_, -, -, text, spared⟩
  · rw [fine] at stopped
    cases stopped
  · rw [← last] at spared
    have kept : ∀ place, ¬ IsTarget t out (readable t assets before) place →
        t'.content? place = t.content? place := fun place apart =>
      (spared.content?_eq id).trans (changes.content?_eq apart)
    refine ⟨fun g mem text read => spared.read (written g mem text read).1 fun _ _ => id, kept, ?_, ?_⟩
    · -- The page is still read as it was at first.
      rwa [rendered?, built_of_changes changes (h.present f mem) (h.not_isTarget sub mem),
        ← rendered?] at text
    · intro g mem place led
      apply kept
      rintro ⟨g', mem', led'⟩
      have distinct := (List.pairwise_append.1 h.separate.distinct).2.2
      exact distinct g' (List.mem_of_mem_filter mem') g mem ⟨place, led', led⟩

/-! ## A build -/

/-- The pages that were found are built one after another, if the output directory is another place than
the scanned one. -/
theorem build_of_found {options : Options}
    (apart : samePlace t (root.join (options.scope.getD ⟨[]⟩)) (root.join options.out) = false)
    (found : (Scan.pages t root options.scope (some (root.join options.out))).2 = .ok files) :
    (build t root options).tree = (buildPages t (root.join options.out) options.assets files).tree ∧
      (build t root options).result =
        (buildPages t (root.join options.out) options.assets files).result.map fun bs =>
          (Item.sort (bs.flatMap Built.items), Stats.ofBuilt bs) := by
  unfold build
  rw [if_neg (by simp [apart])]
  rcases scanned : Scan.pages t root options.scope (some (root.join options.out)) with ⟨records, files'⟩
  rw [scanned] at found
  obtain rfl := found
  exact ⟨rfl, rfl⟩

/-- A build is done if the pages that were found can be built. -/
theorem exists_answer_of_found {options : Options}
    (apart : samePlace t (root.join (options.scope.getD ⟨[]⟩)) (root.join options.out) = false)
    (found : (Scan.pages t root options.scope (some (root.join options.out))).2 = .ok files)
    (run : (buildPages t (root.join options.out) options.assets files).result.isOk = true) :
    ∃ answer, (build t root options).result = .ok answer := by
  rcases ran : (buildPages t (root.join options.out) options.assets files).result with e | bs
  · rw [ran] at run
    cases run
  · exact ⟨_, by rw [(build_of_found apart found).2, ran]; rfl⟩

/-- What a build comes to: it has not begun, or its pages are built one after another. -/
theorem build_cases (t : FileTree) (root : Path) (options : Options) :
    ((build t root options).result = .error (.overwritesSource (root.join options.out)) ∧
      samePlace t (root.join (options.scope.getD ⟨[]⟩)) (root.join options.out) = true ∧
      (build t root options).tree = t) ∨
    ((build t root options).result =
        .error (.noPages ("Scan path does not exist: " ++ (Scan.start root options.scope).text)) ∧
      t.has (Scan.start root options.scope) = false ∧ (build t root options).tree = t) ∨
    ∃ files, (Scan.pages t root options.scope (some (root.join options.out))).2 = .ok files ∧
      samePlace t (root.join (options.scope.getD ⟨[]⟩)) (root.join options.out) = false ∧
      (build t root options).tree = (buildPages t (root.join options.out) options.assets files).tree ∧
      (build t root options).result =
        (buildPages t (root.join options.out) options.assets files).result.map fun bs =>
          (Item.sort (bs.flatMap Built.items), Stats.ofBuilt bs) := by
  rcases same : samePlace t (root.join (options.scope.getD ⟨[]⟩)) (root.join options.out) with - | -
  · right
    rcases found : (Scan.pages t root options.scope (some (root.join options.out))).2 with reason | files
    · obtain ⟨none, rfl⟩ := Scan.pages_eq_error found
      left
      unfold build
      rw [if_neg (by simp [same])]
      simp only [found]
      exact ⟨trivial, none, trivial⟩
    · exact .inr ⟨files, rfl, rfl, build_of_found same found⟩
  · left
    unfold build
    rw [if_pos same]
    exact ⟨rfl, rfl, rfl⟩

/-- A build that is done has built the pages that were found. -/
theorem build_done {options : Options} {answer : List Item × Stats}
    (found : (Scan.pages t root options.scope (some (root.join options.out))).2 = .ok files)
    (done : (build t root options).result = .ok answer) :
    ∃ bs, (buildPages t (root.join options.out) options.assets files).result = .ok bs ∧
      answer = (Item.sort (bs.flatMap Built.items), Stats.ofBuilt bs) ∧
      (build t root options).tree = (buildPages t (root.join options.out) options.assets files).tree := by
  rcases build_cases t root options with
    ⟨failed, -⟩ | ⟨failed, -⟩ | ⟨files', found', -, tree, result⟩
  · rw [failed] at done
    cases done
  · rw [failed] at done
    cases done
  · obtain rfl := Except.ok.inj (found'.symm.trans found)
    rcases run : (buildPages t (root.join options.out) options.assets files').result with e | bs <;>
      rw [result, run] at done
    · cases done
    · exact ⟨bs, rfl, (Except.ok.inj done).symm, tree⟩

theorem undisturbed_of_found {options : Options}
    (found : (Scan.pages t root options.scope (some out)).2 = .ok files)
    (separate : Separate t out files) : Undisturbed t out files where
  present _ mem := Scan.entryAt_ne_missing found mem
  separate := separate

/-- **Effect**: after a build that is done, each page that can be read has its rendered text at its target.
All other files are as they were, directories and links stay, and new directories lie on the way to such a
target. -/
theorem build_effect {options : Options} {answer : List Item × Stats}
    (found : (Scan.pages t root options.scope (some (root.join options.out))).2 = .ok files)
    (separate : Separate t (root.join options.out) files)
    (done : (build t root options).result = .ok answer) :
    let out := root.join options.out
    let t' := (build t root options).tree
    (∀ f ∈ files, ∀ text, rendered? t options.assets f = some text →
      t'.read (out.join ⟨f.relative⟩) = .ok text.octets) ∧
    (∀ place, ¬ IsTarget t out (readable t options.assets files) place →
      t'.content? place = t.content? place) ∧
    (∀ place, t.isDirectory place → t'.isDirectory place) ∧
    (∀ place, t'.isDirectory place →
      t.isDirectory place ∨ OnWay t out (readable t options.assets files) place) ∧
    ∀ place target, t'.find? place = some (.link target) ↔ t.find? place = some (.link target) := by
  obtain ⟨bs, run, -, tree⟩ := build_done found done
  obtain ⟨-, written, changes⟩ := buildPages_delivers (undisturbed_of_found found separate) run
  dsimp only
  rw [tree]
  refine ⟨?_, ?_, ?_, ?_, ?_⟩
  · intro f mem text read
    exact (written f mem text read).1
  · intro place apart
    exact changes.content?_eq apart
  · intro place before
    exact changes.isDirectory before
  · intro place after
    exact changes.isDirectory_or after
  · intro place target
    exact changes.link_iff

/-- Three pages, one of which is no text, and an output directory in which a link stands for a target. -/
def linkedTarget : FileTree where
  entries :=
    [(["r".toList], .directory), (["r".toList, "a.md".toList], .file [120]),
      (["r".toList, "b.md".toList], .file [0]), (["r".toList, "c.md".toList], .file [122]),
      (["r".toList, "notes.txt".toList], .file [110]), (["r".toList, "site".toList], .directory),
      (["r".toList, "site".toList, "a.md".toList], .link ⟨"../notes.txt".toList⟩)]
  current := []
  distinct := by decide
  named := by decide
  rooted := by decide
  closed := by decide

/-- The pages of `linkedTarget`. -/
def linkedTargetPages : List PageFile :=
  [⟨⟨"/r/a.md".toList⟩, "a.md".toList⟩, ⟨⟨"/r/b.md".toList⟩, "b.md".toList⟩,
    ⟨⟨"/r/c.md".toList⟩, "c.md".toList⟩]

theorem build_effect_linkedTarget :
    let root : Path := ⟨"/r".toList⟩
    let options : Options := { out := ⟨"site".toList⟩ }
    let tree := (build linkedTarget root options).tree
    (build linkedTarget root options).result.isOk = true ∧
      rendered? linkedTarget none ⟨⟨"/r/b.md".toList⟩, "b.md".toList⟩ = none ∧
      tree.read ⟨"/r/site/a.md".toList⟩ = .ok [120] ∧
      tree.read ⟨"/r/site/c.md".toList⟩ = .ok [122] ∧
      tree.content? ["r".toList, "notes.txt".toList] = some [120] ∧
      tree.content? ["r".toList, "site".toList, "b.md".toList] = none ∧
      tree.content? ["r".toList, "c.md".toList] = some [122] ∧
      tree.find? ["r".toList, "site".toList, "a.md".toList] =
        some (.link ⟨"../notes.txt".toList⟩) := by
  intro root options tree
  have found : (Scan.pages linkedTarget root options.scope (some (root.join options.out))).2 =
      .ok linkedTargetPages := by
    have reached : linkedTarget.entryAt root = .ok (["r".toList], .directory) := by decide +kernel
    exact Scan.pages_of_sorted reached (by decide +kernel) (by decide +kernel)
  have apart : samePlace linkedTarget (root.join (options.scope.getD ⟨[]⟩)) (root.join options.out) = false := by
    decide +kernel
  obtain ⟨answer, done⟩ := exists_answer_of_found apart found (by decide +kernel)
  obtain ⟨written, kept, -, -, links⟩ := build_effect found (by decide +kernel) done
  refine ⟨by rw [done]; rfl, by decide +kernel, ?_, ?_, ?_, ?_, ?_, ?_⟩
  · exact written ⟨⟨"/r/a.md".toList⟩, "a.md".toList⟩ (by decide +kernel) "x".toList (by decide +kernel)
  · exact written ⟨⟨"/r/c.md".toList⟩, "c.md".toList⟩ (by decide +kernel) "z".toList (by decide +kernel)
  · -- The link at the target leads there.
    rw [show tree = _ from (build_of_found apart found).1]
    decide +kernel
  · exact kept _ (by decide +kernel)
  · exact kept _ (by decide +kernel)
  · exact (links _ _).2 (by decide +kernel)

/-- **Failure**: a build that fails has not begun, for one of two reasons, or a page could not be written.
The pages before that one have been dealt with, and no file but their targets has changed. -/
theorem build_failure {options : Options} {e : BuildError}
    (failed : (build t root options).result = .error e) :
    let source := root.join (options.scope.getD ⟨[]⟩)
    let start := Scan.start root options.scope
    let out := root.join options.out
    let t' := (build t root options).tree
    (e = .overwritesSource out ∧ samePlace t source out = true ∧ t' = t) ∨
    (e = .noPages ("Scan path does not exist: " ++ start.text) ∧ t.has start = false ∧ t' = t) ∨
    ∃ before f after,
      (Scan.pages t root options.scope (some out)).2 = .ok (before ++ f :: after) ∧
      (before ++ f :: after).Pairwise (fun g g' => Text.le g.relative g'.relative) ∧
      Undelivered out f e ∧
      (Separate t out (before ++ f :: after) →
        (∀ g ∈ before, ∀ text, rendered? t options.assets g = some text →
          t'.read (out.join ⟨g.relative⟩) = .ok text.octets) ∧
        (∀ place, ¬ IsTarget t out (readable t options.assets before) place →
          t'.content? place = t.content? place) ∧
        (rendered? t options.assets f).isSome ∧
        ∀ g ∈ f :: after, ∀ place, t.leads (out.join ⟨g.relative⟩) = some place →
          t'.content? place = t.content? place) := by
  dsimp only
  rcases build_cases t root options with
    ⟨guarded, same, tree⟩ | ⟨missed, none, tree⟩ | ⟨files, found, -, tree, result⟩
  · exact .inl ⟨Except.error.inj (failed.symm.trans guarded), same, tree⟩
  · exact .inr (.inl ⟨Except.error.inj (failed.symm.trans missed), none, tree⟩)
  · right; right
    rw [result] at failed
    rcases run : (buildPages t (root.join options.out) options.assets files).result with e' | bs <;>
      rw [run] at failed
    · obtain rfl := Except.error.inj failed
      obtain ⟨before, f, after, bs, rfl, done, stopped, last⟩ := buildPages_error run
      refine ⟨before, f, after, found, Scan.pages_sorted found, undelivered_of_error stopped, ?_⟩
      intro separate
      exact changes_of_stopped (undisturbed_of_found found separate) done stopped (tree.trans last)
    · cases failed

/-- Three pages and an output directory in which there may be no page with the name of the second one. -/
def refusedTarget : FileTree where
  entries :=
    [(["a.md".toList], .file [120]), (["b.md".toList], .file [121]), (["c.md".toList], .file [122]),
      (["site".toList], .directory)]
  current := []
  refuses place _ := if place = ["site".toList, "b.md".toList] then some .denied else none
  distinct := by decide
  named := by decide
  rooted := by decide
  closed := by decide

/-- The pages of `refusedTarget`. -/
def refusedTargetPages : List PageFile :=
  [⟨⟨"/a.md".toList⟩, "a.md".toList⟩, ⟨⟨"/b.md".toList⟩, "b.md".toList⟩,
    ⟨⟨"/c.md".toList⟩, "c.md".toList⟩]

theorem build_failure_refusedTarget :
    let root : Path := ⟨"/".toList⟩
    let options : Options := { out := ⟨"site".toList⟩ }
    let tree := (build refusedTarget root options).tree
    (build refusedTarget root options).result =
        .error (.undelivered (.noFile ⟨"/site/b.md".toList⟩ .denied)) ∧
      tree.read ⟨"/site/a.md".toList⟩ = .ok [120] ∧
      tree.content? ["site".toList, "b.md".toList] = none ∧
      tree.content? ["site".toList, "c.md".toList] = none ∧
      tree.content? ["c.md".toList] = some [122] := by
  intro root options tree
  have found : (Scan.pages refusedTarget root options.scope (some (root.join options.out))).2 =
      .ok refusedTargetPages := by
    have reached : refusedTarget.entryAt root = .ok ([], .directory) := by decide +kernel
    exact Scan.pages_of_sorted reached (by decide +kernel) (by decide +kernel)
  have stopped : (buildPages refusedTarget (root.join options.out) none refusedTargetPages).result.map
      (fun _ => ()) = .error (.undelivered (.noFile ⟨"/site/b.md".toList⟩ .denied)) := by
    decide +kernel
  have failed : (build refusedTarget root options).result =
      .error (.undelivered (.noFile ⟨"/site/b.md".toList⟩ .denied)) := by
    obtain ⟨-, result⟩ := build_of_found (by decide +kernel) found
    rcases ran : (buildPages refusedTarget (root.join options.out) none refusedTargetPages).result with e | bs <;>
      rw [ran] at stopped
    · obtain rfl := Except.error.inj stopped
      rw [result, ran]
      rfl
    · cases stopped
  rcases build_failure failed with ⟨other, -⟩ | ⟨other, -⟩ | ⟨before, f, after, found', -, why, rest⟩
  · cases other
  · cases other
  · have parts : before ++ f :: after = refusedTargetPages := Except.ok.inj (found'.symm.trans found)
    rcases before with - | ⟨g, - | ⟨g', before⟩⟩ <;>
      simp only [refusedTargetPages, List.nil_append, List.cons_append, List.cons.injEq] at parts
    · obtain ⟨rfl, -⟩ := parts
      exact absurd why.file_eq (by decide +kernel)
    · obtain ⟨rfl, rfl, rfl⟩ := parts
      obtain ⟨written, kept, -, unwritten⟩ := rest (by decide +kernel)
      refine ⟨failed, ?_, ?_, ?_, ?_⟩
      · exact written _ List.mem_cons_self "x".toList (by decide +kernel)
      · exact (unwritten _ List.mem_cons_self _ (by decide +kernel)).trans (by decide +kernel)
      · exact (unwritten ⟨⟨"/c.md".toList⟩, "c.md".toList⟩ (by decide +kernel) _ (by decide +kernel)).trans
          (by decide +kernel)
      · exact kept _ (by decide +kernel)
    · have third : f = ⟨⟨"/c.md".toList⟩, "c.md".toList⟩ := by
        have mem : f ∈ before ++ f :: after := List.mem_append_right before List.mem_cons_self
        rw [parts.2.2] at mem
        exact List.mem_singleton.1 mem
      rw [third] at why
      exact absurd why.file_eq (by decide +kernel)

end Site
end QuizPages
