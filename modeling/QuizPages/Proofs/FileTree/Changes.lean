import QuizPages.Proofs.FileTree.Way

/-!
# Changes of a tree

A tree changes by directories that are made where nothing was and by files that are written, new or in
place of the ones that were (`Changes`). No directory and no link goes, and no file but those that are
written is another one afterwards. So a path leads where it led (`same_leads`), and to the same as before
(`same_entryAt`), unless nothing was there.
-/

namespace QuizPages.FileTree

variable {t t' t'' : FileTree} {way way' written written' : Place → Prop} {place : Place}

@[simp] theorem content?_eq_some_iff {content : Octets} :
    t.content? place = some content ↔ t.find? place = some (.file content) := by
  unfold content?
  rcases t.find? place with - | (- | present) <;> simp

theorem content?_of_directory (h : t.find? place = some .directory) : t.content? place = none := by
  rw [content?, h]

theorem content?_of_vacant (h : t.find? place = none) : t.content? place = none := by
  rw [content?, h]

theorem content?_of_read {p : Path} {content : Octets} (h : t.read p = .ok content)
    (led : t.leads p = some place) : t.content? place = some content := by
  obtain ⟨there, located, found⟩ := read_eq_ok_iff.1 h
  obtain rfl := Option.some.inj (led.symm.trans (leads_of_locate located))
  exact content?_eq_some_iff.2 found

theorem exists_file_of_isFree (free : t.isFree place) (present : (t.find? place).isSome) :
    ∃ content, t.find? place = some (.file content) := by
  unfold isFree at free
  rcases found : t.find? place with - | (- | content | target)
  · simp [found] at present
  · simp [found] at free
  · exact ⟨content, rfl⟩
  · simp [found] at free

theorem not_link_of_isFree (free : t.isFree place) (target : Path) :
    t.find? place ≠ some (.link target) := by
  intro found
  simp [isFree, found] at free

/-- What changes from one tree to another: directories are made at places of `way`, files are written
at places of `written`, and all else stays as it is. -/
structure Changes (way written : Place → Prop) (t t' : FileTree) : Prop where
  current : t'.current = t.current
  refuses : t'.refuses = t.refuses
  /-- Entries keep their order, and new ones come behind them. -/
  places : t.entries.map Prod.fst <+: t'.entries.map Prod.fst
  directory : ∀ {q}, t.find? q = some .directory → t'.find? q = some .directory
  file : ∀ {q content}, t.find? q = some (.file content) →
    t'.find? q = some (.file content) ∨ written q ∧ ∃ new, t'.find? q = some (.file new)
  link : ∀ {q target}, t.find? q = some (.link target) → t'.find? q = some (.link target)
  vacant : ∀ {q}, t.find? q = none →
    t'.find? q = none ∨ (way q ∧ t'.find? q = some .directory) ∨
      (written q ∧ ∃ new, t'.find? q = some (.file new))

namespace Changes

theorem refl (way written : Place → Prop) (t : FileTree) : Changes way written t t :=
  ⟨rfl, rfl, List.prefix_rfl, id, .inl, id, .inl⟩

theorem mono (h : Changes way written t t') (on_way : ∀ q, way q → way' q)
    (in_written : ∀ q, written q → written' q) : Changes way' written' t t' where
  current := h.current
  refuses := h.refuses
  places := h.places
  directory := h.directory
  link := h.link
  file found := (h.file found).imp_right fun ⟨w, new⟩ => ⟨in_written _ w, new⟩
  vacant none := (h.vacant none).imp_right
    (Or.imp (fun ⟨w, made⟩ => ⟨on_way _ w, made⟩) fun ⟨w, new⟩ => ⟨in_written _ w, new⟩)

/-- Forgets where the changes are. -/
theorem any (h : Changes way written t t') : Changes (fun _ => True) (fun _ => True) t t' :=
  h.mono (fun _ _ => trivial) fun _ _ => trivial

theorem trans (h : Changes way written t t') (h' : Changes way written t' t'') :
    Changes way written t t'' where
  current := h'.current.trans h.current
  refuses := h'.refuses.trans h.refuses
  places := h.places.trans h'.places
  link found := h'.link (h.link found)
  directory found := h'.directory (h.directory found)
  file {q content} found := by
    rcases h.file found with same | ⟨w, new, changed⟩
    · exact h'.file same
    · rcases h'.file changed with same | ⟨-, newer⟩
      · exact .inr ⟨w, new, same⟩
      · exact .inr ⟨w, newer⟩
  vacant {q} none := by
    rcases h.vacant none with still | ⟨w, made⟩ | ⟨w, new, made⟩
    · exact h'.vacant still
    · exact .inr (.inl ⟨w, h'.directory made⟩)
    · rcases h'.file made with same | ⟨-, newer⟩
      · exact .inr (.inr ⟨w, new, same⟩)
      · exact .inr (.inr ⟨w, newer⟩)

/-- At each place there is what was there, or a directory where nothing was, or a file that was written where
nothing or a file was. -/
theorem find?_cases (h : Changes way written t t') (place : Place) :
    t'.find? place = t.find? place ∨
    (way place ∧ t.find? place = none ∧ t'.find? place = some .directory) ∨
    (written place ∧ t.isFree place ∧ ∃ new, t'.find? place = some (.file new)) := by
  unfold isFree
  rcases found : t.find? place with - | (- | content | target)
  · rcases h.vacant found with still | ⟨w, made⟩ | ⟨w, made⟩
    · exact .inl still
    · exact .inr (.inl ⟨w, rfl, made⟩)
    · exact .inr (.inr ⟨w, rfl, made⟩)
  · exact .inl (h.directory found)
  · rcases h.file found with same | ⟨w, changed⟩
    · exact .inl same
    · exact .inr (.inr ⟨w, rfl, changed⟩)
  · exact .inl (h.link found)

/-- A file is there afterwards with its content if and only if it was before, unless it was written. -/
theorem content?_eq (h : Changes way written t t') (spared : ¬ written place) :
    t'.content? place = t.content? place := by
  rcases h.find?_cases place with same | ⟨-, none, made⟩ | ⟨w, -⟩
  · simp only [content?, same]
  · rw [content?_of_vacant none, content?_of_directory made]
  · exact absurd w spared

/-- What was a file is one, and nothing else that was there is one. -/
theorem isSome_content? (h : Changes way written t t') (present : (t.find? place).isSome) :
    (t'.content? place).isSome = (t.content? place).isSome := by
  rcases h.find?_cases place with same | ⟨-, none, -⟩ | ⟨-, free, new, changed⟩
  · simp only [content?, same]
  · rw [none] at present
    cases present
  · obtain ⟨content, found⟩ := exists_file_of_isFree free present
    rw [content?_eq_some_iff.2 found, content?_eq_some_iff.2 changed]
    rfl

theorem isDirectory (h : Changes way written t t') (before : t.isDirectory place) :
    t'.isDirectory place := by
  have found : t.find? place = some .directory := by simpa [FileTree.isDirectory] using before
  simp [FileTree.isDirectory, h.directory found]

theorem isDirectory_eq (h : Changes way written t t') (present : (t.find? place).isSome) :
    t'.isDirectory place = t.isDirectory place := by
  rcases h.find?_cases place with same | ⟨-, none, -⟩ | ⟨-, free, new, changed⟩
  · simp only [FileTree.isDirectory, same]
  · rw [none] at present
    cases present
  · obtain ⟨content, found⟩ := exists_file_of_isFree free present
    simp [FileTree.isDirectory, found, changed]

/-- A directory was there before, or lies on the way. -/
theorem isDirectory_or (h : Changes way written t t') (after : t'.isDirectory place) :
    t.isDirectory place ∨ way place := by
  rcases h.find?_cases place with same | ⟨w, -⟩ | ⟨-, -, new, changed⟩
  · simp only [FileTree.isDirectory, same] at after
    exact .inl after
  · exact .inr w
  · simp [FileTree.isDirectory, changed] at after

/-- There is a link if and only if there was. -/
theorem link_iff (h : Changes way written t t') {target : Path} :
    t'.find? place = some (.link target) ↔ t.find? place = some (.link target) := by
  rcases h.find?_cases place with same | ⟨-, none, made⟩ | ⟨-, free, new, changed⟩
  · rw [same]
  · simp [none, made]
  · simp [changed, not_link_of_isFree free]

/-! ## What a path leads to -/

theorem same_lead (h : Changes way written t t') (links : Nat) (here : Place)
    (cs : List Path.Component) : t'.lead links here cs = t.lead links here cs := by
  refine lead_congr (fun here c => ?_) links here cs
  rcases c with - | - | - | n
  · rfl
  · rfl
  · rfl
  · apply Option.ext
    intro target
    rw [linkAt?_name_eq_some_iff, linkAt?_name_eq_some_iff, h.link_iff]

/-- A path leads where it led. -/
theorem same_leads (h : Changes way written t t') (p : Path) : t'.leads p = t.leads p := by
  rw [leads, h.current, h.same_lead, ← leads]

theorem same_meet (h : Changes way written t t') {p q : Path} : t'.Meet p q ↔ t.Meet p q := by
  simp only [Meet, h.same_leads]

theorem same_leadsThrough (h : Changes way written t t') {p : Path} :
    t'.LeadsThrough p place ↔ t.LeadsThrough p place := by
  simp only [LeadsThrough, h.current, h.same_lead]

theorem linkless (h : Changes way written t t') (before : t.Linkless) : t'.Linkless :=
  fun place target after => before place target (h.link_iff.1 after)

theorem same_walkWith (h : Changes way written t t') {follow : Bool}
    {turn turn' : Place → List Text → Except FileError Location}
    (turns : ∀ {here segments}, turn here segments ≠ .error .missing →
      turn' here segments = turn here segments)
    {here : Place} {segments : List Text} (found : t.walkWith follow turn here segments ≠ .error .missing) :
    t'.walkWith follow turn' here segments = t.walkWith follow turn here segments := by
  induction segments generalizing here with
  | nil => rfl
  | cons s segments ih =>
    rw [walkWith] at found ⊢
    rw [walkWith]
    rcases component?_cases s with idle | up | named
    · simp only [idle] at found ⊢
      exact ih found
    · simp only [up] at found ⊢
      exact ih found
    · simp only [named] at found ⊢
      split
      · rfl
      · rename_i short
        rw [if_neg short] at found
        rcases entry : t.find? (here ++ [s]) with - | (- | content | target) <;> simp only [entry] at found
        · -- Nothing is looked for behind the name, and so what has come there makes no difference.
          split at found
          · rename_i ended
            rcases h.vacant entry with none | ⟨-, made⟩ | ⟨-, new, made⟩
            · simp only [none, ended]
            · simp only [made, ended, if_true]
            · simp only [made, ended, if_true]
          · exact absurd rfl found
        · simp only [h.directory entry]
          split
          · rfl
          · rename_i further
            rw [if_neg further] at found
            exact ih found
        · rcases h.file entry with same | ⟨-, new, changed⟩
          · simp only [same]
          · simp only [changed]
        · simp only [h.link entry]
          split
          · rfl
          · rename_i further
            rw [if_neg further] at found
            exact turns found

/-- A walk that is not stopped for want of an entry goes the same way. -/
theorem same_walk (h : Changes way written t t') {follow : Bool} {links : Nat} {here : Place}
    {segments : List Text} (found : t.walk follow links here segments ≠ .error .missing) :
    t'.walk follow links here segments = t.walk follow links here segments := by
  induction links generalizing here segments with
  | zero => exact h.same_walkWith (fun _ => rfl) found
  | succ links ih => exact h.same_walkWith ih found

theorem same_locate (h : Changes way written t t') {p : Path}
    (found : t.locate p ≠ .error .missing) : t'.locate p = t.locate p := by
  rw [FileTree.locate, lookUp] at found ⊢
  rw [FileTree.locate, lookUp, h.current]
  split
  · rfl
  · rename_i plain
    rw [if_neg plain] at found
    split
    · rfl
    · rename_i short
      rw [if_neg short] at found
      split
      · rfl
      · rename_i present
        rw [if_neg present] at found
        exact h.same_walk found

theorem locate (h : Changes way written t t') {p : Path} {loc : Location}
    (located : t.locate p = .ok loc) : t'.locate p = .ok loc := by
  rw [h.same_locate (by rw [located]; nofun), located]

/-- What a path leads to is the same, unless it leads nowhere for want of an entry, or to a file that is
written. -/
theorem same_entryAt (h : Changes way written t t') {p : Path}
    (found : t.entryAt p ≠ .error .missing)
    (spared : ∀ {place content}, t.entryAt p = .ok (place, .file content) → ¬ written place) :
    t'.entryAt p = t.entryAt p := by
  unfold entryAt at found spared ⊢
  rcases located : t.locate p with e | (there | ⟨there, slash⟩)
  · rw [h.same_locate (fun missing => found (by rw [missing]; rfl)), located]
    rfl
  · rw [h.locate located]
    rfl
  · rw [h.locate located]
    rw [located] at found spared
    simp only [bind, Except.bind] at found spared ⊢
    rcases entry : t.find? there with - | (- | content | target) <;> simp only [entry] at found spared
    · exact absurd rfl found
    · rw [h.directory entry]
    · rcases h.file entry with same | ⟨w, new, changed⟩
      · rw [same]
      · rw [changed]
        rcases slash with - | -
        · exact absurd w (spared rfl)
        · rfl
    · rw [h.link entry]

theorem same_entryAt_of_spared (h : Changes way written t t') {p : Path}
    (found : t.entryAt p ≠ .error .missing) (spared : ∀ place, t.leads p = some place → ¬ written place) :
    t'.entryAt p = t.entryAt p := by
  apply h.same_entryAt found
  intro place content reached
  exact spared place (leads_of_entryAt reached)

theorem read (h : Changes way written t t') {p : Path} {content : Octets}
    (before : t.read p = .ok content) (spared : ∀ place, t.leads p = some place → ¬ written place) :
    t'.read p = .ok content := by
  have found : t.entryAt p ≠ .error .missing := by
    intro missing
    rw [FileTree.read, missing] at before
    cases before
  rw [FileTree.read, h.same_entryAt_of_spared found spared]
  exact before

theorem hasDirectory (h : Changes way written t t') {p : Path} (before : t.hasDirectory p = true) :
    t'.hasDirectory p = true := by
  obtain ⟨place, reached⟩ := entryAt_of_hasDirectory before
  apply hasDirectory_of_entryAt
  rw [h.same_entryAt (by rw [reached]; nofun) (by rw [reached]; nofun), reached]

end Changes

/-! ## One entry -/

theorem places_insert {q : Place} {e : Entry} (room : t.Room q) :
    t.entries.map Prod.fst <+: (t.insert q e room).entries.map Prod.fst := by
  have whole : (t.insert q e room).entries = Entry.upsert q e t.entries := rfl
  rw [whole, Entry.places_upsert]
  split
  · exact List.prefix_rfl
  · exact List.prefix_append _ _

theorem changes_insert_directory {q : Place} (room : t.Room q) (none : t.find? q = none) (on_way : way q) :
    Changes way written t (t.insert q .directory room) where
  current := rfl
  refuses := rfl
  places := places_insert room
  directory {p} found := by
    rw [find?_insert]
    split
    · rfl
    · exact found
  file {p content} found := by
    have apart : p ≠ q := by
      rintro rfl
      rw [none] at found
      cases found
    exact .inl (by rw [find?_insert, if_neg apart, found])
  link {p target} found := by
    have apart : p ≠ q := by
      rintro rfl
      rw [none] at found
      cases found
    rw [find?_insert, if_neg apart, found]
  vacant {p} absent := by
    rw [find?_insert]
    split
    · rename_i same
      exact .inr (.inl ⟨same ▸ on_way, rfl⟩)
    · exact .inl absent

theorem changes_insert_file {q : Place} {content : Octets} (room : t.Room q) (in_written : written q) :
    Changes way written t (t.insert q (.file content) room) where
  current := rfl
  refuses := rfl
  places := places_insert room
  directory {p} found := by
    have apart : p ≠ q := by
      rintro rfl
      exact room.not_directory (by simp [isDirectory, found])
    rw [find?_insert, if_neg apart, found]
  file {p present} found := by
    rw [find?_insert]
    split
    · rename_i same
      exact .inr ⟨same ▸ in_written, content, rfl⟩
    · exact .inl found
  link {p target} found := by
    have apart : p ≠ q := by
      rintro rfl
      exact not_link_of_isFree room.free target found
    rw [find?_insert, if_neg apart, found]
  vacant {p} absent := by
    rw [find?_insert]
    split
    · rename_i same
      exact .inr (.inr ⟨same ▸ in_written, content, rfl⟩)
    · exact .inl absent

end QuizPages.FileTree
