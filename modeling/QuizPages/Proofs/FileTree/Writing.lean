import QuizPages.FileTree.Delivery
import QuizPages.Proofs.FileTree.Changes
import QuizPages.Proofs.FileTree.Reach

/-!
# What writing changes

Directories are only made on the way of the path that is asked for (`changes_makeAll`), and a file is
written at the place that its path leads to. A text delivered changes the file at its target and no
other (`changes_deliver`); `deliver_cases` tells all that can become of it, and what was delivered once
can be delivered again (`deliver_again`). None of this depends on why the system refuses what it refuses;
what is not done is not done because of the path or because the system refuses it (`write_eq_error`,
`makeDirectory_eq_error`).
-/

namespace QuizPages.FileTree

variable {t t' t'' : FileTree} {way written : Place → Prop}

/-! ## Directories -/

theorem Walks.filterMap_ne_nil {follow : Bool} {links : Nat} {here : Place} {segments : List Text}
    {loc : Location} (h : Walks t follow links here segments loc)
    (named : ∀ place, loc ≠ .directory place) : segments.filterMap Path.component? ≠ [] := by
  induction h with
  | done => exact absurd rfl (named _)
  | idle idle _ ih =>
    rw [List.filterMap_cons_none idle]
    exact ih named
  | up name | enter name | turn name | last name =>
    rw [List.filterMap_cons_some name]
    exact List.cons_ne_nil _ _

theorem components_ne_nil_of_named {follow : Bool} {p : Path} {place : Place} {slash : Bool}
    (h : t.lookUp follow p = .ok (.named place slash)) : p.components ≠ [] := by
  have walks := (lookUp_eq_ok_iff.1 h).2.2.2
  rw [Path.components_eq]
  exact List.append_ne_nil_of_right_ne_nil _ (walks.filterMap_ne_nil nofun)

/-- A directory is made where its path leads, and nothing was there. -/
theorem makeDirectory_eq_ok {p : Path} (h : t.makeDirectory p = .ok t') :
    ∃ place slash room, t.locate p = .ok (.named place slash) ∧ t.leads p = some place ∧
      t.find? place = none ∧ t' = t.insert place .directory room := by
  unfold makeDirectory at h
  rcases located : t.lookUp false p with x | (there | ⟨place, slash⟩) <;> rw [located] at h
  · cases h
  · cases h
  · simp only [bind, Except.bind] at h
    split at h
    · cases h
    · rename_i vacant
      have vacant : t.find? place = none := by simpa using vacant
      obtain ⟨-, room, rfl⟩ := put_eq_ok_iff.1 h
      have settled : (Location.named place slash).Settled t := fun target => by simp [vacant]
      exact ⟨place, slash, room, locate_of_lookUp located settled, leads_of_lookUp located settled, vacant,
        rfl⟩

theorem put_eq_error {p : Place} {entry : Entry} {e : FileError} (room : t.Room p)
    (h : t.put p entry = .error e) : t.refuses p entry = some e := by
  unfold put at h
  split at h
  · rename_i reason refused
    rw [refused, Except.error.inj h]
  · rw [dif_pos room] at h
    cases h

/-- A directory is not made because of its path, because something is there, or because the system refuses
it. -/
theorem makeDirectory_eq_error {p : Path} {e : FileError} (here : t.isDirectory t.current)
    (h : t.makeDirectory p = .error e) :
    t.lookUp false p = .error e ∨ e = .present ∨
      ∃ place, t.leads p = some place ∧ t.refuses place .directory = some e := by
  unfold makeDirectory at h
  rcases located : t.lookUp false p with x | (there | ⟨place, slash⟩) <;> rw [located] at h
  · exact .inl (congrArg _ (Except.error.inj h))
  · exact .inr (.inl (Except.error.inj h).symm)
  · right
    simp only [bind, Except.bind] at h
    split at h
    · exact .inl (Except.error.inj h).symm
    · rename_i vacant
      have vacant : t.find? place = none := by simpa using vacant
      have settled : (Location.named place slash).Settled t := fun target => by simp [vacant]
      have room := room_of_lookUp here located (by rw [isFree, vacant])
      exact .inr ⟨place, leads_of_lookUp located settled, put_eq_error room h⟩

theorem changes_makeDirectory (written : Place → Prop) {p : Path} (h : t.makeDirectory p = .ok t') :
    Changes (t.LeadsThrough p) written t t' := by
  obtain ⟨place, slash, room, located, led, none, rfl⟩ := makeDirectory_eq_ok h
  exact changes_insert_directory room none
    (leadsThrough_of_leads (components_ne_nil_of_named located) led)

theorem hasDirectory_of_makeDirectory {p : Path} (h : t.makeDirectory p = .ok t') :
    t'.hasDirectory p = true := by
  have changes := changes_makeDirectory (fun _ => False) h
  obtain ⟨place, slash, room, located, -, -, rfl⟩ := makeDirectory_eq_ok h
  have reached : (t.insert place .directory room).entryAt p = .ok (place, .directory) := by
    unfold entryAt
    rw [changes.locate located]
    simp only [bind, Except.bind, find?_insert, if_pos]
    rfl
  exact hasDirectory_of_entryAt reached

/-- A directory that is there need not be made. -/
theorem makeOne_of_hasDirectory {p : Path} (h : t.hasDirectory p = true) : t.makeOne p = (t, .ok ()) := by
  rw [makeOne, if_pos h]

theorem changes_makeOne (t : FileTree) (written : Place → Prop) (p : Path) :
    Changes (t.LeadsThrough p) written t (t.makeOne p).1 ∧
      ((t.makeOne p).2 = .ok () → (t.makeOne p).1.hasDirectory p = true) := by
  unfold makeOne
  split
  · rename_i there
    exact ⟨.refl _ _ t, fun _ => there⟩
  · rcases made : t.makeDirectory p with e | t'
    · exact ⟨.refl _ _ t, nofun⟩
    · exact ⟨changes_makeDirectory written made, fun _ => hasDirectory_of_makeDirectory made⟩

theorem changes_makeUp (t : FileTree) (written : Place → Prop) (p : Path) {above : List Path}
    (begin : ∀ q ∈ above, q.components <+: p.components) :
    Changes (t.LeadsThrough p) written t (t.makeUp above).1 ∧
      ∀ q ∈ above.head?, (t.makeUp above).2 = .ok () →
        q.text = [] ∨ (t.makeUp above).1.hasDirectory q = true := by
  induction above with
  | nil => exact ⟨.refl _ _ t, nofun⟩
  | cons q above ih =>
    obtain ⟨first, later⟩ := List.forall_mem_cons.1 begin
    have head : ∀ q' ∈ (q :: above).head?, q = q' := fun q' mem => Option.some.inj mem
    have next {t' : FileTree} (changes : Changes (t.LeadsThrough p) written t t') :
        Changes (t.LeadsThrough p) written t (t'.makeOne q).1 := by
      have made := (changes_makeOne t' written q).1
      exact changes.trans (made.mono
        (fun place through => changes.same_leadsThrough.1 (leadsThrough_of_isPrefix first through))
        fun _ => id)
    rw [makeUp]
    split
    · rename_i empty
      refine ⟨.refl _ _ t, fun q' mem _ => .inl ?_⟩
      rw [← head q' mem]
      exact List.isEmpty_iff.1 empty
    · split
      · have rest := (ih later).1
        split
        · rename_i t' made
          rw [made] at rest
          refine ⟨next rest, fun q' mem done => .inr ?_⟩
          rw [← head q' mem]
          exact (changes_makeOne t' written q).2 done
        · rename_i failed
          exact ⟨rest, fun q' mem done => (failed _ (Prod.ext rfl done)).elim⟩
      · refine ⟨next (.refl _ _ t), fun q' mem done => .inr ?_⟩
        rw [← head q' mem]
        exact (changes_makeOne t written q).2 done

/-- Making directories changes no file, also if not all of them can be made; if they could, the last is
there. -/
theorem changes_makeAll (t : FileTree) (written : Place → Prop) (p : Path) :
    Changes (t.LeadsThrough p) written t (t.makeAll p).1 ∧
      ((t.makeAll p).2 = .ok () → p.text = [] ∨ (t.makeAll p).1.hasDirectory p = true) := by
  obtain ⟨changes, there⟩ := changes_makeUp t written p fun _ => Path.isPrefix_of_mem_ancestors
  refine ⟨changes, there p ?_⟩
  rw [Path.ancestors_eq]
  rfl

/-- A directory that is there need not be made, nor those above it. -/
theorem makeAll_of_hasDirectory {p : Path} (h : t.hasDirectory p = true) : t.makeAll p = (t, .ok ()) := by
  rw [makeAll, Path.ancestors_eq, makeUp, makeOne_of_hasDirectory h]
  split <;> rfl

/-! ## Files -/

/-- A file is written where its path leads, in a directory that is there. -/
theorem write_eq_ok {p : Path} {content : Octets} (h : t.write p content = .ok t') :
    ∃ place room, t.locate p = .ok (.named place false) ∧ t.leads p = some place ∧
      t.refuses place (.file content) = none ∧ t' = t.insert place (.file content) room := by
  unfold write at h
  rcases located : t.locate p with x | (there | ⟨place, slash⟩) <;> rw [located] at h
  · cases h
  · cases h
  · simp only [bind, Except.bind] at h
    split at h
    · cases h
    · rename_i proper
      have bare : slash = false := by
        rw [Bool.or_eq_true, not_or] at proper
        exact Bool.eq_false_iff.2 proper.2
      obtain ⟨allowed, room, rfl⟩ := put_eq_ok_iff.1 h
      exact ⟨place, room, by rw [bare], leads_of_locate located, allowed, rfl⟩

/-- A file is not written because of its path, or because the system refuses it. -/
theorem write_eq_error {p : Path} {content : Octets} {e : FileError} (here : t.isDirectory t.current)
    (h : t.write p content = .error e) :
    t.locate p = .error e ∨ e = .isDirectory ∨
      ∃ place, t.leads p = some place ∧ t.refuses place (.file content) = some e := by
  unfold write at h
  rcases located : t.locate p with x | (there | ⟨place, slash⟩) <;> rw [located] at h
  · exact .inl (congrArg _ (Except.error.inj h))
  · exact .inr (.inl (Except.error.inj h).symm)
  · right
    simp only [bind, Except.bind] at h
    split at h
    · exact .inl (Except.error.inj h).symm
    · rename_i proper
      have vacant : t.isFree place := by
        rcases found : t.find? place with - | (- | content' | target)
        · simp [isFree, found]
        · simp [isDirectory, found] at proper
        · simp [isFree, found]
        · exact absurd found (settled_of_locate located target)
      exact .inr ⟨place, leads_of_locate located, put_eq_error (room_of_lookUp here located vacant) h⟩

theorem changes_write (way : Place → Prop) {p : Path} {content : Octets}
    (h : t.write p content = .ok t') : Changes way (t.leads p = some ·) t t' := by
  obtain ⟨place, room, -, led, -, rfl⟩ := write_eq_ok h
  exact changes_insert_file room led

theorem read_write {p : Path} {content : Octets} (h : t.write p content = .ok t') :
    t'.read p = .ok content := by
  have changes := changes_write (fun _ => False) h
  obtain ⟨place, room, located, -, -, rfl⟩ := write_eq_ok h
  exact read_eq_ok_iff.2 ⟨place, changes.locate located, by rw [find?_insert, if_pos rfl]⟩

/-- What was written to a file can be written to it again, whatever else was changed in between. -/
theorem exists_write_again {p : Path} {content : Octets} (h : t.write p content = .ok t')
    (later : Changes way written t' t'') : ∃ t₃, t''.write p content = .ok t₃ := by
  have changes := changes_write (fun _ => False) h
  obtain ⟨place, room, located, -, allowed, rfl⟩ := write_eq_ok h
  have same : t''.locate p = .ok (.named place false) := later.locate (changes.locate located)
  have within : t''.isDirectory place.dropLast := later.isDirectory (changes.isDirectory room.inside)
  have written : ∃ present, t''.find? place = some (.file present) := by
    rcases later.file (q := place) (by rw [find?_insert, if_pos rfl]) with found | ⟨-, found⟩
    · exact ⟨content, found⟩
    · exact found
  obtain ⟨present, found⟩ := written
  have again : t''.Room place :=
    { named := room.named
      below := room.below
      inside := within
      free := by rw [isFree, found] }
  have allowed : t''.refuses place (.file content) = none := by
    rw [later.refuses, changes.refuses]
    exact allowed
  have proper : (t''.isDirectory place || false) = false := by simp [isDirectory, found]
  refine ⟨t''.insert place (.file content) again, ?_⟩
  unfold write
  rw [same]
  simp only [bind, Except.bind, proper, Bool.false_eq_true, if_false]
  exact put_eq_ok_iff.2 ⟨allowed, again, rfl⟩

/-! ## Delivering -/

/-- All that can become of a text that is delivered: its directory cannot be made, its file cannot be
written, or it is written. Only the last changes a file. -/
theorem deliver_cases (t : FileTree) (written : Place → Prop) (target : Path) (text : Text) :
    (∃ dir e, target.parent? = some dir ∧ (t.deliver target text).2 = .error (.noDirectory dir e) ∧
      Changes (t.LeadsThrough target) written t (t.deliver target text).1) ∨
    (∃ e, (t.deliver target text).2 = .error (.noFile target e) ∧
      Changes (t.LeadsThrough target) written t (t.deliver target text).1) ∨
    ∃ made, (t.deliver target text).2 = .ok () ∧
      Changes (t.LeadsThrough target) written t made ∧
      (∀ dir, target.parent? = some dir → dir.text = [] ∨ made.hasDirectory dir = true) ∧
      made.write target text.octets = .ok (t.deliver target text).1 := by
  unfold deliver
  rcases parent : target.parent? with - | dir
  · dsimp only
    rcases done : t.write target text.octets with e | t'
    · exact .inr (.inl ⟨e, rfl, .refl _ _ t⟩)
    · exact .inr (.inr ⟨t, rfl, .refl _ _ t, nofun, done⟩)
  · obtain ⟨changes, there⟩ := changes_makeAll t written dir
    have begin : dir.components <+: target.components := by
      obtain ⟨c, whole⟩ := Path.components_of_parent? parent
      exact whole ▸ List.prefix_append _ _
    have changes : Changes (t.LeadsThrough target) written t (t.makeAll dir).1 :=
      changes.mono (fun _ => leadsThrough_of_isPrefix begin) fun _ => id
    rcases run : t.makeAll dir with ⟨made, e | _⟩ <;> rw [run] at changes there <;>
      simp only [run, Except.mapError]
    · exact .inl ⟨dir, e, rfl, rfl, changes⟩
    · rcases done : made.write target text.octets with e | t'
      · exact .inr (.inl ⟨e, rfl, changes⟩)
      · refine .inr (.inr ⟨made, rfl, changes, fun d same => ?_, done⟩)
        exact Option.some.inj same ▸ there rfl

/-- Delivering a text changes no file but the one at its target. -/
theorem changes_deliver (t : FileTree) (target : Path) (text : Text) :
    Changes (t.LeadsThrough target) (t.leads target = some ·) t (t.deliver target text).1 := by
  rcases deliver_cases t _ target text with
    ⟨dir, e, -, -, changes⟩ | ⟨e, -, changes⟩ | ⟨made, -, changes, -, done⟩
  · exact changes
  · exact changes
  · have last := changes_write (t.LeadsThrough target) done
    rw [changes.same_leads] at last
    exact changes.trans last

theorem read_deliver {target : Path} {text : Text} (h : (t.deliver target text).2 = .ok ()) :
    (t.deliver target text).1.read target = .ok text.octets := by
  rcases deliver_cases t (fun _ => False) target text with
    ⟨dir, e, -, failed, -⟩ | ⟨e, failed, -⟩ | ⟨made, -, -, -, done⟩
  · rw [failed] at h
    cases h
  · rw [failed] at h
    cases h
  · exact read_write done

/-- What was delivered once can be delivered again, whatever else was changed in between. -/
theorem deliver_again {target : Path} {text : Text} (h : (t.deliver target text).2 = .ok ())
    (later : Changes way written (t.deliver target text).1 t') : (t'.deliver target text).2 = .ok () := by
  rcases deliver_cases t (fun _ => False) target text with
    ⟨dir, e, -, failed, -⟩ | ⟨e, failed, -⟩ | ⟨made, -, changes, there, done⟩
  · rw [failed] at h
    cases h
  · rw [failed] at h
    cases h
  · obtain ⟨t₃, again⟩ := exists_write_again done later
    have remade : ∀ dir, target.parent? = some dir → t'.makeAll dir = (t', .ok ()) := by
      intro dir parent
      rcases there dir parent with empty | made
      · rw [makeAll, Path.ancestors_eq, makeUp, if_pos (by rw [empty]; rfl)]
      · exact makeAll_of_hasDirectory
          (later.hasDirectory ((changes_write (fun _ => False) done).hasDirectory made))
    unfold deliver
    rcases parent : target.parent? with - | dir
    · simp only [again]
    · simp only [remade dir parent, again, Except.mapError]

/-- Whether a text can be delivered to a path, now and after all changes. -/
def Accepts (t : FileTree) (target : Path) (text : Text) : Prop :=
  ∀ t', Changes (fun _ => True) (fun _ => True) t t' → (t'.deliver target text).2 = .ok ()

theorem Accepts.later {target : Path} {text : Text} (h : t.Accepts target text)
    (changes : Changes way written t t') : t'.Accepts target text :=
  fun _ more => h _ (changes.any.trans more)

theorem accepts_deliver {target : Path} {text : Text} (h : (t.deliver target text).2 = .ok ()) :
    (t.deliver target text).1.Accepts target text :=
  fun _ later => deliver_again h later

end QuizPages.FileTree
