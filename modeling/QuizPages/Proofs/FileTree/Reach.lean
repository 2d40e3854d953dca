import QuizPages.Proofs.FileTree.Location

/-!
# Reaching what is there

Whatever is above an entry is a directory (`isDirectory_of_append`), so a path that goes on by the names of a
file from a directory that is reached is not stopped for want of an entry: it leads to the file, or the path
or one of the names is too long, or there is a NUL in it (`entryAt_pathAlong_ne_missing`). It meets no link
behind that directory; on the way there it may have met some. Where a path names nothing or a file there is
room for one (`room_of_lookUp`).
-/

namespace QuizPages

/-- A name is more than separators. -/
theorem Path.IsName.all_isEmpty {n : Text} (h : IsName n) (segments : List Text) :
    (n :: segments).all List.isEmpty = false := by
  have nonempty : n.isEmpty = false := by simpa using h.ne_nil
  rw [List.all_cons, nonempty, Bool.false_and]

theorem Path.isAbsolute_pathAlong {names : List Text} (named : ∀ n ∈ names, IsName n) (base : Path) :
    (Scan.pathAlong base names).isAbsolute = base.isAbsolute := by
  induction names generalizing base with
  | nil => rfl
  | cons n names ih =>
    obtain ⟨name, later⟩ := List.forall_mem_cons.1 named
    rw [Scan.pathAlong, List.foldl_cons, ← Scan.pathAlong, ih later, isAbsolute_join name.isAbsolute]

namespace FileTree

open QuizPages.Path

variable {t : FileTree}

/-! ## Above an entry -/

theorem isDirectory_dropLast {q : Place} (below : q ≠ []) (present : (t.find? q).isSome) :
    t.isDirectory q.dropLast := by
  have closed := t.closed q ((mem_places_iff below).2 present)
  unfold isDirectory find?
  by_cases top : q.dropLast = []
  · simp [top]
  · simpa [top] using closed

theorem isDirectory_of_append {d m : Place} (moved : m ≠ []) (present : (t.find? (d ++ m)).isSome) :
    t.isDirectory d := by
  induction m using List.reverseRecOn with
  | nil => exact absurd rfl moved
  | append_singleton m n ih =>
    have above : t.isDirectory (d ++ m) := by
      have := isDirectory_dropLast (by simp) present
      rwa [← List.append_assoc, List.dropLast_concat] at this
    by_cases empty : m = []
    · rwa [empty, List.append_nil] at above
    · have found : t.find? (d ++ m) = some .directory := by simpa [isDirectory] using above
      exact ih empty (by rw [found]; rfl)

/-! ## Further segments -/

/-- A name with more behind it has to lead to a directory. -/
theorem walkWith_name {follow : Bool} {turn : Place → List Text → Except FileError Location} {s : Text}
    (named : component? s = some (.name s)) {segments : List Text}
    (further : segments.all List.isEmpty = false) (here : Place) :
    t.walkWith follow turn here (s :: segments) =
      if maxName < s.size then .error .longName
      else
        match t.find? (here ++ [s]) with
        | some .directory => t.walkWith follow turn (here ++ [s]) segments
        | some (.file _) => .error .notDirectory
        | some (.link target) => turn (here.origin target) (Text.splitAt '/' target.text ++ segments)
        | none => .error .missing := by
  rcases found : t.find? (here ++ [s]) with - | (- | content | target) <;>
    simp only [walkWith, named, further, found, Bool.false_and, Bool.false_eq_true, if_false]

theorem exists_walkWith_append {follow : Bool} (links : Nat)
    {turn : Place → List Text → Except FileError Location}
    (whole : ∀ here segments, t.walk follow links here segments = t.walkWith follow turn here segments)
    (turns : ∀ here before, ∃ reached : Except FileError (Nat × Place),
      ∀ segments, segments.all List.isEmpty = false →
        turn here (before ++ segments) = reached.bind fun r => t.walk follow r.1 r.2 segments)
    (here : Place) (before : List Text) :
    ∃ reached : Except FileError (Nat × Place), ∀ segments, segments.all List.isEmpty = false →
      t.walkWith follow turn here (before ++ segments) =
        reached.bind fun r => t.walk follow r.1 r.2 segments := by
  induction before generalizing here with
  | nil => exact ⟨.ok (links, here), fun segments _ => (whole here segments).symm⟩
  | cons s before ih =>
    have further {segments : List Text} (more : segments.all List.isEmpty = false) :
        (before ++ segments).all List.isEmpty = false := by
      rw [List.all_append, more, Bool.and_false]
    simp only [List.cons_append]
    rcases component?_cases s with idle | up | named
    · simp only [walkWith, idle]
      exact ih here
    · simp only [walkWith, up]
      exact ih here.dropLast
    · by_cases long : maxName < s.size
      · refine ⟨.error .longName, fun segments more => ?_⟩
        rw [walkWith_name named (further more), if_pos long]
        rfl
      · rcases found : t.find? (here ++ [s]) with - | (- | content | target)
        · refine ⟨.error .missing, fun segments more => ?_⟩
          simp only [walkWith_name named (further more), long, found, if_false]
          rfl
        · obtain ⟨reached, goes⟩ := ih (here ++ [s])
          refine ⟨reached, fun segments more => ?_⟩
          simp only [walkWith_name named (further more), long, found, if_false]
          exact goes segments more
        · refine ⟨.error .notDirectory, fun segments more => ?_⟩
          simp only [walkWith_name named (further more), long, found, if_false]
          rfl
        · obtain ⟨reached, goes⟩ := turns (here.origin target) (Text.splitAt '/' target.text ++ before)
          refine ⟨reached, fun segments more => ?_⟩
          simp only [walkWith_name named (further more), long, found, if_false]
          rw [← List.append_assoc]
          exact goes segments more

/-- How far a walk gets along its first segments is the same whatever comes behind them, if anything does. -/
theorem exists_walk_append (t : FileTree) (follow : Bool) (links : Nat) (here : Place)
    (before : List Text) :
    ∃ reached : Except FileError (Nat × Place), ∀ segments, segments.all List.isEmpty = false →
      t.walk follow links here (before ++ segments) =
        reached.bind fun r => t.walk follow r.1 r.2 segments := by
  induction links generalizing here before with
  | zero =>
    exact exists_walkWith_append 0 (fun _ _ => rfl)
      (fun _ _ => ⟨.error .tooManyLinks, fun _ _ => rfl⟩) here before
  | succ links ih => exact exists_walkWith_append (links + 1) (fun _ _ => rfl) ih here before

/-- A walk to a directory gets as far as that. -/
theorem Walks.arrive {links : Nat} {here : Place} {segments : List Text} {loc : Location}
    (h : Walks t true links here segments loc)
    (directory : ∀ slash, loc = .named loc.place slash → t.find? loc.place = some .directory) :
    Walks t true links here (segments ++ [['.']]) (.directory loc.place) := by
  induction h with
  | done => exact .idle rfl .done
  | idle idle _ ih => exact .idle idle (ih directory)
  | up up _ ih => exact .up up (ih directory)
  | enter named short further found _ ih =>
    exact .enter named short (by simp [further]) found (ih directory)
  | turn named short _ found _ ih =>
    have rest := ih directory
    rw [List.append_assoc] at rest
    exact .turn named short (Bool.and_false _) found rest
  | @last links here s segments named short ended _ =>
    have found : t.find? (here ++ [s]) = some .directory := directory _ rfl
    have rest : Walks t true links (here ++ [s]) (segments ++ [['.']]) (.directory (here ++ [s])) := by
      clear named found directory
      induction segments with
      | nil => exact .idle rfl .done
      | cons e segments ih =>
        rw [List.all_cons, Bool.and_eq_true] at ended
        refine .idle ?_ (ih ended.2)
        rw [List.isEmpty_iff.1 ended.1]
        rfl
    exact .enter named short (by simp) found rest

/-- A path that reaches a directory gets to it, along less links than are allowed, and goes on from there. -/
theorem exists_walk_of_entryAt {p : Path} {here : Place} (h : t.entryAt p = .ok (here, .directory)) :
    ∃ links, ∀ segments, segments.all List.isEmpty = false →
      t.walk true maxLinks (t.current.origin p) (Text.splitAt '/' p.text ++ segments) =
        t.walk true links here segments := by
  have arrived : t.walk true maxLinks (t.current.origin p) (Text.splitAt '/' p.text ++ [['.']]) =
      .ok (.directory here) := by
    rw [walk_eq_ok_iff]
    rcases entryAt_cases h with ⟨located, -⟩ | ⟨slash, located, found, -⟩
    · exact (lookUp_eq_ok_iff.1 located).2.2.2.arrive nofun
    · exact (lookUp_eq_ok_iff.1 located).2.2.2.arrive fun _ _ => found
  obtain ⟨reached, goes⟩ :=
    exists_walk_append t true maxLinks (t.current.origin p) (Text.splitAt '/' p.text)
  rcases reached with e | ⟨links, there⟩
  · rw [goes _ rfl] at arrived
    cases arrived
  · have same : there = here := by
      rw [goes _ rfl] at arrived
      have idle : t.walk true links there [['.']] = .ok (.directory there) :=
        walk_eq_ok_iff.2 (.idle rfl .done)
      exact Location.directory.inj (Except.ok.inj (idle.symm.trans arrived))
    exact ⟨links, fun segments more => same ▸ goes segments more⟩

/-! ## Further names -/

/-- A name behind a path is one segment more, as far as a walk can tell. -/
theorem walk_join {n : Text} (h : IsName n) (base : Path) (here : Place) (segments : List Text) :
    t.walk true maxLinks here (Text.splitAt '/' (base.join ⟨n⟩).text ++ segments) =
      t.walk true maxLinks here (Text.splitAt '/' base.text ++ n :: segments) := by
  have idle (links : Nat) (here : Place) :
      t.walk true links here ([] :: n :: segments) = t.walk true links here (n :: segments) := by
    cases links <;> rfl
  by_cases empty : base.text = []
  · rw [join_of_empty empty, Text.splitAt_of_notMem h.unseparated, empty]
    exact (idle _ _).symm
  · obtain ⟨before, joined, text | text⟩ := join_text_of_relative h.isAbsolute empty
    · rw [joined, Text.splitAt_append, Text.splitAt_of_notMem h.unseparated, text, List.append_assoc]
      rfl
    · obtain ⟨reached, goes⟩ := exists_walk_append t true maxLinks here (Text.splitAt '/' before)
      have cut : Text.splitAt '/' (before ++ ['/']) = Text.splitAt '/' before ++ [[]] :=
        Text.splitAt_append ..
      rw [joined, Text.splitAt_append, Text.splitAt_of_notMem h.unseparated, text, cut, List.append_assoc,
        List.append_assoc, List.singleton_append, List.singleton_append, goes _ (h.all_isEmpty segments),
        goes _ (by rw [List.all_cons, h.all_isEmpty, Bool.and_false])]
      rcases reached with e | ⟨links, there⟩
      · rfl
      · exact (idle links there).symm

theorem walk_pathAlong {names : List Text} (named : ∀ n ∈ names, IsName n) (base : Path) (here : Place)
    (segments : List Text) :
    t.walk true maxLinks here (Text.splitAt '/' (Scan.pathAlong base names).text ++ segments) =
      t.walk true maxLinks here (Text.splitAt '/' base.text ++ (names ++ segments)) := by
  induction names generalizing base with
  | nil => rfl
  | cons n names ih =>
    obtain ⟨name, later⟩ := List.forall_mem_cons.1 named
    rw [Scan.pathAlong, List.foldl_cons, ← Scan.pathAlong, ih later, walk_join name]
    rfl

/-- A walk along the names of a file gets to it, unless a name is too long. -/
theorem walk_of_file (links : Nat) {here : Place} {names : List Text} {content : Octets}
    (named : ∀ n ∈ names, IsName n) (moved : names ≠ [])
    (present : t.find? (here ++ names) = some (.file content)) :
    t.walk true links here names = .error .longName ∨
      t.walk true links here names = .ok (.named (here ++ names) false) := by
  have walked : ∀ turn here, t.find? (here ++ names) = some (.file content) →
      t.walkWith true turn here names = .error .longName ∨
        t.walkWith true turn here names = .ok (.named (here ++ names) false) := by
    clear present
    intro turn
    induction names with
    | nil => exact absurd rfl moved
    | cons n names ih =>
      obtain ⟨name, later⟩ := List.forall_mem_cons.1 named
      intro here present
      by_cases long : maxName < n.size
      · exact .inl (by simp only [walkWith, name.proper, long, if_true])
      · rcases names with - | ⟨m, names⟩
        · refine .inr ?_
          simp only [walkWith, name.proper, long, present, if_false]
          rfl
        · have whole : t.find? ((here ++ [n]) ++ m :: names) = some (.file content) := by
            rw [List.append_assoc]
            exact present
          have above : t.find? (here ++ [n]) = some .directory := by
            have := isDirectory_of_append (List.cons_ne_nil m names) (by rw [whole]; rfl)
            simpa [isDirectory] using this
          have further := (List.forall_mem_cons.1 later).1.all_isEmpty names
          simp only [walkWith_name name.proper further, long, above, if_false]
          have rest := ih later (List.cons_ne_nil m names) (here ++ [n]) whole
          rwa [List.append_assoc] at rest
  cases links with
  | zero => exact walked _ here present
  | succ links => exact walked _ here present

/-- Nothing is missing on the way to a file that lies below a directory that is reached. -/
theorem entryAt_pathAlong_ne_missing {base : Path} {here : Place} {names : List Text} {content : Octets}
    (reached : t.entryAt base = .ok (here, .directory)) (named : ∀ n ∈ names, IsName n)
    (moved : names ≠ []) (present : t.find? (here ++ names) = some (.file content)) :
    t.entryAt (Scan.pathAlong base names) ≠ .error .missing := by
  obtain ⟨links, goes⟩ := exists_walk_of_entryAt reached
  have solid : names.all List.isEmpty = false := by
    obtain ⟨n, rest, rfl⟩ := List.exists_cons_of_ne_nil moved
    exact (List.forall_mem_cons.1 named).1.all_isEmpty rest
  have walked : t.walk true maxLinks (t.current.origin (Scan.pathAlong base names))
      (Text.splitAt '/' (Scan.pathAlong base names).text) = t.walk true links here names := by
    have along := walk_pathAlong (t := t) named base (t.current.origin base) []
    rw [List.append_nil, List.append_nil, goes names solid] at along
    rw [← along, Place.origin, isAbsolute_pathAlong named, ← Place.origin]
  have text : ¬ (Scan.pathAlong base names).text.isEmpty := by
    intro empty
    have none : (Scan.pathAlong base names).components = [] := by
      rw [components, split, List.isEmpty_iff.1 empty]
      rfl
    rw [components_pathAlong named, List.append_eq_nil_iff, List.map_eq_nil_iff] at none
    exact moved none.2
  intro missing
  rw [entryAt, FileTree.locate, lookUp, if_neg text, walked] at missing
  split at missing
  · cases missing
  · split at missing
    · cases missing
    · rcases walk_of_file links named moved present with long | found
      · rw [long] at missing
        cases missing
      · rw [found] at missing
        simp only [bind, Except.bind, present] at missing
        cases missing

/-! ## Room -/

/-- There is room where a walk ends that begins in a directory, unless a directory or a link is there. -/
theorem Walks.room {follow : Bool} {links : Nat} {here : Place} {segments : List Text} {loc : Location}
    (h : Walks t follow links here segments loc) (within : t.isDirectory here)
    (free : ∀ s ∈ segments, '/' ∉ s) {place : Place} {slash : Bool} (ends : loc = .named place slash)
    (vacant : t.isFree place) : t.Room place := by
  induction h with
  | done => cases ends
  | idle _ _ ih => exact ih within (List.forall_mem_cons.1 free).2 ends
  | @up links here s segments loc _ _ ih =>
    refine ih ?_ (List.forall_mem_cons.1 free).2 ends
    by_cases top : here = []
    · rw [top]
      rfl
    · have found : t.find? here = some .directory := by simpa [isDirectory] using within
      exact isDirectory_dropLast top (by rw [found]; rfl)
  | enter _ _ _ found _ ih => exact ih (by simp [isDirectory, found]) (List.forall_mem_cons.1 free).2 ends
  | @turn links here s segments target _ _ _ _ _ _ ih =>
    refine ih ?_ (fun s mem => ?_) ends
    · unfold Place.origin
      split
      · rfl
      · exact within
    · rcases List.mem_append.1 mem with front | behind
      · exact Text.notMem_of_mem_splitAt front
      · exact (List.forall_mem_cons.1 free).2 s behind
  | @last links here s segments named short ended kept =>
    obtain ⟨rfl, -⟩ := Location.named.inj ends
    have found : t.find? here = some .directory := by simpa [isDirectory] using within
    refine ⟨List.forall_mem_append.2 ⟨isName_of_find? (by rw [found]; rfl), ?_⟩, by simp, ?_, vacant⟩
    · exact List.forall_mem_singleton.2 ⟨free s List.mem_cons_self, named⟩
    · rwa [List.dropLast_concat]

theorem room_of_lookUp {follow : Bool} {p : Path} {place : Place} {slash : Bool}
    (here : t.isDirectory t.current) (h : t.lookUp follow p = .ok (.named place slash))
    (vacant : t.isFree place) : t.Room place := by
  refine (lookUp_eq_ok_iff.1 h).2.2.2.room ?_ (fun s => Text.notMem_of_mem_splitAt) rfl vacant
  unfold Place.origin
  split
  · rfl
  · exact here

end FileTree
end QuizPages
