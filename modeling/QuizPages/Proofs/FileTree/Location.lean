import Mathlib.Data.List.Induction
import QuizPages.FileTree.Access
import QuizPages.Proofs.Path.Components

/-!
# Where paths lead

A path leads along its components, from one place to the next, and on along the links that it meets: where it
leads can be read off the links of a tree, whatever else is there (`leads`). The other entries only decide
whether it leads there at all (`leads_of_locate`). In a tree without links the components alone tell the place
(`leads_of_linkless`), and joined paths lead on from where the first one leads.
-/

namespace QuizPages

open QuizPages.Path

def Entry.isLink : Entry → Bool
  | .link _ => true
  | _ => false

/-- Where a component leads from a place. -/
def Place.follow (here : Place) : Component → Place
  | .root => []
  | .here => here
  | .up => here.dropLast
  | .name n => here ++ [n]

/-- Where a path leads if it meets no link and nothing is in the way. -/
def Path.placeFrom (p : Path) (current : Place) : Place := p.components.foldl Place.follow current

namespace Path

theorem foldl_follow_front (p : Path) (current : Place) :
    p.front.foldl Place.follow current = current.origin p := by
  rw [front, Place.origin]
  split
  · rfl
  · split <;> rfl

theorem placeFrom_eq (p : Path) (current : Place) :
    p.placeFrom current = p.steps.foldl Place.follow (current.origin p) := by
  rw [placeFrom, components_eq, List.foldl_append, foldl_follow_front]

theorem placeFrom_of_absolute {p : Path} (h : p.isAbsolute = true) (a b : Place) :
    p.placeFrom a = p.placeFrom b := by
  rw [placeFrom_eq, placeFrom_eq, Place.origin, Place.origin, if_pos h, if_pos h]

theorem placeFrom_join (base p : Path) (current : Place) :
    (base.join p).placeFrom current = p.placeFrom (base.placeFrom current) := by
  by_cases absolute : p.isAbsolute = true
  · rw [join_of_absolute absolute, placeFrom_of_absolute absolute]
  · have relative : p.isAbsolute = false := by simpa using absolute
    rw [placeFrom_eq, steps_join relative, Place.origin, isAbsolute_join relative, ← Place.origin,
      List.foldl_append, ← placeFrom_eq, placeFrom_eq p, Place.origin, if_neg absolute]

theorem foldl_follow_names (names : List Text) (here : Place) :
    (names.map Component.name).foldl Place.follow here = here ++ names := by
  induction names generalizing here with
  | nil => simp
  | cons n names ih => simp [Place.follow, ih]

theorem placeFrom_pathAlong {names : List Text} (h : ∀ n ∈ names, IsName n) (base : Path)
    (current : Place) :
    (Scan.pathAlong base names).placeFrom current = base.placeFrom current ++ names := by
  rw [placeFrom, components_pathAlong h, List.foldl_append, foldl_follow_names, placeFrom]

end Path

/-- The path of a place goes along its names. -/
theorem Place.path_eq_pathAlong {p : Place} (named : ∀ n ∈ p, IsName n) :
    Place.path p = Scan.pathAlong ⟨['/']⟩ p := by
  induction p using List.reverseRecOn with
  | nil => rfl
  | append_singleton p n ih =>
    obtain ⟨earlier, name⟩ := List.forall_mem_append.1 named
    rw [pathAlong_concat, join_of_relative (List.forall_mem_singleton.1 name).isAbsolute]
    rcases List.eq_nil_or_concat' p with rfl | ⟨q, m, rfl⟩
    · rfl
    · have before : (Scan.pathAlong ⟨['/']⟩ (q ++ [m])).opening =
          (Scan.pathAlong ⟨['/']⟩ (q ++ [m])).text ++ ['/'] := by
        rw [pathAlong_concat]
        exact opening_join_name (earlier m (by simp)) _
      rw [before, ← ih earlier, Place.path, Text.join_concat (by simp), Place.path]
      simp

theorem Place.placeFrom_path {p : Place} (named : ∀ n ∈ p, IsName n) (current : Place) :
    p.path.placeFrom current = p := by
  rw [path_eq_pathAlong named, placeFrom_pathAlong named]
  rfl

namespace FileTree

variable {t t' : FileTree}

/-! ## Along links -/

/-- The path that is held by the link that a component names. -/
def linkAt? (t : FileTree) (here : Place) : Component → Option Path
  | .name n =>
    match t.find? (here ++ [n]) with
    | some (.link target) => some target
    | _ => none
  | _ => none

/-- Where components lead from a place, and on by `turn` where there is a link. -/
def leadWith (t : FileTree) (turn : Place → List Component → Option Place) :
    Place → List Component → Option Place
  | here, [] => some here
  | here, c :: cs =>
    match t.linkAt? here c with
    | some target => turn here (target.components ++ cs)
    | none => leadWith t turn (here.follow c) cs

/-- Where components lead from a place, along a number of links at most. -/
def lead (t : FileTree) : Nat → Place → List Component → Option Place
  | 0 => t.leadWith fun _ _ => none
  | links + 1 => t.leadWith (t.lead links)

/-- Where a path leads if nothing is in the way, links gone along. Whether anything is there makes no
difference; only a path on which too many links are met leads nowhere. -/
def leads (t : FileTree) (p : Path) : Option Place := t.lead maxLinks t.current p.components

/-- Whether two paths lead to one place. -/
def Meet (t : FileTree) (p q : Path) : Prop := ∃ place, t.leads p = some place ∧ t.leads q = some place

instance (t : FileTree) (p q : Path) : Decidable (t.Meet p q) :=
  decidable_of_iff ((t.leads p).isSome ∧ t.leads p = t.leads q) <| by
    unfold Meet
    rcases t.leads p with - | place
    · simp
    · simp [eq_comm]

theorem linkAt?_name_eq_some_iff {here : Place} {n : Text} {target : Path} :
    t.linkAt? here (.name n) = some target ↔ t.find? (here ++ [n]) = some (.link target) := by
  rcases found : t.find? (here ++ [n]) with - | (- | content | target') <;> simp [linkAt?, found]

theorem linkAt?_name_eq_none {here : Place} {n : Text}
    (apart : ∀ target, t.find? (here ++ [n]) ≠ some (.link target)) : t.linkAt? here (.name n) = none := by
  rw [Option.eq_none_iff_forall_ne_some]
  exact fun target met => apart target (linkAt?_name_eq_some_iff.1 met)

theorem lead_nil (t : FileTree) (links : Nat) (here : Place) : t.lead links here [] = some here := by
  cases links <;> rfl

theorem lead_link {links : Nat} {here : Place} {c : Component} {target : Path}
    (met : t.linkAt? here c = some target) (cs : List Component) :
    t.lead (links + 1) here (c :: cs) = t.lead links here (target.components ++ cs) := by
  simp only [lead, leadWith, met]

theorem lead_cons {here : Place} {c : Component} (none : t.linkAt? here c = none) (links : Nat)
    (cs : List Component) : t.lead links here (c :: cs) = t.lead links (here.follow c) cs := by
  cases links <;> simp only [lead, leadWith, none]

theorem lead_front (links : Nat) (here : Place) (p : Path) (cs : List Component) :
    t.lead links here (p.front ++ cs) = t.lead links (here.origin p) cs := by
  rw [front, Place.origin]
  split
  · exact lead_cons rfl links cs
  · split
    · exact lead_cons rfl links cs
    · rfl

/-- Whether no entry is a link. -/
def Linkless (t : FileTree) : Prop := ∀ place target, t.find? place ≠ some (.link target)

theorem linkless_of_forall (h : ∀ e ∈ t.entries, e.2.isLink = false) : t.Linkless := by
  intro place target found
  unfold find? at found
  split at found
  · cases found
  · have none := h _ (Entry.mem_of_find? found)
    cases none

theorem lead_of_linkless (linkless : t.Linkless) (links : Nat) (here : Place) (cs : List Component) :
    t.lead links here cs = some (cs.foldl Place.follow here) := by
  have none (here : Place) (c : Component) : t.linkAt? here c = none := by
    rcases c with - | - | - | n
    · rfl
    · rfl
    · rfl
    · exact linkAt?_name_eq_none (linkless _)
  induction cs generalizing here with
  | nil => exact lead_nil t links here
  | cons c cs ih => rw [lead_cons (none here c), ih, List.foldl_cons]

theorem leads_of_linkless (linkless : t.Linkless) (p : Path) :
    t.leads p = some (p.placeFrom t.current) :=
  lead_of_linkless linkless maxLinks t.current p.components

/-- Where components lead depends on nothing but the links. -/
theorem lead_congr (same : ∀ here c, t'.linkAt? here c = t.linkAt? here c) (links : Nat) (here : Place)
    (cs : List Component) : t'.lead links here cs = t.lead links here cs := by
  have one {turn turn' : Place → List Component → Option Place}
      (turns : ∀ here cs, turn' here cs = turn here cs) (here : Place) (cs : List Component) :
      t'.leadWith turn' here cs = t.leadWith turn here cs := by
    induction cs generalizing here with
    | nil => rfl
    | cons c cs ih =>
      rw [leadWith, leadWith, same]
      split
      · exact turns _ _
      · exact ih _
  induction links generalizing here cs with
  | zero => exact one (fun _ _ => rfl) here cs
  | succ links ih => exact one ih here cs

/-! ## Walks -/

/-- How a walk comes to a location. -/
inductive Walks (t : FileTree) (follow : Bool) : Nat → Place → List Text → Location → Prop
  | done {links : Nat} {here : Place} : Walks t follow links here [] (.directory here)
  | idle {links : Nat} {here : Place} {s : Text} {segments : List Text} {loc : Location}
      (idle : component? s = none) (rest : Walks t follow links here segments loc) :
      Walks t follow links here (s :: segments) loc
  | up {links : Nat} {here : Place} {s : Text} {segments : List Text} {loc : Location}
      (up : component? s = some .up) (rest : Walks t follow links here.dropLast segments loc) :
      Walks t follow links here (s :: segments) loc
  | enter {links : Nat} {here : Place} {s : Text} {segments : List Text} {loc : Location}
      (named : component? s = some (.name s)) (short : s.size ≤ maxName)
      (further : segments.all List.isEmpty = false) (found : t.find? (here ++ [s]) = some .directory)
      (rest : Walks t follow links (here ++ [s]) segments loc) :
      Walks t follow links here (s :: segments) loc
  | turn {links : Nat} {here : Place} {s : Text} {segments : List Text} {target : Path} {loc : Location}
      (named : component? s = some (.name s)) (short : s.size ≤ maxName)
      (further : (segments.all List.isEmpty && !follow) = false)
      (found : t.find? (here ++ [s]) = some (.link target))
      (rest : Walks t follow links (here.origin target) (Text.splitAt '/' target.text ++ segments) loc) :
      Walks t follow (links + 1) here (s :: segments) loc
  | last {links : Nat} {here : Place} {s : Text} {segments : List Text}
      (named : component? s = some (.name s)) (short : s.size ≤ maxName)
      (ended : segments.all List.isEmpty = true)
      (kept : follow = true → ∀ target, t.find? (here ++ [s]) ≠ some (.link target)) :
      Walks t follow links here (s :: segments) (.named (here ++ [s]) !segments.isEmpty)

/-- A segment is idle, or `..`, or a name. -/
theorem component?_cases (s : Text) :
    component? s = none ∨ component? s = some .up ∨ component? s = some (.name s) := by
  unfold component?
  split
  · exact .inl rfl
  · split
    · exact .inr (.inl rfl)
    · exact .inr (.inr rfl)

theorem walks_of_walkWith {follow : Bool} {turn : Place → List Text → Except FileError Location} {links : Nat}
    (turns : ∀ {here segments loc}, turn here segments = .ok loc →
      ∃ fewer, links = fewer + 1 ∧ Walks t follow fewer here segments loc)
    {here : Place} {segments : List Text} {loc : Location}
    (h : t.walkWith follow turn here segments = .ok loc) : Walks t follow links here segments loc := by
  induction segments generalizing here with
  | nil =>
    obtain rfl := Except.ok.inj h
    exact .done
  | cons s segments ih =>
    rw [walkWith] at h
    rcases component?_cases s with idle | up | named
    · rw [idle] at h
      exact .idle idle (ih h)
    · rw [up] at h
      exact .up up (ih h)
    · simp only [named] at h
      split at h
      · cases h
      · rename_i short
        have short := Nat.le_of_not_lt short
        rcases found : t.find? (here ++ [s]) with - | (- | content | target) <;> simp only [found] at h <;>
          split at h
        · rename_i ended
          obtain rfl := Except.ok.inj h
          exact .last named short ended fun _ => by simp [found]
        · cases h
        · rename_i ended
          obtain rfl := Except.ok.inj h
          exact .last named short ended fun _ => by simp [found]
        · rename_i further
          exact .enter named short (Bool.eq_false_iff.2 further) found (ih h)
        · rename_i ended
          obtain rfl := Except.ok.inj h
          exact .last named short ended fun _ => by simp [found]
        · cases h
        · rename_i stays
          obtain rfl := Except.ok.inj h
          obtain ⟨ended, stays⟩ := Bool.and_eq_true_iff.1 stays
          exact .last named short ended fun follows => by simp [follows] at stays
        · rename_i further
          obtain ⟨fewer, rfl, rest⟩ := turns h
          exact .turn named short (Bool.eq_false_iff.2 further) found rest

/-- A name with nothing behind it is not looked at, unless a link is to be gone along. -/
theorem walkWith_last {follow : Bool} {turn : Place → List Text → Except FileError Location} {here : Place}
    {s : Text} {segments : List Text} (named : component? s = some (.name s)) (short : s.size ≤ maxName)
    (ended : segments.all List.isEmpty = true)
    (kept : follow = true → ∀ target, t.find? (here ++ [s]) ≠ some (.link target)) :
    t.walkWith follow turn here (s :: segments) = .ok (.named (here ++ [s]) !segments.isEmpty) := by
  rcases found : t.find? (here ++ [s]) with - | (- | content | target)
  case some.link =>
    have stays : follow = false := Bool.eq_false_iff.2 fun follows => kept follows target found
    simp [walkWith, named, Nat.not_lt.2 short, found, ended, stays]
  all_goals simp only [walkWith, named, Nat.not_lt.2 short, found, ended, if_true, if_false]

theorem walk_eq_ok_iff {follow : Bool} {links : Nat} {here : Place} {segments : List Text} {loc : Location} :
    t.walk follow links here segments = .ok loc ↔ Walks t follow links here segments loc := by
  constructor
  · intro h
    induction links generalizing here segments loc with
    | zero => exact walks_of_walkWith (fun turned => by cases turned) h
    | succ links ih => exact walks_of_walkWith (fun turned => ⟨links, rfl, ih turned⟩) h
  · intro h
    induction h with
    | @done links here => cases links <;> rfl
    | @idle links here s segments loc idle _ ih => cases links <;> simpa only [walk, walkWith, idle] using ih
    | @up links here s segments loc up _ ih => cases links <;> simpa only [walk, walkWith, up] using ih
    | @enter links here s segments loc named short further found _ ih =>
      cases links <;>
        simpa only [walk, walkWith, named, Nat.not_lt.2 short, found, further, Bool.false_eq_true, if_false]
          using ih
    | @turn links here s segments target loc named short further found _ ih =>
      simpa only [walk, walkWith, named, Nat.not_lt.2 short, found, further, Bool.false_eq_true, if_false]
        using ih
    | @last links here s segments named short ended kept =>
      cases links <;> exact walkWith_last named short ended kept

/-- The place of a location. -/
def Location.place : Location → Place
  | directory place => place
  | named place _ => place

/-- Whether there is no link at a location that was not looked at. -/
def Location.Settled (t : FileTree) : Location → Prop
  | directory _ => True
  | named place _ => ∀ target, t.find? place ≠ some (.link target)

/-- A walk that goes along all links ends at none. -/
theorem Walks.settled {links : Nat} {here : Place} {segments : List Text} {loc : Location}
    (h : Walks t true links here segments loc) : loc.Settled t := by
  induction h with
  | done => trivial
  | idle _ _ ih => exact ih
  | up _ _ ih => exact ih
  | enter _ _ _ _ _ ih => exact ih
  | turn _ _ _ _ _ ih => exact ih
  | last _ _ _ kept => exact kept rfl

theorem component?_of_isEmpty {segments : List Text} (ended : segments.all List.isEmpty = true) :
    segments.filterMap component? = [] := by
  refine List.filterMap_eq_nil_iff.2 fun s mem => ?_
  rw [List.isEmpty_iff.1 (List.all_eq_true.1 ended s mem)]
  rfl

/-- A walk comes to where the components of its segments lead. -/
theorem Walks.lead {follow : Bool} {links : Nat} {here : Place} {segments : List Text} {loc : Location}
    (h : Walks t follow links here segments loc) (settled : loc.Settled t) :
    t.lead links here (segments.filterMap component?) = some loc.place := by
  induction h with
  | done => exact lead_nil t _ _
  | idle idle _ ih => rw [List.filterMap_cons_none idle, ih settled]
  | up up _ ih =>
    rw [List.filterMap_cons_some up, lead_cons rfl]
    exact ih settled
  | @enter links here s segments loc named _ _ found _ ih =>
    have apart : ∀ target, t.find? (here ++ [s]) ≠ some (.link target) := by simp [found]
    rw [List.filterMap_cons_some named, lead_cons (linkAt?_name_eq_none apart)]
    exact ih settled
  | turn named _ _ found _ ih =>
    rw [List.filterMap_cons_some named, lead_link (linkAt?_name_eq_some_iff.2 found), components_eq,
      List.append_assoc, lead_front, steps, ← List.filterMap_append]
    exact ih settled
  | last named _ ended _ =>
    rw [List.filterMap_cons_some named, component?_of_isEmpty ended,
      lead_cons (linkAt?_name_eq_none settled), lead_nil]
    rfl

/-- If there is no link at the end of a walk, it goes the same way if all links are gone along. -/
theorem Walks.follow {links : Nat} {here : Place} {segments : List Text} {loc : Location}
    (h : Walks t false links here segments loc) (settled : loc.Settled t) :
    Walks t true links here segments loc := by
  induction h with
  | done => exact .done
  | idle idle _ ih => exact .idle idle (ih settled)
  | up up _ ih => exact .up up (ih settled)
  | enter named short further found _ ih => exact .enter named short further found (ih settled)
  | turn named short _ found _ ih => exact .turn named short (Bool.and_false _) found (ih settled)
  | last named short ended _ => exact .last named short ended fun _ => settled

/-! ## Paths -/

theorem lookUp_eq_ok_iff {follow : Bool} {p : Path} {loc : Location} :
    t.lookUp follow p = .ok loc ↔
      ¬ p.text.contains '\x00' ∧ ¬ maxPath < p.text.size ∧ ¬ p.text.isEmpty ∧
        Walks t follow maxLinks (t.current.origin p) (Text.splitAt '/' p.text) loc := by
  rw [← walk_eq_ok_iff]
  unfold lookUp
  split
  · rename_i nul
    exact iff_of_false nofun fun h => h.1 nul
  · rename_i plain
    split
    · rename_i long
      exact iff_of_false nofun fun h => h.2.1 long
    · rename_i short
      split
      · rename_i empty
        exact iff_of_false nofun fun h => h.2.2.1 empty
      · rename_i present
        exact ⟨fun h => ⟨plain, short, present, h⟩, fun h => h.2.2.2⟩

/-- **Where paths lead**: what a path names is where it leads. -/
theorem leads_of_lookUp {follow : Bool} {p : Path} {loc : Location} (h : t.lookUp follow p = .ok loc)
    (settled : loc.Settled t) : t.leads p = some loc.place := by
  obtain ⟨-, -, -, walks⟩ := lookUp_eq_ok_iff.1 h
  rw [leads, components_eq, lead_front]
  exact walks.lead settled

theorem settled_of_locate {p : Path} {loc : Location} (h : t.locate p = .ok loc) : loc.Settled t :=
  (lookUp_eq_ok_iff.1 h).2.2.2.settled

theorem leads_of_locate {p : Path} {loc : Location} (h : t.locate p = .ok loc) :
    t.leads p = some loc.place :=
  leads_of_lookUp h (settled_of_locate h)

theorem locate_of_lookUp {p : Path} {loc : Location} (h : t.lookUp false p = .ok loc)
    (settled : loc.Settled t) : t.locate p = .ok loc := by
  obtain ⟨plain, short, present, walks⟩ := lookUp_eq_ok_iff.1 h
  exact lookUp_eq_ok_iff.2 ⟨plain, short, present, walks.follow settled⟩

/-! ## What is found -/

/-- A path leads to what is at the place that it names. A file has no separator behind its name. -/
theorem entryAt_cases {p : Path} {place : Place} {e : Entry} (h : t.entryAt p = .ok (place, e)) :
    (t.locate p = .ok (.directory place) ∧ e = .directory) ∨
    ∃ slash, t.locate p = .ok (.named place slash) ∧ t.find? place = some e ∧
      (slash = true → e = .directory) := by
  unfold entryAt at h
  rcases located : t.locate p with x | (there | ⟨there, slash⟩) <;> rw [located] at h
  · cases h
  · obtain ⟨rfl, rfl⟩ := Prod.mk.inj (Except.ok.inj h)
    exact .inl ⟨rfl, rfl⟩
  · right
    simp only [bind, Except.bind] at h
    rcases found : t.find? there with - | (- | content | target) <;> simp only [found] at h
    · cases h
    · obtain ⟨rfl, rfl⟩ := Prod.mk.inj (Except.ok.inj h)
      exact ⟨slash, rfl, found, fun _ => rfl⟩
    · rcases slash with - | -
      · obtain ⟨rfl, rfl⟩ := Prod.mk.inj (Except.ok.inj h)
        exact ⟨false, rfl, found, nofun⟩
      · cases h
    · exact absurd found (settled_of_locate located target)

/-- No path ends at a link. -/
theorem entryAt_ne_link {p : Path} {place : Place} {target : Path} :
    t.entryAt p ≠ .ok (place, .link target) := by
  intro h
  rcases entryAt_cases h with ⟨-, other⟩ | ⟨slash, located, found, -⟩
  · cases other
  · exact settled_of_locate located target found

theorem leads_of_entryAt {p : Path} {place : Place} {e : Entry} (h : t.entryAt p = .ok (place, e)) :
    t.leads p = some place := by
  rcases entryAt_cases h with ⟨located, -⟩ | ⟨slash, located, -⟩
  · exact leads_of_locate located
  · exact leads_of_locate located

theorem entryAt_of_named {p : Path} {place : Place} {content : Octets}
    (located : t.locate p = .ok (.named place false)) (found : t.find? place = some (.file content)) :
    t.entryAt p = .ok (place, .file content) := by
  unfold entryAt
  rw [located]
  simp only [bind, Except.bind, found]
  rfl

theorem hasDirectory_of_entryAt {p : Path} {place : Place}
    (h : t.entryAt p = .ok (place, .directory)) : t.hasDirectory p = true := by
  rw [hasDirectory, h]

theorem entryAt_of_hasDirectory {p : Path} (h : t.hasDirectory p = true) :
    ∃ place, t.entryAt p = .ok (place, .directory) := by
  unfold hasDirectory at h
  split at h
  · rename_i place reached
    exact ⟨place, reached⟩
  · cases h

theorem hasDirectory_of_file {p : Path} {place : Place} {content : Octets}
    (h : t.entryAt p = .ok (place, .file content)) : t.hasDirectory p = false := by
  rw [hasDirectory, h]

theorem read_eq_ok_iff {p : Path} {content : Octets} :
    t.read p = .ok content ↔ ∃ place, t.locate p = .ok (.named place false) ∧
      t.find? place = some (.file content) := by
  unfold read
  constructor
  · intro h
    rcases reached : t.entryAt p with x | ⟨place, - | content' | target⟩ <;> rw [reached] at h
    · cases h
    · cases h
    · obtain rfl := Except.ok.inj h
      rcases entryAt_cases reached with ⟨-, none⟩ | ⟨slash, located, found, only⟩
      · cases none
      · have bare : slash = false := Bool.eq_false_iff.2 fun with_slash => nomatch only with_slash
        exact ⟨place, bare ▸ located, found⟩
    · cases h
  · rintro ⟨place, located, found⟩
    rw [entryAt_of_named located found]
    rfl

end FileTree
end QuizPages
