import QuizPages.Path
import QuizPages.Text.Utf8

/-!
# File trees

Files, directories and symbolic links by their places. A place is the list of names on the way from the
root, which is a directory of its own. Every entry has a name that a file can have and lies in a directory,
and no place has two entries.

A tree also knows what the system refuses to let be made or written in it: for want of rights, because a
disk is read-only or full, or for any other reason. Everything in it may be read and looked through. Left
out are several names for one file, and what is neither a file nor a directory nor a link.
-/

namespace QuizPages

/-- Why a file or directory could not be used. -/
inductive FileError where
  | missing
  | present
  | notDirectory
  | isDirectory
  | longName
  | tooManyLinks
  | denied
  | readOnly
  | full
  /-- There is a NUL in the path. -/
  | nulInPath
  /-- The content is not UTF-8. -/
  | malformed
  /-- Any other reason of the system, with its number. -/
  | other (reason : Text) (number : Nat)
  deriving DecidableEq, Repr

namespace FileError

def message : FileError → Text
  | missing => "No such file or directory (os error 2)"
  | present => "File exists (os error 17)"
  | notDirectory => "Not a directory (os error 20)"
  | isDirectory => "Is a directory (os error 21)"
  | longName => "File name too long (os error 36)"
  | tooManyLinks => "Too many levels of symbolic links (os error 40)"
  | denied => "Permission denied (os error 13)"
  | readOnly => "Read-only file system (os error 30)"
  | full => "No space left on device (os error 28)"
  | nulInPath => "file name contained an unexpected NUL byte"
  | malformed => "stream did not contain valid UTF-8"
  | other reason number => reason ++ " (os error " ++ Text.ofNat number ++ ")"

end FileError

/-- Where an entry is: the names from the root on. -/
abbrev Place := List Text

inductive Entry where
  | directory
  | file (content : Octets)
  /-- A symbolic link. Its target is seen from the directory that it lies in. -/
  | link (target : Path)
  deriving DecidableEq, Repr

namespace Entry

/-- The entry at a place, put there or in place of the one that was. -/
def upsert (p : Place) (e : Entry) : List (Place × Entry) → List (Place × Entry)
  | [] => [(p, e)]
  | (q, f) :: rest => if q = p then (p, e) :: rest else (q, f) :: upsert p e rest

/-- The entry at a place. -/
def find? (p : Place) : List (Place × Entry) → Option Entry
  | [] => none
  | (q, f) :: rest => if q = p then some f else find? p rest

theorem find?_upsert (p q : Place) (e : Entry) (l : List (Place × Entry)) :
    find? q (upsert p e l) = if q = p then some e else find? q l := by
  induction l with
  | nil => by_cases h : q = p <;> grind [upsert, find?]
  | cons x l ih =>
    obtain ⟨r, f⟩ := x
    by_cases hr : r = p <;> by_cases hq : q = p <;> grind [upsert, find?]

theorem mem_of_find? {p : Place} {e : Entry} {l : List (Place × Entry)}
    (h : find? p l = some e) : (p, e) ∈ l := by
  induction l with
  | nil => simp [find?] at h
  | cons x l ih => obtain ⟨q, f⟩ := x; grind [find?]

theorem find?_eq_none {p : Place} {l : List (Place × Entry)} :
    find? p l = none ↔ p ∉ l.map Prod.fst := by
  induction l with
  | nil => simp [find?]
  | cons x l ih => obtain ⟨q, f⟩ := x; grind [find?]

theorem places_upsert (p : Place) (e : Entry) (l : List (Place × Entry)) :
    (upsert p e l).map Prod.fst =
      if p ∈ l.map Prod.fst then l.map Prod.fst else l.map Prod.fst ++ [p] := by
  induction l with
  | nil => simp [upsert]
  | cons x l ih => obtain ⟨q, f⟩ := x; grind [upsert]

end Entry

structure FileTree where
  /-- All entries but the root. -/
  entries : List (Place × Entry)
  /-- Where relative paths start. -/
  current : Place
  /-- Why the system will not have an entry at a place, if it will not. -/
  refuses : Place → Entry → Option FileError := fun _ _ => none
  distinct : (entries.map Prod.fst).Nodup
  named : ∀ p ∈ entries.map Prod.fst, ∀ n ∈ p, Path.IsName n
  rooted : [] ∉ entries.map Prod.fst
  closed : ∀ p ∈ entries.map Prod.fst,
    p.dropLast = [] ∨ Entry.find? p.dropLast entries = some .directory

namespace FileTree

/-- A tree without entries. -/
def empty : FileTree where
  entries := []
  current := []
  distinct := List.nodup_nil
  named := by simp
  rooted := by simp
  closed := by simp

/-- The entry at a place. -/
def find? (t : FileTree) (p : Place) : Option Entry :=
  if p = [] then some .directory else Entry.find? p t.entries

/-- Whether a directory is at a place. -/
def isDirectory (t : FileTree) (p : Place) : Bool := t.find? p == some .directory

/-- The content of the file at a place. -/
def content? (t : FileTree) (p : Place) : Option Octets :=
  match t.find? p with
  | some (.file content) => some content
  | _ => none

/-- Whether nothing or a file is at a place. -/
def isFree (t : FileTree) (p : Place) : Bool :=
  match t.find? p with
  | none | some (.file _) => true
  | _ => false

theorem mem_places_iff {t : FileTree} {p : Place} (below : p ≠ []) :
    p ∈ t.entries.map Prod.fst ↔ (t.find? p).isSome := by
  have absent := Entry.find?_eq_none (p := p) (l := t.entries)
  rw [find?, if_neg below, Option.isSome_iff_ne_none]
  grind

/-- What is there has a name that a file can have, and so has all above it. -/
theorem isName_of_find? {t : FileTree} {p : Place} (present : (t.find? p).isSome) :
    ∀ n ∈ p, Path.IsName n := by
  intro n mem
  exact t.named p ((mem_places_iff (List.ne_nil_of_mem mem)).2 present) n mem

/-- Whether an entry can be put at a place: into a directory, where nothing or a file is. -/
structure Room (t : FileTree) (p : Place) : Prop where
  named : ∀ n ∈ p, Path.IsName n
  below : p ≠ []
  inside : t.isDirectory p.dropLast
  free : t.isFree p

instance (t : FileTree) (p : Place) : Decidable (t.Room p) :=
  decidable_of_iff ((∀ n ∈ p, Path.IsName n) ∧ p ≠ [] ∧ t.isDirectory p.dropLast ∧ t.isFree p)
    ⟨fun h => ⟨h.1, h.2.1, h.2.2.1, h.2.2.2⟩, fun h => ⟨h.1, h.2, h.3, h.4⟩⟩

theorem Room.not_directory {t : FileTree} {p : Place} (room : t.Room p) : ¬ t.isDirectory p := by
  have free := room.free
  unfold isFree at free
  unfold isDirectory
  grind

/-- Puts an entry where there is room for it. -/
def insert (t : FileTree) (p : Place) (e : Entry) (room : t.Room p) : FileTree where
  entries := Entry.upsert p e t.entries
  current := t.current
  refuses := t.refuses
  distinct := by
    rw [Entry.places_upsert]
    split
    · exact t.distinct
    · rename_i h
      exact List.nodup_append.2 ⟨t.distinct, by simp, by grind⟩
  named := by
    rw [Entry.places_upsert]
    split
    · exact t.named
    · intro q mem
      rcases List.mem_append.1 mem with old | new
      · exact t.named q old
      · rw [List.mem_singleton.1 new]
        exact room.named
  rooted := by
    rw [Entry.places_upsert]
    split
    · exact t.rooted
    · simp only [List.mem_append, List.mem_singleton, not_or]
      exact ⟨t.rooted, Ne.symm room.below⟩
  closed := by
    have hd : ∀ q, q ≠ [] → t.isDirectory q → q ≠ p := by
      have := room.not_directory
      grind
    intro q hq
    by_cases h0 : q.dropLast = []
    · exact .inl h0
    · refine .inr ?_
      have hdir : t.isDirectory q.dropLast := by
        rw [Entry.places_upsert] at hq
        by_cases hqp : q = p
        · exact hqp ▸ room.inside
        · have : q ∈ t.entries.map Prod.fst := by grind
          rcases t.closed q this with h | h
          · exact absurd h h0
          · simp [isDirectory, find?, h0, h]
      rw [Entry.find?_upsert, if_neg (hd _ h0 hdir)]
      simpa [isDirectory, find?, h0] using hdir

/-- The tree seen from another directory. -/
def enter (t : FileTree) (p : Place) : FileTree := { t with current := p }

theorem find?_insert {t : FileTree} {p q : Place} {e : Entry} (room : t.Room p) :
    (t.insert p e room).find? q = if q = p then some e else t.find? q := by
  by_cases hq : q = []
  · simp [find?, hq, Ne.symm room.below]
  · simp [find?, hq, insert, Entry.find?_upsert]

/-- The tree with an entry at a place, if the system lets it be there. -/
def put (t : FileTree) (p : Place) (e : Entry) : Except FileError FileTree :=
  match t.refuses p e with
  | some reason => .error reason
  | none => if room : t.Room p then .ok (t.insert p e room) else .error .missing

theorem put_eq_ok_iff {t t' : FileTree} {p : Place} {e : Entry} :
    t.put p e = .ok t' ↔ t.refuses p e = none ∧ ∃ room, t' = t.insert p e room := by
  unfold put
  split
  · rename_i reason refused
    simp [refused]
  · rename_i allowed
    split
    · rename_i room
      simp [allowed, room, eq_comm]
    · rename_i none
      simp [none]

end FileTree
end QuizPages
