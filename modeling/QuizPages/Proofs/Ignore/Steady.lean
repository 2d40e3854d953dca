import QuizPages.Ignore.Walk
import QuizPages.Proofs.FileTree.Changes
import QuizPages.Proofs.FileTree.Reach

/-!
# Ignore files in a tree that changes

Whether a walk passes over an entry is decided by the directories above it: which of them are tops of
repositories, and the rules that each has (`passesOver_congr`). Rules are read from files of fixed names.
Where there is no link and no such file is written they stay as they are (`rulesIn_of_changes`), but for the
exclude file of a work tree, which can lie anywhere.
-/

namespace QuizPages

open QuizPages.Path QuizPages.FileTree

theorem FileTree.leads_path {t : FileTree} (linkless : t.Linkless) {p : Place} (named : ∀ n ∈ p, IsName n) :
    t.leads p.path = some p := by
  rw [leads_of_linkless linkless, Place.placeFrom_path named]

/-- What is read at the path of a place depends on nothing but the file there, if there are no links. -/
theorem FileTree.Changes.toOption_read_path {t t' : FileTree} {way written : Place → Prop}
    (h : Changes way written t t') (linkless : t.Linkless) {p : Place} (named : ∀ n ∈ p, IsName n)
    (moved : p ≠ []) (spared : ¬ written p) :
    (t'.read p.path).toOption = (t.read p.path).toOption := by
  by_cases missing : t.entryAt p.path = .error .missing
  · have vacant : t.content? p = none := by
      rcases present : t.content? p with - | content
      · rfl
      · have found : t.find? ([] ++ p) = some (.file content) := content?_eq_some_iff.1 present
        rw [Place.path_eq_pathAlong named] at missing
        exact absurd missing (entryAt_pathAlong_ne_missing rfl named moved found)
    have unread : t.read p.path = .error .missing := by
      rw [FileTree.read, missing]
      rfl
    rcases again : t'.read p.path with e | content
    · rw [unread]
      rfl
    · obtain ⟨q, located, found⟩ := read_eq_ok_iff.1 again
      have same : q = p :=
        Option.some.inj ((leads_of_locate located).symm.trans (leads_path (h.linkless linkless) named))
      rw [same, ← content?_eq_some_iff, h.content?_eq spared, vacant] at found
      cases found
  · have elsewhere : ∀ place, t.leads p.path = some place → ¬ written place := by
      rintro place led
      rw [leads_path linkless named] at led
      exact Option.some.inj led ▸ spared
    rw [FileTree.read, h.same_entryAt_of_spared missing elsewhere, ← FileTree.read]

/-- Without links, what is behind a place is what is there. -/
theorem FileTree.behind?_of_linkless {t : FileTree} (linkless : t.Linkless) (p : Place) :
    t.behind? p = t.find? p := by
  unfold behind?
  split
  · rename_i target found
    exact absurd found (linkless p target)
  · rfl

/-! ## Rules -/

namespace Ignore

open FileTree

variable {t t' : FileTree} {way written : Place → Prop} {d : Place}

/-- The names from a directory to its ignore file of a kind. -/
def Source.names : Source → List Text
  | plain => [".ignore".toList]
  | git => [".gitignore".toList]
  | exclude => [".git".toList, "info".toList, "exclude".toList]

/-- Where an ignore file is, unless `.git` is a file and leads somewhere else. -/
theorem Source.path?_eq {source : Source} (linkless : t.Linkless) (named : ∀ n ∈ d, IsName n)
    (own : source = .exclude → t.content? (d ++ [".git".toList]) = none) :
    source.path? t d = .ok (some (Place.path (d ++ source.names))) := by
  rcases source with - | - | -
  · rfl
  · rfl
  · have all : ∀ n ∈ d ++ [".git".toList], IsName n :=
      List.forall_mem_append.2 ⟨named, by decide⟩
    have longer : ∀ n ∈ d ++ exclude.names, IsName n := List.forall_mem_append.2 ⟨named, by decide⟩
    have joined : (Place.path (d ++ [".git".toList])).join ⟨"info/exclude".toList⟩ =
        Place.path (d ++ exclude.names) := by
      have cut := join_name_join (n := "info".toList) (p := ⟨"exclude".toList⟩) (by decide) rfl
        (Place.path (d ++ [".git".toList]))
      rw [Place.path_eq_pathAlong longer, Scan.pathAlong, List.foldl_append]
      rw [Place.path_eq_pathAlong all, Scan.pathAlong, List.foldl_append] at cut ⊢
      exact cut.symm
    rw [← joined, path?]
    dsimp only
    rw [behind?_of_linkless linkless]
    split
    · rename_i content file
      rw [content?_eq_some_iff.2 file] at own
      cases own rfl
    · rfl

/-- The names of the files that rules are read from, and of those that lead to such files. -/
def fileNames : List Text := [".ignore".toList, ".gitignore".toList, ".git".toList, "exclude".toList]

/-- Rules change only with a file that they are read from, or with what the file `.git` leads to. -/
theorem rulesIn_of_changes (h : Changes way written t t') (linkless : t.Linkless) (named : ∀ n ∈ d, IsName n)
    (spared : ∀ q, ∀ n ∈ fileNames, ¬ written (q ++ [n])) {source : Source}
    (own : source = .exclude → t.content? (d ++ [".git".toList]) = none) :
    rulesIn t' source d = rulesIn t source d := by
  have own' : source = .exclude → t'.content? (d ++ [".git".toList]) = none := fun same =>
    (h.content?_eq (spared d _ (by decide))).trans (own same)
  have all : ∀ n ∈ d ++ source.names, IsName n :=
    List.forall_mem_append.2 ⟨named, by cases source <;> decide⟩
  have moved : d ++ source.names ≠ [] := by cases source <;> simp [Source.names]
  have kept : ¬ written (d ++ source.names) := by
    rcases source with - | - | -
    · exact spared d _ (by decide)
    · exact spared d _ (by decide)
    · rw [show d ++ Source.exclude.names = (d ++ [".git".toList, "info".toList]) ++ ["exclude".toList] by
        simp [Source.names]]
      exact spared _ _ (by decide)
  have read := h.toOption_read_path linkless all moved kept
  have file : source.file? t' d = source.file? t d := by
    rw [Source.file?, Source.path?_eq (h.linkless linkless) named own', Source.file?,
      Source.path?_eq linkless named own]
    exact congrArg (Option.bind · fun content => some ((Place.path (d ++ source.names)), content)) read
  rw [rulesIn, file, ← rulesIn]

/-! ## What a walk passes over -/

theorem eq_append_of_mem_above {p d : Place} {names : List Text} (h : (d, names) ∈ above p) :
    p = d ++ names ∧ names ≠ [] := by
  induction p generalizing d with
  | nil => cases h
  | cons n p ih =>
    rw [above] at h
    rcases List.mem_append.1 h with h | h
    · obtain ⟨⟨d', names'⟩, mem, same⟩ := List.mem_map.1 h
      obtain ⟨rfl, rfl⟩ := Prod.mk.inj same
      obtain ⟨rfl, moved⟩ := ih mem
      exact ⟨rfl, moved⟩
    · obtain ⟨rfl, rfl⟩ := Prod.mk.inj (List.mem_singleton.1 h)
      exact ⟨rfl, List.cons_ne_nil n p⟩

theorem nearest?_congr {source : Source} {isDirectory : Bool} {l : List (Place × List Text)}
    (rules : ∀ d ∈ l, rulesIn t' source d.1 = rulesIn t source d.1) :
    nearest? t' source isDirectory l = nearest? t source isDirectory l := by
  induction l with
  | nil => rfl
  | cons d l ih =>
    obtain ⟨first, later⟩ := List.forall_mem_cons.1 rules
    rw [nearest?, nearest?, first, ih later]

theorem mem_of_mem_through {α : Type} {p : α → Bool} {l : List α} {a : α} (h : a ∈ through p l) :
    a ∈ l := by
  induction l with
  | nil => cases h
  | cons b l ih =>
    rw [through] at h
    split at h
    · rw [List.mem_singleton.1 h]
      exact List.mem_cons_self
    · rcases List.mem_cons.1 h with rfl | later
      · exact List.mem_cons_self
      · exact List.mem_cons_of_mem b (ih later)

theorem through_congr {α : Type} {p q : α → Bool} {l : List α} (h : ∀ a ∈ l, p a = q a) :
    through p l = through q l := by
  induction l with
  | nil => rfl
  | cons a l ih =>
    obtain ⟨first, later⟩ := List.forall_mem_cons.1 h
    rw [through, through, first, ih later]

/-- What decides whether a walk passes over an entry: what it is, which directories above it are tops of
repositories, and the rules that they have. -/
theorem passesOver_congr {p : Place} (directory : t'.isDirectory p = t.isDirectory p)
    (repository : ∀ d names, p = d ++ names → names ≠ [] → isRepository t' d = isRepository t d)
    (rules : ∀ d names, p = d ++ names → names ≠ [] → ∀ source,
      rulesIn t' source d = rulesIn t source d) :
    passesOver t' p = passesOver t p := by
  have tops : ∀ d ∈ above p, isRepository t' d.1 = isRepository t d.1 := fun d mem =>
    repository d.1 d.2 (eq_append_of_mem_above mem).1 (eq_append_of_mem_above mem).2
  have same : ∀ source, ∀ d ∈ above p, rulesIn t' source d.1 = rulesIn t source d.1 := fun source d mem =>
    rules d.1 d.2 (eq_append_of_mem_above mem).1 (eq_append_of_mem_above mem).2 source
  have any : (above p).any (fun d => isRepository t' d.1) = (above p).any (fun d => isRepository t d.1) := by
    rw [Bool.eq_iff_iff, List.any_eq_true, List.any_eq_true]
    exact exists_congr fun d => and_congr_right fun mem => by rw [tops d mem]
  have verdict : verdictAt? t' p = verdictAt? t p := by
    unfold verdictAt?
    dsimp only
    rw [directory, any, through_congr tops, nearest?_congr (same .plain)]
    split
    · rw [nearest?_congr fun d mem => same .git d (mem_of_mem_through mem),
        nearest?_congr fun d mem => same .exclude d (mem_of_mem_through mem)]
    · rfl
  rw [passesOver, verdict, ← passesOver]

end Ignore
end QuizPages
