import QuizPages.Proofs.FileTree.Changes
import QuizPages.Proofs.Scan.Pages

/-!
# Scanning a tree that has changed

A scan finds the same pages as before if the walk passes over the same entries and whatever is new lies
where nothing is found (`pages_again`).
-/

namespace QuizPages.Scan

open FileTree

variable {t t' : FileTree} {root : Path} {scope : Option Path} {way written : Place → Prop}

/-- A walk gets as far as before if it passes over the same entries on the way, but for those that are
excluded anyway. -/
theorem reaches_congr {exclude : Option Path} {here : Place} {path : Path} {names : List Text}
    (same : ∀ m, m ≠ [] → m <+: names → exclude.any (pathAlong path m).startsWith = false →
      Ignore.passesOver t' (here ++ m) = Ignore.passesOver t (here ++ m)) :
    reaches t' exclude here path names = reaches t exclude here path names := by
  induction names generalizing here path with
  | nil => rfl
  | cons n names ih =>
    rw [reaches, reaches]
    rcases outside : exclude.any (path.join ⟨n⟩).startsWith with - | -
    · have first := same [n] (List.cons_ne_nil n []) ⟨names, rfl⟩ outside
      have later : ∀ m, m ≠ [] → m <+: names →
          exclude.any (pathAlong (path.join ⟨n⟩) m).startsWith = false →
          Ignore.passesOver t' ((here ++ [n]) ++ m) = Ignore.passesOver t ((here ++ [n]) ++ m) := by
        intro m moved begin outside
        have further := same (n :: m) (List.cons_ne_nil n m) (List.cons_prefix_cons.2 ⟨rfl, begin⟩) outside
        rwa [List.append_assoc]
      rw [first, ih later]
    · simp

/-- The same place is the same page as before. -/
theorem pageAt?_congr {start out : Path} {here names : List Text}
    (content : (t'.content? (here ++ names)).isSome = (t.content? (here ++ names)).isSome)
    (same : ∀ m, m ≠ [] → m <+: names → ¬ (pathAlong start m).startsWith out = true →
      Ignore.passesOver t' (here ++ m) = Ignore.passesOver t (here ++ m)) :
    pageAt? t' root start (some out) here (here ++ names) =
      pageAt? t root start (some out) here (here ++ names) := by
  have walked : reaches t' (some out) here start names = reaches t (some out) here start names := by
    refine reaches_congr fun m moved begin outside => same m moved begin ?_
    simpa using outside
  unfold pageAt?
  simp only [content, List.drop_left, walked]

theorem pages_again {out : Path} {here : Place} (h : Changes way written t t')
    (reached : t.entryAt (start root scope) = .ok (here, .directory))
    (steady : ∀ names, names ≠ [] → (t.find? (here ++ names)).isSome →
      ¬ (pathAlong (start root scope) names).startsWith out = true →
      Ignore.passesOver t' (here ++ names) = Ignore.passesOver t (here ++ names))
    (hidden : ∀ names, written (here ++ names) →
      (pathAlong (start root scope) names).startsWith out = true) :
    (pages t' root scope (some out)).2 = (pages t root scope (some out)).2 := by
  have reached' : t'.entryAt (start root scope) = .ok (here, .directory) := by
    rw [h.same_entryAt (by rw [reached]; nofun) (by rw [reached]; nofun), reached]
  have apart : (t'.entries.map Prod.fst).Nodup := t'.distinct
  have rooted := t.rooted
  obtain ⟨new, whole⟩ := h.places
  rw [← whole] at apart
  let page (t : FileTree) (place : Place) : Option PageFile :=
    pageAt? t root (start root scope) (some out) here place
  have old : (t.entries.map Prod.fst).filterMap (page t') = (t.entries.map Prod.fst).filterMap (page t) := by
    refine List.filterMap_congr fun place mem => ?_
    by_cases inside : here <+: place
    · obtain ⟨names, rfl⟩ := inside
      have present : (t.find? (here ++ names)).isSome :=
        (mem_places_iff fun top => rooted (top ▸ mem)).1 mem
      refine pageAt?_congr (h.isSome_content? present) fun m moved ⟨rest, split⟩ outside => ?_
      refine steady m moved ?_ outside
      by_cases last : rest = []
      · rwa [← split, last, List.append_nil] at present
      · rw [← split, ← List.append_assoc] at present
        have above := isDirectory_of_append last present
        have found : t.find? (here ++ m) = some .directory := by simpa [isDirectory] using above
        rw [found]
        rfl
    · exact (pageAt?_of_not_below inside).trans (pageAt?_of_not_below inside).symm
  -- What is new is a directory, or a file that was written and is hidden.
  have none : new.filterMap (page t') = [] := by
    refine List.filterMap_eq_nil_iff.2 fun place mem => ?_
    rcases found : page t' place with - | f
    · rfl
    · exfalso
      obtain ⟨names, moved, rfl, -, outside, content, -⟩ := pageAt?_eq_some found
      have fresh : t.find? (here ++ names) = none := by
        rw [← Option.not_isSome_iff_eq_none,
          ← mem_places_iff (List.append_ne_nil_of_right_ne_nil here moved)]
        exact fun mem' => (List.nodup_append.1 apart).2.2 _ mem' _ mem rfl
      rcases h.vacant fresh with still | ⟨-, made⟩ | ⟨new, -⟩
      · rw [content?_of_vacant still] at content
        cases content
      · rw [content?_of_directory made] at content
        cases content
      · exact outside (hidden names new)
  unfold pages
  simp only [reached, reached']
  have places (t : FileTree) : (t.entries.filterMap fun e => page t e.1) =
      (t.entries.map Prod.fst).filterMap (page t) := by
    rw [List.filterMap_map]
    rfl
  rw [places t', places t, ← whole, List.filterMap_append, old, none, List.append_nil]

end QuizPages.Scan
