import Mathlib.Data.List.Basic
import QuizPages.Proofs.Text.Split
import QuizPages.Scan

/-!
# Components of paths

A path has one component for each segment that is not idle, and perhaps one in front. Joining a name
adds a component (`components_join_name`), and what is left of a path below another has the components
that are left (`components_of_after?`). Below a root a path is shown by what is left of it, as long as
it holds no `\`, which would be shown as a separator (`after?_display`).
-/

namespace QuizPages.Path

theorem component?_of_idle {s : Text} (h : isIdle s = true) : component? s = none := by
  rw [component?, if_pos h]

theorem IsName.not_idle {n : Text} (h : IsName n) : isIdle n = false := by
  by_cases idle : isIdle n
  · have named := h.proper
    rw [component?_of_idle idle] at named
    cases named
  · simpa using idle

/-! ## What stands in front -/

/-- The component in front of the segments. -/
def front (p : Path) : List Component :=
  if p.isAbsolute then [.root]
  else if (Text.splitAt '/' p.text).head? = some ['.'] then [.here] else []

/-- The components that the segments stand for. -/
def steps (p : Path) : List Component := (Text.splitAt '/' p.text).filterMap component?

/-- A path is read in one of three ways. -/
theorem split_cases (p : Path) :
    (∃ rest, p.text = '/' :: rest ∧ p.split = (some .root, Text.splitAt '/' rest)) ∨
    (∃ segments, p.isAbsolute = false ∧ Text.splitAt '/' p.text = ['.'] :: segments ∧
      p.split = (some .here, segments)) ∨
    (p.isAbsolute = false ∧ (Text.splitAt '/' p.text).head? ≠ some ['.'] ∧
      p.split = (none, Text.splitAt '/' p.text)) := by
  obtain ⟨t⟩ := p
  rcases t with - | ⟨c, rest⟩
  · exact .inr (.inr ⟨rfl, by decide, rfl⟩)
  · by_cases absolute : c = '/'
    · subst absolute
      exact .inl ⟨rest, rfl, rfl⟩
    · have relative : isAbsolute ⟨c :: rest⟩ = false := by simp [isAbsolute, absolute]
      rcases cut : split ⟨c :: rest⟩ with ⟨front, segments⟩
      unfold split at cut
      split at cut
      · rename_i same
        exact absurd (List.cons.inj same).1 absolute
      · split at cut
        · rename_i dot
          obtain ⟨rfl, rfl⟩ := Prod.mk.inj cut
          exact .inr (.inl ⟨_, relative, dot, rfl⟩)
        · rename_i other
          obtain ⟨rfl, rfl⟩ := Prod.mk.inj cut
          refine .inr (.inr ⟨relative, fun dot => ?_, rfl⟩)
          obtain ⟨segments, first⟩ := List.head?_eq_some_iff.1 dot
          exact other segments first

theorem components_eq (p : Path) : p.components = p.front ++ p.steps := by
  unfold components front steps
  rcases split_cases p with ⟨rest, text, cut⟩ | ⟨segments, relative, text, cut⟩ | ⟨relative, dot, cut⟩
  · have absolute : p.isAbsolute = true := by simp [isAbsolute, text]
    simp [cut, absolute, text, Text.splitAt, component?, isIdle]
  · simp [cut, relative, text, component?, isIdle]
  · simp [cut, relative, dot]

/-- The names in a path are names. -/
theorem isName_of_mem_components {p : Path} {n : Text} (h : .name n ∈ p.components) : IsName n := by
  rw [components_eq] at h
  rcases List.mem_append.1 h with first | later
  · unfold front at first
    split at first
    · simp at first
    · split at first <;> simp at first
  · obtain ⟨s, mem, named⟩ := List.mem_filterMap.1 later
    have same : s = n := by
      unfold component? at named
      split at named
      · cases named
      · split at named
        · cases named
        · exact Component.name.inj (Option.some.inj named)
    exact ⟨same ▸ Text.notMem_of_mem_splitAt mem, same ▸ named⟩

/-! ## Joining -/

theorem join_of_absolute {p : Path} (h : p.isAbsolute = true) (base : Path) : base.join p = p := by
  rw [join, if_pos h]

/-- A relative path is joined behind one separator. -/
theorem join_text_of_relative {base p : Path} (relative : p.isAbsolute = false)
    (nonempty : base.text ≠ []) :
    ∃ before, (base.join p).text = before ++ '/' :: p.text ∧
      (base.text = before ∨ base.text = before ++ ['/']) := by
  have present : base.text.isEmpty = false := by simpa using nonempty
  by_cases ended : base.text.getLast? = some '/'
  · obtain ⟨before, text⟩ := List.getLast?_eq_some_iff.1 ended
    exact ⟨before, by simp [join, relative, text], .inr text⟩
  · exact ⟨base.text, by simp [join, relative, present, ended], .inl rfl⟩

theorem join_of_empty {base p : Path} (h : base.text = []) : base.join p = p := by
  simp [join, h]

theorem steps_of_empty {p : Path} (h : p.text = []) : p.steps = [] := by
  rw [steps, h]
  rfl

theorem steps_join {p : Path} (relative : p.isAbsolute = false) (base : Path) :
    (base.join p).steps = base.steps ++ p.steps := by
  by_cases empty : base.text = []
  · rw [join_of_empty empty, steps_of_empty empty, List.nil_append]
  · obtain ⟨before, joined, text | text⟩ := join_text_of_relative relative empty
    · rw [steps, joined, Text.splitAt_append, List.filterMap_append, steps, steps, text]
    · rw [steps, joined, Text.splitAt_append, List.filterMap_append, steps, steps, text,
        Text.splitAt_append, List.filterMap_append]
      simp [Text.splitAt, component?, isIdle]

theorem isAbsolute_join {base p : Path} (relative : p.isAbsolute = false) :
    (base.join p).isAbsolute = base.isAbsolute := by
  by_cases empty : base.text = []
  · rw [join_of_empty empty, relative, isAbsolute, empty]
    rfl
  · obtain ⟨before, joined, text | text⟩ := join_text_of_relative relative empty
    · rw [isAbsolute, joined, isAbsolute, text, List.head?_append_of_ne_nil _ (text ▸ empty)]
    · rw [isAbsolute, joined, isAbsolute, text]
      cases before <;> rfl

theorem front_join {base p : Path} (relative : p.isAbsolute = false) (nonempty : base.text ≠ []) :
    (base.join p).front = base.front := by
  unfold front
  rw [isAbsolute_join relative]
  obtain ⟨before, joined, text | text⟩ := join_text_of_relative relative nonempty
  · rw [joined, Text.splitAt_append, List.head?_append_of_ne_nil _ (Text.splitAt_ne_nil _ _), text]
  · rw [joined, text, Text.splitAt_append, Text.splitAt_append,
      List.head?_append_of_ne_nil _ (Text.splitAt_ne_nil _ _),
      List.head?_append_of_ne_nil _ (Text.splitAt_ne_nil _ _)]

namespace IsName

variable {n : Text} (h : IsName n)

include h

theorem ne_nil : n ≠ [] := by
  rintro rfl
  exact absurd h.not_idle (by decide)

theorem isAbsolute : Path.isAbsolute ⟨n⟩ = false := by
  rcases n with - | ⟨c, n⟩
  · rfl
  · have other : c ≠ '/' := fun same => h.unseparated (same ▸ List.mem_cons_self)
    simp [Path.isAbsolute, other]

theorem steps : Path.steps ⟨n⟩ = [.name n] := by
  rw [Path.steps, Text.splitAt_of_notMem h.unseparated]
  simp [h.proper]

theorem front : Path.front ⟨n⟩ = [] := by
  have dot : n ≠ ['.'] := by
    rintro rfl
    exact absurd h.not_idle (by decide)
  simp [Path.front, h.isAbsolute, Text.splitAt_of_notMem h.unseparated, dot]

end IsName

/-- What stands before a name that is joined. -/
def opening (base : Path) : Text :=
  if base.text.isEmpty || base.text.getLast? == some '/' then base.text else base.text ++ ['/']

theorem join_of_relative {p : Path} (relative : p.isAbsolute = false) (base : Path) :
    base.join p = ⟨base.opening ++ p.text⟩ := by
  unfold join opening
  rw [if_neg (by simp [relative])]
  split
  · rfl
  · rw [List.append_assoc, List.singleton_append]

theorem opening_join_name {n : Text} (h : IsName n) (base : Path) :
    (base.join ⟨n⟩).opening = (base.join ⟨n⟩).text ++ ['/'] := by
  have nonempty := h.ne_nil
  have last : n.getLast? ≠ some '/' := fun last => h.unseparated (List.mem_of_getLast? last)
  rw [join_of_relative h.isAbsolute, opening, if_neg]
  simp [nonempty, last]

/-- A name and what follows it can be joined at once or one after the other. -/
theorem join_name_join {n : Text} (h : IsName n) {p : Path} (relative : p.isAbsolute = false)
    (base : Path) : (base.join ⟨n⟩).join p = base.join ⟨n ++ '/' :: p.text⟩ := by
  have whole : (⟨n ++ '/' :: p.text⟩ : Path).isAbsolute = false := by
    have first := h.isAbsolute
    simp only [isAbsolute, List.head?_append_of_ne_nil _ h.ne_nil] at first ⊢
    exact first
  rw [join_of_relative relative, opening_join_name h, join_of_relative h.isAbsolute,
    join_of_relative whole]
  simp

/-- A name is one more component. -/
theorem components_join_name {n : Text} (h : IsName n) (base : Path) :
    (base.join ⟨n⟩).components = base.components ++ [.name n] := by
  rw [components_eq, components_eq, steps_join h.isAbsolute, h.steps]
  by_cases empty : base.text = []
  · rw [join_of_empty empty, h.front, steps_of_empty empty, front, isAbsolute, empty]
    rfl
  · rw [front_join h.isAbsolute empty, List.append_assoc]

theorem pathAlong_concat (base : Path) (names : List Text) (n : Text) :
    Scan.pathAlong base (names ++ [n]) = (Scan.pathAlong base names).join ⟨n⟩ := by
  rw [Scan.pathAlong, List.foldl_append]
  rfl

theorem components_pathAlong {names : List Text} (h : ∀ n ∈ names, IsName n) (base : Path) :
    (Scan.pathAlong base names).components = base.components ++ names.map .name := by
  induction names generalizing base with
  | nil => simp [Scan.pathAlong]
  | cons n names ih =>
    obtain ⟨here, later⟩ := List.forall_mem_cons.1 h
    rw [Scan.pathAlong, List.foldl_cons, ← Scan.pathAlong, ih later, components_join_name here]
    simp

/-! ## What is left below another path -/

theorem filterMap_dropWhile_idle (segments : List Text) :
    (segments.dropWhile isIdle).filterMap component? = segments.filterMap component? := by
  induction segments with
  | nil => rfl
  | cons s segments ih =>
    by_cases idle : isIdle s
    · rw [List.dropWhile_cons_of_pos idle, ih, List.filterMap_cons_none (component?_of_idle idle)]
    · rw [List.dropWhile_cons_of_neg idle]

theorem filterMap_trimSegments (segments : List Text) :
    (trimSegments segments).filterMap component? = segments.filterMap component? := by
  rw [trimSegments, List.filterMap_reverse, filterMap_dropWhile_idle, List.filterMap_reverse,
    List.reverse_reverse]

theorem trimSegments_isPrefix (segments : List Text) : trimSegments segments <+: segments := by
  rw [trimSegments, ← List.reverse_suffix, List.reverse_reverse]
  exact List.dropWhile_suffix _

theorem trimSegments_dropWhile_subset (segments : List Text) :
    trimSegments (segments.dropWhile isIdle) ⊆ segments :=
  List.Subset.trans (trimSegments_isPrefix _).subset (List.dropWhile_suffix isIdle).subset

/-- The opposite of splitting a path into segments. -/
theorem steps_joined {segments : List Text} (free : ∀ s ∈ segments, '/' ∉ s) :
    steps ⟨Text.join ['/'] segments⟩ = segments.filterMap component? := by
  by_cases empty : segments = []
  · rw [empty]
    rfl
  · rw [steps, Text.splitAt_join empty free]

theorem components_ofSplit_root {segments : List Text} (free : ∀ s ∈ segments, '/' ∉ s) :
    (ofSplit (some .root) segments).components = .root :: segments.filterMap component? := by
  rw [ofSplit, components, split]
  exact congrArg (List.cons Component.root) (steps_joined free)

theorem components_ofSplit_here {segments : List Text} (free : ∀ s ∈ segments, '/' ∉ s) :
    (ofSplit (some .here) segments).components = .here :: segments.filterMap component? := by
  have free : ∀ s ∈ ['.'] :: segments, '/' ∉ s := List.forall_mem_cons.2 ⟨by decide, free⟩
  have relative : (ofSplit (some .here) segments).isAbsolute = false := by
    cases segments <;> rfl
  rw [components_eq, front, relative, ofSplit, steps_joined free,
    Text.splitAt_join (List.cons_ne_nil _ _) free]
  rfl

theorem components_ofSplit_none {segments : List Text} (free : ∀ s ∈ segments, '/' ∉ s)
    (opening : ∀ s ∈ segments.head?, isIdle s = false) :
    (ofSplit none segments).components = segments.filterMap component? := by
  rcases segments with - | ⟨s, segments⟩
  · rfl
  · have proper : isIdle s = false := opening s rfl
    have cut := Text.splitAt_join (List.cons_ne_nil s segments) free
    have dot : s ≠ ['.'] := by
      rintro rfl
      exact absurd proper (by decide)
    have relative : isAbsolute ⟨Text.join ['/'] (s :: segments)⟩ = false := by
      rcases s with - | ⟨c, s⟩
      · exact absurd proper (by decide)
      · have other : c ≠ '/' := fun same =>
          free _ List.mem_cons_self (same ▸ List.mem_cons_self)
        cases segments <;> simp [Text.join, isAbsolute, other]
    have whole : ofSplit none (s :: segments) = ⟨Text.join ['/'] (s :: segments)⟩ := rfl
    rw [whole, components_eq, steps_joined free, front, relative, cut]
    simp [dot]

theorem segmentsAfter?_eq_some {cs : List Component} {segments rest : List Text}
    (h : segmentsAfter? cs segments = some rest) :
    segments.filterMap component? = cs ++ rest.filterMap component? ∧ rest <:+ segments := by
  fun_induction segmentsAfter? cs segments with
  | case1 segments =>
    cases h
    exact ⟨rfl, List.suffix_rfl⟩
  | case2 => cases h
  | case3 c cs s segments idle ih =>
    obtain ⟨steps, suffix⟩ := ih h
    exact ⟨by rw [List.filterMap_cons_none idle, steps], suffix.trans (List.suffix_cons s segments)⟩
  | case4 cs s segments d named ih =>
    obtain ⟨steps, suffix⟩ := ih h
    exact ⟨by rw [List.filterMap_cons_some named, steps, List.cons_append],
      suffix.trans (List.suffix_cons s segments)⟩
  | case5 => cases h

theorem exists_segmentsAfter? {cs : List Component} {segments : List Text}
    (h : cs <+: segments.filterMap component?) : ∃ rest, segmentsAfter? cs segments = some rest := by
  fun_induction segmentsAfter? cs segments with
  | case1 segments => exact ⟨segments, rfl⟩
  | case2 c cs => simp at h
  | case3 c cs s segments idle ih =>
    rw [List.filterMap_cons_none idle] at h
    exact ih h
  | case4 cs s segments d named ih =>
    rw [List.filterMap_cons_some named] at h
    exact ih (List.cons_prefix_cons.1 h).2
  | case5 c cs s segments d named other =>
    rw [List.filterMap_cons_some named] at h
    exact absurd (List.cons_prefix_cons.1 h).1 other

/-- What is left of a path below another: all of it, or what comes behind some segments. -/
theorem after?_cases {base p r : Path} (h : after? base p = some r) :
    (base.components = [] ∧ r = ofSplit p.split.1 (trimSegments p.split.2)) ∨
    ∃ rest, rest <:+ p.split.2 ∧ r = ofSplit none (trimSegments (rest.dropWhile isIdle)) ∧
      p.components = base.components ++ rest.filterMap component? := by
  have whole : p.components = p.split.1.toList ++ p.split.2.filterMap component? := rfl
  rw [whole]
  rcases cut : p.split with ⟨front, segments⟩
  rcases comps : base.components with - | ⟨c, cs⟩
  · simp only [after?, cut, comps] at h
    exact .inl ⟨rfl, (Option.some.inj h).symm⟩
  · right
    rcases front with - | f
    · simp only [after?, cut, comps] at h
      obtain ⟨rest, found, rfl⟩ := Option.map_eq_some_iff.1 h
      obtain ⟨steps, suffix⟩ := segmentsAfter?_eq_some found
      exact ⟨rest, suffix, rfl, steps⟩
    · simp only [after?, cut, comps] at h
      split at h
      · rename_i same
        obtain ⟨rest, found, rfl⟩ := Option.map_eq_some_iff.1 h
        obtain ⟨steps, suffix⟩ := segmentsAfter?_eq_some found
        refine ⟨rest, suffix, rfl, ?_⟩
        rw [same, Option.toList_some, List.singleton_append, steps, List.cons_append]
      · cases h

/-- The segments of a path hold no separator. -/
theorem notMem_of_mem_split {p : Path} {s : Text} (h : s ∈ p.split.2) : '/' ∉ s := by
  rcases split_cases p with ⟨rest, -, cut⟩ | ⟨segments, -, text, cut⟩ | ⟨-, -, cut⟩ <;> rw [cut] at h
  · exact Text.notMem_of_mem_splitAt h
  · exact Text.notMem_of_mem_splitAt (text ▸ List.mem_cons_of_mem _ h)
  · exact Text.notMem_of_mem_splitAt h

theorem isIdle_of_head?_dropWhile {segments : List Text} :
    ∀ s ∈ (segments.dropWhile isIdle).head?, isIdle s = false := by
  intro s first
  have := List.head?_dropWhile_not isIdle segments
  rw [Option.mem_def.1 first] at this
  simpa using this

theorem mem_head?_of_isPrefix {α : Type} {l l' : List α} {a : α} (h : l <+: l') (first : a ∈ l.head?) :
    a ∈ l'.head? := by
  obtain ⟨more, rfl⟩ := h
  cases l <;> simp_all

/-- A relative path has an empty segment in front only if it is empty. -/
theorem text_eq_nil_of_head? {p : Path} (relative : p.isAbsolute = false)
    (h : [] ∈ (Text.splitAt '/' p.text).head?) : p.text = [] := by
  obtain ⟨t⟩ := p
  rcases t with - | ⟨c, t⟩
  · rfl
  · have other : c ≠ '/' := by
      rintro rfl
      cases relative
    obtain ⟨q, qs, cut⟩ := List.exists_cons_of_ne_nil (Text.splitAt_ne_nil '/' t)
    simp [Text.splitAt, other, cut] at h

/-- The first segments of a path stand for its first components; idle ones at the end make no
difference. -/
theorem components_ofSplit_trimSegments {p : Path} {segments : List Text} (begin : segments <+: p.split.2) :
    (ofSplit p.split.1 (trimSegments segments)).components =
      p.split.1.toList ++ segments.filterMap component? := by
  have trimmed := (trimSegments_isPrefix segments).trans begin
  have free : ∀ s ∈ trimSegments segments, '/' ∉ s := fun s hs =>
    notMem_of_mem_split (trimmed.subset hs)
  rw [← filterMap_trimSegments segments]
  rcases split_cases p with ⟨rest, -, cut⟩ | ⟨rest, -, -, cut⟩ | ⟨relative, dot, cut⟩ <;>
    rw [cut] at trimmed ⊢
  · exact components_ofSplit_root free
  · exact components_ofSplit_here free
  · refine components_ofSplit_none free fun s first => ?_
    have first' : s ∈ (Text.splitAt '/' p.text).head? := mem_head?_of_isPrefix trimmed first
    by_cases empty : s = []
    · -- Only the empty path has an empty segment in front, and that segment is cut off.
      rw [empty] at first first'
      rw [cut, text_eq_nil_of_head? relative first'] at begin
      rcases List.prefix_cons_iff.1 begin with rfl | ⟨rest, rfl, none⟩
      · cases first
      · rw [List.prefix_nil.1 none] at first
        cases first
    · have point : s ≠ ['.'] := by
        rintro rfl
        exact dot first'
      simp [isIdle, empty, point]

/-- What is left of a path below another has the components that are left. -/
theorem components_of_after? {base p r : Path} (h : after? base p = some r) :
    p.components = base.components ++ r.components := by
  rcases after?_cases h with ⟨none, rfl⟩ | ⟨rest, suffix, rfl, whole⟩
  · rw [none, components_ofSplit_trimSegments List.prefix_rfl, List.nil_append]
    rfl
  · have free : ∀ s ∈ trimSegments (rest.dropWhile isIdle), '/' ∉ s := fun s hs =>
      notMem_of_mem_split (suffix.subset (trimSegments_dropWhile_subset rest hs))
    have opening : ∀ s ∈ (trimSegments (rest.dropWhile isIdle)).head?, isIdle s = false :=
      fun s first => isIdle_of_head?_dropWhile s (mem_head?_of_isPrefix (trimSegments_isPrefix _) first)
    rw [whole, components_ofSplit_none free opening, filterMap_trimSegments, filterMap_dropWhile_idle]

/-- Something is left of every path that begins with another. -/
theorem exists_after? {base p : Path} (h : p.startsWith base = true) : ∃ r, after? base p = some r := by
  have first : base.components <+: p.split.1.toList ++ p.split.2.filterMap component? :=
    List.isPrefixOf_iff_prefix.1 h
  rcases cut : p.split with ⟨front, segments⟩
  rw [cut] at first
  rcases comps : base.components with - | ⟨c, cs⟩
  · exact ⟨ofSplit front (trimSegments segments), by simp only [after?, cut, comps]⟩
  · rw [comps] at first
    rcases front with - | f
    · obtain ⟨rest, found⟩ := exists_segmentsAfter? first
      exact ⟨after?.remainder rest, by simp only [after?, cut, comps, found, Option.map_some]⟩
    · obtain ⟨same, later⟩ := List.cons_prefix_cons.1 first
      obtain ⟨rest, found⟩ := exists_segmentsAfter? later
      exact ⟨after?.remainder rest,
        by simp only [after?, cut, comps, found, same, if_true, Option.map_some]⟩

/-! ## How paths are shown -/

theorem mem_text_of_segments {p : Path} {segments : List Text}
    (sub : segments ⊆ Text.splitAt '/' p.text) {c : Char} (other : c ≠ '/')
    (mem : c ∈ Text.join ['/'] segments) : c ∈ p.text := by
  obtain ⟨s, hs, hc⟩ := (Text.mem_join_iff other).1 mem
  exact (Text.exists_mem_splitAt_iff other).1 ⟨s, sub hs, hc⟩

theorem split_subset (p : Path) : p.split.2 ⊆ Text.splitAt '/' p.text := by
  rcases split_cases p with ⟨rest, text, cut⟩ | ⟨segments, -, text, cut⟩ | ⟨-, -, cut⟩ <;> rw [cut]
  · rw [text, Text.splitAt, if_pos rfl]
    exact List.subset_cons_self _ _
  · rw [text]
    exact List.subset_cons_self _ _
  · exact List.Subset.refl _

/-- What is left of a path below another holds no character but those of the path, and separators. -/
theorem mem_text_of_after? {base p r : Path} (h : after? base p = some r) {c : Char} (other : c ≠ '/')
    (mem : c ∈ r.text) : c ∈ p.text := by
  rcases after?_cases h with ⟨-, rfl⟩ | ⟨rest, suffix, rfl, -⟩
  · have sub := List.Subset.trans (trimSegments_isPrefix p.split.2).subset (split_subset p)
    rcases split_cases p with ⟨rest, text, cut⟩ | ⟨segments, -, text, cut⟩ | ⟨-, -, cut⟩ <;>
      rw [cut] at sub mem
    · exact mem_text_of_segments sub other ((List.mem_cons.1 mem).resolve_left other)
    · exact mem_text_of_segments (List.cons_subset.2 ⟨text ▸ List.mem_cons_self, sub⟩) other mem
    · exact mem_text_of_segments sub other mem
  · have sub := List.Subset.trans suffix.subset (split_subset p)
    exact mem_text_of_segments (List.Subset.trans (trimSegments_dropWhile_subset rest) sub) other mem

/-- Below a root, a path is shown by what is left of it, if that holds no `\`. -/
theorem after?_display {p root : Path} (below : p.startsWith root = true)
    (proper : p.components ≠ root.components) (plain : ∀ r ∈ after? root p, '\\' ∉ r.text) :
    (after? root p).map text = some (p.display root) := by
  obtain ⟨r, found⟩ := exists_after? below
  have same : r.normalized = r.text := by
    have each : ∀ c ∈ r.text, (if c = '\\' then '/' else c) = id c := by
      intro c hc
      refine if_neg ?_
      rintro rfl
      exact plain r found hc
    exact (List.map_congr_left each).trans (List.map_id r.text)
  have nonempty : r.text ≠ [] := fun empty => by
    have none : r.components = [] := by
      obtain ⟨text⟩ := r
      subst empty
      rfl
    have whole := components_of_after? found
    rw [none, List.append_nil] at whole
    exact proper whole
  rw [found, Option.map_some, display, relativeTo?, found, Option.map_some, same]
  split
  · rename_i empty
    exact absurd (Option.some.inj empty) nonempty
  · rename_i missing
    cases missing
  · rename_i some
    exact some

end QuizPages.Path
