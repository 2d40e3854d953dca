import QuizPages.Text.Basic

/-!
# Paths

A path is kept as it was written. Its components skip empty segments and `.`, except for a `.`
in front, and keep `..`. Two paths that are written differently may have the same components.
-/

namespace QuizPages

/-- A path as written, with `/` between segments. -/
structure Path where
  text : Text
  deriving DecidableEq, Repr, Inhabited

namespace Path

inductive Component where
  /-- The `/` in front of an absolute path. -/
  | root
  /-- The `.` in front of a relative path. -/
  | here
  | up
  | name (text : Text)
  deriving DecidableEq, Repr

def isAbsolute (p : Path) : Bool := p.text.head? == some '/'

/-- The component in front that is no segment like the others, and the segments after it. -/
def split (p : Path) : Option Component × List Text :=
  match p.text with
  | '/' :: rest => (some .root, Text.splitAt '/' rest)
  | t =>
    match Text.splitAt '/' t with
    | ['.'] :: segments => (some .here, segments)
    | segments => (none, segments)

/-- The opposite of `split`. -/
def ofSplit : Option Component → List Text → Path
  | some .root, segments => ⟨'/' :: Text.join ['/'] segments⟩
  | some .here, segments => ⟨Text.join ['/'] (['.'] :: segments)⟩
  | _, segments => ⟨Text.join ['/'] segments⟩

/-- A segment that counts as no component. -/
def isIdle (segment : Text) : Bool := segment == [] || segment == ['.']

/-- The component that a segment stands for. -/
def component? (segment : Text) : Option Component :=
  if isIdle segment then none
  else if segment = ['.', '.'] then some .up
  else some (.name segment)

/-- Whether a text can be the name of a file or directory. -/
structure IsName (n : Text) : Prop where
  unseparated : '/' ∉ n
  proper : component? n = some (.name n)

instance (n : Text) : Decidable (IsName n) :=
  decidable_of_iff ('/' ∉ n ∧ component? n = some (.name n)) ⟨fun h => ⟨h.1, h.2⟩, fun h => ⟨h.1, h.2⟩⟩

def components (p : Path) : List Component :=
  let (front, segments) := p.split
  front.toList ++ segments.filterMap component?

/-- Whether the components of one path begin with those of another. -/
def startsWith (p base : Path) : Bool := base.components.isPrefixOf p.components

/-- Segments without the idle ones at the end. -/
def trimSegments (segments : List Text) : List Text :=
  (segments.reverse.dropWhile isIdle).reverse

/-- What segments hold after given components. -/
def segmentsAfter? : List Component → List Text → Option (List Text)
  | [], segments => some segments
  | _ :: _, [] => none
  | c :: cs, s :: segments =>
    match component? s with
    | none => segmentsAfter? (c :: cs) segments
    | some d => if c = d then segmentsAfter? cs segments else none

/-- The rest of a path after the components of another. -/
def after? (base p : Path) : Option Path :=
  let (front, segments) := p.split
  match base.components, front with
  | [], front => some (ofSplit front (trimSegments segments))
  | c :: cs, some f => if c = f then (segmentsAfter? cs segments).map remainder else none
  | cs, none => (segmentsAfter? cs segments).map remainder
where
  remainder (segments : List Text) : Path :=
    ofSplit none (trimSegments (segments.dropWhile isIdle))

/-- The text of a path with `/` for every `\`. -/
def normalized (p : Path) : Text := p.text.map fun c => if c = '\\' then '/' else c

/-- The rest of a path below a root, with `/` between segments. -/
def relativeTo? (p root : Path) : Option Text := (after? root p).map normalized

/-- How a path is shown: below the root if it lies there, else as it is. -/
def display (p root : Path) : Text :=
  match relativeTo? p root with
  | some [] | none => p.normalized
  | some t => t

/-- A path seen from a base; an absolute path stands for itself. -/
def join (base p : Path) : Path :=
  if p.isAbsolute then p
  else if base.text.isEmpty || base.text.getLast? == some '/' then ⟨base.text ++ p.text⟩
  else ⟨base.text ++ '/' :: p.text⟩

/-- The path without its last component. -/
def parent? (p : Path) : Option Path :=
  let (front, segments) := p.split
  match segments.reverse.dropWhile isIdle, front with
  | _ :: rest, front => some (ofSplit front (trimSegments rest.reverse))
  | [], some .here => some ⟨[]⟩
  | [], _ => none

/-- A path and those above it, the nearest first, up to a number of them. -/
def pathsAbove : Nat → Path → List Path
  | 0, p => [p]
  | more + 1, p =>
    p :: match p.parent? with
      | some above => pathsAbove more above
      | none => []

/-- A path and all above it, of which there are no more than components. -/
def ancestors (p : Path) : List Path := pathsAbove p.components.length p

/-- The last component, if it is a name. -/
def fileName? (p : Path) : Option Text :=
  match p.components.getLast? with
  | some (.name t) => some t
  | _ => none

/-- What follows the last point of the file name, unless that point is the first character. -/
def extension? (p : Path) : Option Text := do
  let name ← p.fileName?
  let (after, before) := (name.reverse.takeWhile (· != '.'), name.reverse.dropWhile (· != '.'))
  if before.length ≤ 1 then none else some after.reverse

/-- The extensions of pages. -/
def pageExtensions : List Text := ["md".toList, "markdown".toList]

/-- Whether a path names a page, by its extension. -/
def isPage (p : Path) : Bool := p.extension?.any fun e => pageExtensions.contains e.lower

end Path
end QuizPages
