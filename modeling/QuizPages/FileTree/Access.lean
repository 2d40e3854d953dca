import QuizPages.FileTree.Basic

/-!
# Access by path

Paths lead to entries name by name: `..` goes to the directory above, a link goes on along the path that it
holds, and every name but the last must lead to a directory. A path with a NUL leads nowhere, nor does one of
more than `maxPath` octets or one on which more than `maxLinks` links are met. What cannot be done is refused
with the system's reason, and then the tree stays as it was; only making a directory with all above it may
get half way.
-/

namespace QuizPages

/-- The absolute path of a place. -/
def Place.path (p : Place) : Path := ⟨'/' :: Text.join ['/'] p⟩

/-- Where a path begins, seen from a directory. -/
def Place.origin (here : Place) (p : Path) : Place := if p.isAbsolute then [] else here

namespace FileTree

/-- The longest name that a file may have, in octets. -/
def maxName : Nat := 255

/-- The longest path that leads anywhere, in octets. -/
def maxPath : Nat := 4095

/-- How many links may be met on the way. -/
def maxLinks : Nat := 40

/-- What a path names, as far as that is known without looking at the last name. -/
inductive Location where
  /-- A directory that is there: the path ends in `.`, `..` or the root. -/
  | directory (place : Place)
  /-- A name in a directory that is there, and whether a `/` follows it. -/
  | named (place : Place) (slash : Bool)

/-- Goes along segments from a directory, and on by `turn` where it meets a link. A link at the end is not
gone along unless `follow` says so. -/
def walkWith (t : FileTree) (follow : Bool) (turn : Place → List Text → Except FileError Location) :
    Place → List Text → Except FileError Location
  | here, [] => .ok (.directory here)
  | here, s :: segments =>
    match Path.component? s with
    | none => walkWith t follow turn here segments
    | some .up => walkWith t follow turn here.dropLast segments
    | some _ =>
      if maxName < s.size then .error .longName
      else
        let there := here ++ [s]
        let ended := segments.all List.isEmpty
        let named := Location.named there !segments.isEmpty
        match t.find? there with
        | some .directory => if ended then .ok named else walkWith t follow turn there segments
        | some (.file _) => if ended then .ok named else .error .notDirectory
        | some (.link target) =>
          if ended && !follow then .ok named
          else turn (here.origin target) (Text.splitAt '/' target.text ++ segments)
        | none => if ended then .ok named else .error .missing

/-- Goes along segments from a directory, and along a number of links at most. -/
def walk (t : FileTree) (follow : Bool) : Nat → Place → List Text → Except FileError Location
  | 0 => t.walkWith follow fun _ _ => .error .tooManyLinks
  | links + 1 => t.walkWith follow (t.walk follow links)

/-- What a path names, and whether a link at its end is gone along. -/
def lookUp (t : FileTree) (follow : Bool) (p : Path) : Except FileError Location :=
  if p.text.contains '\x00' then .error .nulInPath
  else if maxPath < p.text.size then .error .longName
  else if p.text.isEmpty then .error .missing
  else t.walk follow maxLinks (t.current.origin p) (Text.splitAt '/' p.text)

/-- What a path names, all links gone along. -/
def locate (t : FileTree) (p : Path) : Except FileError Location := t.lookUp true p

/-- The place of an entry that is there, and the entry, which is no link. -/
def entryAt (t : FileTree) (p : Path) : Except FileError (Place × Entry) := do
  match ← t.locate p with
  | .directory place => return (place, .directory)
  | .named place slash =>
    match t.find? place with
    | none => throw .missing
    | some .directory => return (place, .directory)
    | some e => if slash then throw .notDirectory else return (place, e)

/-- Whether a path leads to an entry. -/
def has (t : FileTree) (p : Path) : Bool := (t.entryAt p).isOk

/-- Whether a path leads to a directory. -/
def hasDirectory (t : FileTree) (p : Path) : Bool :=
  match t.entryAt p with
  | .ok (_, .directory) => true
  | _ => false

/-- The place that a path leads to. -/
def placeOf (t : FileTree) (p : Path) : Except FileError Place := (t.entryAt p).map (·.1)

/-- What is at a place, or behind the link that is there. -/
def behind? (t : FileTree) (p : Place) : Option Entry :=
  match t.find? p with
  | some (.link _) => (t.entryAt p.path).toOption.map (·.2)
  | found => found

/-- The content of a file. -/
def read (t : FileTree) (p : Path) : Except FileError Octets := do
  match ← t.entryAt p with
  | (_, .file content) => return content
  | _ => throw .isDirectory

/-- The text of a file. -/
def readText (t : FileTree) (p : Path) : Except FileError Text := do
  match Utf8.decode? (← t.read p) with
  | some text => return text
  | none => throw .malformed

/-- The tree with a file of a given content, new or in place of the one that was. A path that ends in a link
leads to the file to be written, and that file may be new as well. -/
def write (t : FileTree) (p : Path) (content : Octets) : Except FileError FileTree := do
  match ← t.locate p with
  | .directory _ => throw .isDirectory
  | .named place slash =>
    if t.isDirectory place || slash then throw .isDirectory else t.put place (.file content)

/-- The tree with a new directory. A link is in its way, wherever it leads. -/
def makeDirectory (t : FileTree) (p : Path) : Except FileError FileTree := do
  match ← t.lookUp false p with
  | .directory _ => throw .present
  | .named place _ =>
    if (t.find? place).isSome then throw .present else t.put place .directory

/-- Makes a directory unless it is there. -/
def makeOne (t : FileTree) (p : Path) : FileTree × Except FileError Unit :=
  if t.hasDirectory p then (t, .ok ())
  else
    match t.makeDirectory p with
    | .ok t => (t, .ok ())
    | .error e => (t, .error e)

/-- Makes the first of some directories, each of which lies in the next one. The others are made if they
are missing. -/
def makeUp (t : FileTree) : List Path → FileTree × Except FileError Unit
  | [] => (t, .error .missing)
  | p :: above =>
    if p.text.isEmpty then (t, .ok ())
    else
      match t.makeOne p with
      | (_, .error .missing) =>
        match t.makeUp above with
        | (t, .ok ()) => t.makeOne p
        | failed => failed
      | done => done

/-- Makes a directory and those above it that are missing. -/
def makeAll (t : FileTree) (p : Path) : FileTree × Except FileError Unit := t.makeUp p.ancestors

end FileTree
end QuizPages
