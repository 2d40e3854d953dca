import QuizPages.FileTree.Access
import QuizPages.Ignore.Rule

/-!
# What a walk passes over

The ignore files of all directories on the way to an entry have a say, the nearest first. The file
`.ignore` comes before `.gitignore`, and that before the exclude file of the repository; the latter
two count only below the top of a repository, and only up to the nearest such directory. An entry
that no rule speaks about is passed over if its name starts with a point.

The exclude file is `.git/info/exclude`. Where `.git` is a file, it names the directory of a work
tree, and `commondir` in there names the directory that holds `info/exclude`. Links to any of these
files are gone along. The ignore file that a user may have for all repositories is left out: it is
taken to be empty.
-/

namespace QuizPages.Ignore

/-- The kinds of ignore files. -/
inductive Source where
  | plain
  | git
  | exclude
  deriving DecidableEq, Repr

/-- What could not be read, and why. -/
structure Unreadable where
  path : Path
  reason : FileError
  deriving DecidableEq, Repr

/-- Whether a directory is the top of a repository. -/
def isRepository (t : FileTree) (dir : Place) : Bool :=
  [".git", ".jj"].any fun name : String => (t.behind? (dir ++ [name.toList])).isSome

/-- The first line of a file, if there is one, without its end. -/
def firstLine? (path : Path) (content : Octets) : Except Unreadable (Option Text) :=
  let line := content.takeWhile (· != 10)
  let line := if content.contains 10 then line ++ [10] else line
  match Utf8.decode? line with
  | some text => .ok (Text.lines text).head?
  | none => .error ⟨path, .malformed⟩

/-- The directory of the work tree that the file `.git` names, if it names one. The path starts
where relative paths do. -/
def workTree? (dotGit : Path) (content : Octets) : Except Unreadable (Option Path) := do
  let line ← firstLine? dotGit content
  return (line.bind fun t => Text.after? "gitdir: " t).map Path.mk

/-- The file in the directory of a work tree that names what all work trees have in common. -/
def commonFile (dir : Path) : Path := dir.join ⟨"commondir"⟩

/-- The directory that a work tree has in common with others. A path with a point in front is seen
from the directory of the work tree. -/
def commonDirectory? (t : FileTree) (dir : Path) : Except Unreadable (Option Path) := do
  let file := commonFile dir
  match t.read file with
  | .error .isDirectory => throw ⟨file, .isDirectory⟩
  | .error _ => return none
  | .ok content =>
    let line ← firstLine? file content
    return line.map fun t => if t.head? == some '.' then dir.join ⟨t⟩ else ⟨t⟩

/-- Where an ignore file for a directory would be. -/
def Source.path? (t : FileTree) (dir : Place) : Source → Except Unreadable (Option Path)
  | plain => .ok (some (Place.path (dir ++ [".ignore".toList])))
  | git => .ok (some (Place.path (dir ++ [".gitignore".toList])))
  | exclude => do
    let place := dir ++ [".git".toList]
    let common ←
      match t.behind? place with
      | some (.file content) =>
        match ← workTree? (Place.path place) content with
        | some dir => commonDirectory? t dir
        | none => pure none
      | _ => pure (some (Place.path place))
    return common.map fun p => p.join ⟨"info/exclude"⟩

/-- The ignore file of a kind for a directory, and its content. -/
def Source.file? (t : FileTree) (dir : Place) (source : Source) : Option (Path × Octets) := do
  let path ← (← (source.path? t dir).toOption)
  return (path, ← (t.read path).toOption)

/-- The rules that a kind of ignore file has for a directory. -/
def rulesIn (t : FileTree) (source : Source) (dir : Place) : List Rule :=
  ((source.file? t dir).map fun (_, content) => rulesOf content).getD []

/-- The directories above a place, the nearest first, each with the names from there on. -/
def above : Place → List (Place × List Text)
  | [] => []
  | n :: ns => (above ns).map (fun (dir, names) => (n :: dir, names)) ++ [([], n :: ns)]

/-- A list through the first member of a kind. -/
def through (p : α → Bool) : List α → List α
  | [] => []
  | a :: as => if p a then [a] else a :: through p as

/-- What the nearest directory that has a say says. -/
def nearest? (t : FileTree) (source : Source) (isDirectory : Bool) :
    List (Place × List Text) → Option Bool
  | [] => none
  | (dir, names) :: further =>
    match Ignore.verdict? (rulesIn t source dir) names isDirectory with
    | some keeps => some keeps
    | none => nearest? t source isDirectory further

/-- What the ignore files say about an entry: `true` to keep it, `false` to ignore it. -/
def verdictAt? (t : FileTree) (p : Place) : Option Bool :=
  let all := above p
  let isTop (d : Place × List Text) : Bool := isRepository t d.1
  let inRepository := if all.any isTop then through isTop all else []
  let isDirectory := t.isDirectory p
  (nearest? t .plain isDirectory all).or
    ((nearest? t .git isDirectory inRepository).or (nearest? t .exclude isDirectory inRepository))

/-- Whether a walk passes over an entry and all below it. -/
def passesOver (t : FileTree) (p : Place) : Bool :=
  match verdictAt? t p with
  | some keeps => !keeps
  | none => (p.getLast?.any fun name => name.head? == some '.')

/-! ## Complaints -/

/-- What is wrong with an ignore file. A line that is not UTF-8 is only spoken of beside other bad
lines. -/
def complaintsOf (path : Path) (content : Octets) : List Text :=
  let bad := (badLinesOf content).map fun b =>
    onLine b.number ("error parsing glob '" ++ b.text ++ "': " ++ b.reason.message)
  let (lines, cut) := readableLines content
  bad
    ++ (if cut && !bad.isEmpty then [onLine (lines.length + 1) FileError.malformed.message] else [])
    ++ ((tooDeep? content).map fun i => "error parsing pattern " ++ Text.ofNat i).toList
where
  onLine (number : Nat) (what : Text) : Text :=
    path.text ++ ": line " ++ Text.ofNat number ++ ": " ++ what

/-- What is wrong with a kind of ignore file for a directory. -/
def complaintsIn (t : FileTree) (dir : Place) (source : Source) : List Text :=
  match source.path? t dir with
  | .error e => [e.path.text ++ ": " ++ e.reason.message]
  | .ok _ => ((source.file? t dir).map fun (path, content) => complaintsOf path content).getD []

/-- What is wrong with the ignore files of the directories above a place, from the root on. -/
def complaintsAbove (t : FileTree) (p : Place) : List Text :=
  (above p).reverse.flatMap fun (dir, _) =>
    [Source.plain, Source.git, Source.exclude].flatMap (complaintsIn t dir)

end QuizPages.Ignore
