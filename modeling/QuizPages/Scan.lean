import QuizPages.Ignore.Walk
import QuizPages.Log

/-!
# Finding pages

The pages of a tree lie below the scanned directory, are reached without passing through anything
that is passed over or excluded, and come in the order of their relative paths. The scanned
directory itself is never passed over, and the way to it may go along links. Below it a link is
neither a page nor a directory to be gone into.
-/

namespace QuizPages

/-- A page on disk. -/
structure PageFile where
  /-- How the walk got to it. -/
  path : Path
  /-- How it is called. -/
  relative : Text
  deriving DecidableEq, Repr

namespace Scan

/-- Where a scan starts: the scope seen from the root. -/
def start (root : Path) (scope : Option Path) : Path :=
  match scope with
  | some s => root.join s
  | none => root

/-- Whether a walk from a directory goes all the way along some names. -/
def reaches (t : FileTree) (exclude : Option Path) : Place → Path → List Text → Bool
  | _, _, [] => true
  | here, path, name :: names =>
    let here := here ++ [name]
    let path := path.join ⟨name⟩
    !Ignore.passesOver t here && !(exclude.any path.startsWith)
      && reaches t exclude here path names

/-- The path of a walk from a directory along some names. -/
def pathAlong (path : Path) (names : List Text) : Path :=
  names.foldl (fun p name => p.join ⟨name⟩) path

/-- The page at a place, if a walk from a directory reaches one there. -/
def pageAt? (t : FileTree) (root start : Path) (exclude : Option Path) (here place : Place) :
    Option PageFile :=
  if here.isPrefixOf place && here.length < place.length then
    let names := place.drop here.length
    let path := pathAlong start names
    if (t.content? place).isSome && path.isPage && reaches t exclude here start names then
      some ⟨path, path.display root⟩
    else none
  else none

/-- In the order of relative paths; equal ones stay as they are. -/
def inOrder (pages : List PageFile) : List PageFile :=
  pages.mergeSort fun a b => Text.le a.relative b.relative

/-- What is logged before a walk from a directory. -/
def records (t : FileTree) (here : Place) : List Record :=
  match Ignore.complaintsAbove t here with
  | [] => []
  | complaints =>
    [⟨.scan, .warn, "Skipping unreadable entry: " ++ Text.join ['\n'] complaints⟩]

/-- The pages below the scope, or the scope itself if it is a page, and what is logged. Nothing
below `exclude` is found. -/
def pages (t : FileTree) (root : Path) (scope exclude : Option Path) :
    List Record × Except Text (List PageFile) :=
  let start := start root scope
  match t.entryAt start with
  | .error _ => ([], .error ("Scan path does not exist: " ++ start.text))
  | .ok (here, .directory) =>
    (records t here,
      .ok (inOrder (t.entries.filterMap fun e => pageAt? t root start exclude here e.1)))
  | .ok _ => ([], .ok (if start.isPage then [⟨start, start.display root⟩] else []))

end Scan
end QuizPages
