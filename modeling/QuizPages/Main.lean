import QuizPages.CommandLine.Run

/-!
# The program

Takes a picture of the part of the disk that a request is about, runs the request on it, and
brings the disk in line with the tree that comes out. In the picture a link goes right to where it
ends on the disk. A link that ends nowhere is left out, and so is what may not be read. What the
system refuses only shows when the disk is brought in line, and then ends the program.
-/

namespace QuizPages.Disk

/-- The path of a place for the system. -/
def pathOf (p : Place) : String := String.ofList p.path.text

/-- What is at a place of the disk, a link not gone along. The content of a file is only read if it
can be asked for. -/
def entryOf? (asked : Bool) (p : Place) : IO (Option Entry) := do
  let path := (← IO.currentDir) / pathOf p
  try
    match (← path.symlinkMetadata).type with
    | .dir => return some .directory
    | .symlink => return some (.link ⟨(← IO.FS.realPath path).toString.toList⟩)
    | .file =>
      if asked then return some (.file (← IO.FS.readBinFile path).data.toList)
      else return some (.file [])
    | .other => return none
  catch _ => return none

/-- Adds what is at a place. -/
def addEntry (asked : Bool) (t : FileTree) (p : Place) : IO FileTree := do
  if !asked && (t.find? p).isSome then return t
  match ← entryOf? asked p with
  | some e => return (t.put p e).toOption.getD t
  | none => return t

/-- Adds what segments lead through from a directory, and to, all links gone along. -/
partial def addWay (t : FileTree) (here : Place) : List Text → IO FileTree
  | [] => return t
  | s :: segments => do
    match Path.component? s with
    | none => addWay t here segments
    | some .up => addWay t here.dropLast segments
    | some _ =>
      let there := here ++ [s]
      let t ← addEntry true t there
      match t.find? there with
      | some (.link target) => addWay t [] (Text.splitAt '/' target.text ++ segments)
      | _ => addWay t there segments

/-- Adds what a path leads through, and to. -/
def addPath (t : FileTree) (p : Path) : IO FileTree :=
  addWay t (t.current.origin p) (Text.splitAt '/' p.text)

/-- Adds what decides about the entries of a directory that a walk passes over. -/
def addIgnoreFiles (t : FileTree) (dir : Place) : IO FileTree := do
  let names : List Text := [".ignore", ".gitignore", ".git", ".jj"]
  let t ← names.foldlM (fun t name => addWay t dir [name]) t
  let dotGit := Place.path (dir ++ [".git".toList])
  let t ← match (t.read dotGit).toOption.map (Ignore.workTree? dotGit) with
    | some (.ok (some tree)) => addPath t (Ignore.commonFile tree)
    | _ => pure t
  match Ignore.Source.exclude.path? t dir with
  | .ok (some file) => addPath t file
  | _ => return t

/-- Adds all that is below a directory, links not gone along. Files that are never read are only
named. -/
partial def addBelow (t : FileTree) (dir : Place) : IO FileTree := do
  let mut t ← addIgnoreFiles t dir
  let found ← try ((← IO.currentDir) / pathOf dir).readDir catch _ => pure #[]
  for entry in found do
    let name := entry.fileName.toList
    let there := dir ++ [name]
    t ← addEntry (Path.isPage ⟨name⟩) t there
    if t.isDirectory there && !(name == ".git".toList || name == ".jj".toList) then
      t ← addBelow t there
  return t

/-- Adds what a scan looks at: a page, or a directory with all below it, and the ignore files of
those above it. -/
def addScanned (t : FileTree) (start : Path) : IO FileTree := do
  let t ← addPath t start
  match t.entryAt start with
  | .ok (place, .directory) =>
    let t ← (Ignore.above place).foldlM (fun t dir => addIgnoreFiles t dir.1) t
    addBelow t place
  | _ => return t

/-- The part of the disk that a request is about. Where a build goes is only known once its pages
are. -/
def picture (r : CommandLine.Request) : IO FileTree := do
  let here : Path := ⟨(← IO.currentDir).toString.toList⟩
  let t ← addPath FileTree.empty here
  let t :=
    match t.placeOf here with
    | .ok place => t.enter place
    | .error _ => t
  let t ← addPath t r.root
  let root := CommandLine.rootOf t r
  let assets : List Text := ["quiz.css", "quiz.js"]
  let t ← (r.assetsDir.toList.flatMap fun dir => assets.map fun name => dir.join ⟨name⟩).foldlM addPath t
  match r.command with
  | .render file output _ => (root.join file :: output.toList).foldlM addPath t
  | .list scope | .lint scope _ => addScanned t (Scan.start root scope)
  | .assets => return t
  | .build scope out _ _ =>
    let out := root.join out
    let t ← addScanned t (Scan.start root scope)
    let t ← addPath t out
    match (Scan.pages t root scope (some out)).2 with
    | .ok files => files.foldlM (fun t f => addPath t (out.join ⟨f.relative⟩)) t
    | .error _ => return t

/-- Makes the directories and writes the files that are new in a tree. Links stay as they are. -/
def update (before after : FileTree) : IO Unit := do
  for (place, entry) in after.entries do
    let path := pathOf place
    unless before.find? place == some entry do
      match entry with
      | .directory => IO.FS.createDir path
      | .file content => IO.FS.writeBinFile path ⟨content.toArray⟩
      | .link _ => pure ()

end QuizPages.Disk

open QuizPages in
def main (arguments : List String) : IO UInt32 := do
  let arguments := arguments.map String.toList
  let names := ["QUIZMARK_ASSETS_DIR", "RUST_LOG", "RUST_LOG_STYLE", "CLICOLOR_FORCE", "NO_COLOR"]
  let settings ← names.filterMapM fun name => do
    return (← IO.getEnv name).map fun value => (name.toList, value.toList)
  let before ←
    match CommandLine.readArguments (CommandLine.Variables.get? settings "QUIZMARK_ASSETS_DIR")
        arguments with
    | .ok request => Disk.picture request
    | .error _ => pure FileTree.empty
  let result := CommandLine.run before settings arguments
  Disk.update before result.tree
  IO.print (String.ofList result.output)
  IO.eprint (String.ofList result.messages)
  return UInt32.ofNat result.exit
