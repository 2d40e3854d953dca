import QuizPages.FileTree.Delivery
import QuizPages.Page.Lint
import QuizPages.Page.Listing
import QuizPages.Page.Rendering
import QuizPages.Reading
import QuizPages.Report.Order
import QuizPages.Scan

/-!
# Sites

The pages of a whole tree: listed, checked, or rendered into an output directory of the same
layout. A page that cannot be read is reported and passed over; the first directory or file that
cannot be written ends a build.
-/

namespace QuizPages.Site

/-! ## Listing and checking -/

/-- The report on all pages, each with its readings and what `about` says of its page. -/
def survey (t : FileTree) (root : Path) (scope : Option Path) (about : Page → List Item) :
    List Record × Except Text (List Item) :=
  let (records, found) := Scan.pages t root scope none
  match found with
  | .error e => (records, .error e)
  | .ok files =>
    let each := files.map fun f =>
      let reading := Reading.ofPath {} t f.path
      let items := reading.items f.relative
      match reading.text? with
      | none => ([], items)
      | some text =>
        let page := Page.ofText f.relative text
        (page.readingRecords, items ++ about page)
    (records ++ each.flatMap (·.1), .ok (Item.sort (each.flatMap (·.2))))

/-- The quizzes of a tree. -/
def list (t : FileTree) (root : Path) (scope : Option Path) :
    List Record × Except Text (List Item) :=
  survey t root scope fun p => if p.disabled then [] else p.list

/-- The issues of a tree. -/
def lint (t : FileTree) (root : Path) (scope : Option Path) :
    List Record × Except Text (List Item) :=
  survey t root scope fun p => p.lint.map Issue.item

/-! ## Building -/

/-- Why a build ends early. -/
inductive BuildError where
  /-- The output directory is the source directory. -/
  | overwritesSource (out : Path)
  | noPages (reason : Text)
  | undelivered (e : DeliveryError)
  deriving DecidableEq, Repr

namespace BuildError

def message : BuildError → Text
  | overwritesSource out =>
    "Output directory " ++ out.text ++ " would overwrite the source pages"
  | noPages reason => reason
  | undelivered e => e.message

/-- What lies behind an error. -/
def cause? : BuildError → Option Text
  | undelivered e => some e.cause
  | _ => none

end BuildError

/-- What a build works with. -/
structure Options where
  /-- The directory to build, seen from the root. -/
  scope : Option Path := none
  /-- The output directory, seen from the root. -/
  out : Path
  /-- What is appended to pages. -/
  assets : Option Assets := none

structure Stats where
  pages : Nat := 0
  disabled : Nat := 0
  skipped : Nat := 0
  quizzes : Nat := 0
  failures : Nat := 0
  deriving DecidableEq, Repr

/-- What became of one page: the warnings of its reading, and its output unless it was passed
over. -/
structure Built where
  warnings : List Item
  output : Option PageOutput

namespace Built

def items (b : Built) : List Item :=
  b.warnings ++ (match b.output with
    | some o => o.items
    | none => [])

end Built

namespace Stats

/-- The count with one more page. -/
def record (s : Stats) (b : Built) : Stats :=
  match b.output with
  | none => { s with skipped := s.skipped + 1 }
  | some o =>
    { s with
      pages := s.pages + 1
      quizzes := s.quizzes + o.rendered.toNat
      failures := s.failures + o.failures
      disabled := s.disabled + (if o.disabled then 1 else 0) }

def ofBuilt (bs : List Built) : Stats := bs.foldl record {}

end Stats

/-- A step of a build: the tree afterwards, what was logged, and what came of it. -/
structure Step (α : Type) where
  tree : FileTree
  records : List Record
  result : Except BuildError α

/-- Reads, renders and writes one page. -/
def buildPage (t : FileTree) (out : Path) (assets : Option Assets) (f : PageFile) : Step Built :=
  let reading := Reading.ofPath {} t f.path
  let warnings := reading.items f.relative
  match reading with
  | .skipped reason =>
    let record : Record := ⟨.build, .warn, "Skipping " ++ f.relative ++ ": " ++ reason.message⟩
    ⟨t, [record], .ok ⟨warnings, none⟩⟩
  | .loaded text _ _ =>
    let page := Page.ofText f.relative text
    let output := page.render assets
    let (t, delivered) := t.deliver (out.join ⟨f.relative⟩) output.text
    ⟨t, page.records,
      (delivered.mapError BuildError.undelivered).map fun _ => ⟨warnings, some output⟩⟩

/-- Builds pages one after another, up to the first that cannot be written. -/
def buildPages (t : FileTree) (out : Path) (assets : Option Assets) :
    List PageFile → Step (List Built)
  | [] => ⟨t, [], .ok []⟩
  | f :: fs =>
    let first := buildPage t out assets f
    match first.result with
    | .error e => ⟨first.tree, first.records, .error e⟩
    | .ok b =>
      let rest := buildPages first.tree out assets fs
      ⟨rest.tree, first.records ++ rest.records, rest.result.map (b :: ·)⟩

/-- Whether two paths lead to one place. -/
def samePlace (t : FileTree) (p q : Path) : Bool :=
  match t.placeOf p, t.placeOf q with
  | .ok a, .ok b => a == b
  | _, _ => false

/-- Renders every page of the scope into the output directory. -/
def build (t : FileTree) (root : Path) (options : Options) : Step (List Item × Stats) :=
  let source := root.join (options.scope.getD ⟨[]⟩)
  let out := root.join options.out
  if samePlace t source out then ⟨t, [], .error (.overwritesSource out)⟩
  else
    let (records, found) := Scan.pages t root options.scope (some out)
    match found with
    | .error reason => ⟨t, records, .error (.noPages reason)⟩
    | .ok files =>
      let start : Record :=
        ⟨.build, .debug, "Building " ++ Text.ofNat files.length ++ " pages into " ++ out.text⟩
      let built := buildPages t out options.assets files
      ⟨built.tree, records ++ start :: built.records,
        built.result.map fun bs => (Item.sort (bs.flatMap Built.items), Stats.ofBuilt bs)⟩

end QuizPages.Site
