import QuizPages.CommandLine.Arguments
import QuizPages.CommandLine.Logging
import QuizPages.Report.Format
import QuizPages.Site

/-!
# Running a command

A run takes arguments, environment variables and a file tree, and comes to an exit code, two
texts for the two output streams, and the tree afterwards.
-/

namespace QuizPages.CommandLine

/-- What a run comes to. -/
structure Result where
  exit : Nat
  output : Text
  messages : Text
  tree : FileTree

/-- Environment variables by name. -/
abbrev Variables := List (Text × Text)

/-- The value of a variable. -/
def Variables.get? (v : Variables) (name : Text) : Option Text := v.lookup name

/-- What a command comes to: what is logged, further messages, what is printed, and the reason if
it failed with what lies behind it. -/
structure Ending where
  tree : FileTree
  records : List Record := []
  notes : Text := []
  output : Text := []
  failure : Option (Text × Option Text) := none

/-- A report with an end of line, or nothing if it is empty. -/
def printed (report : Text) : Text := if report.isEmpty then [] else report ++ ['\n']

/-! ## Commands -/

def render (t : FileTree) (root : Path) (style : Report.Style) (assets : Option Assets)
    (file : Path) (output : Option Path) : Ending :=
  let full := root.join file
  let name := full.display root
  let reading := Reading.ofPath {} t full
  let warnings : List Record :=
    reading.warnings.map fun f => ⟨.render, .warn, name ++ ": " ++ f.message⟩
  match reading with
  | .skipped reason =>
    { tree := t, records := warnings
      failure := some ("Cannot render " ++ name ++ ": " ++ reason.message, none) }
  | .loaded text _ _ =>
    let page := Page.ofText name text
    let rendered := page.render assets
    let records := warnings ++ page.records
    match output with
    | none => { tree := t, records, output := rendered.text }
    | some target =>
      match t.deliver target rendered.text with
      | (t, .error e) => { tree := t, records, failure := some (e.message, some e.cause) }
      | (t, .ok ()) =>
        { tree := t, records, output := printed (Report.render style rendered.items) }

/-- The statistics of a build, with some numbers in color. Counts of what should not be are left
out if they are zero. -/
def statsText (colored : Bool) (s : Site.Stats) : Text :=
  let paint (code t : Text) : Text := if colored then Terminal.styled [code] t else t
  let row (label value : Text) : Text := "   " ++ label ++ ": " ++ value ++ "\n"
  let unlessZero (n : Nat) (t : Text) : Text := if n = 0 then [] else t
  paint "1" "Build Statistics:" ++ "\n"
    ++ row "Pages" (Text.ofNat s.pages)
    ++ row "Quizzes" (paint "32" (Text.ofNat s.quizzes))
    ++ unlessZero s.disabled (row "Disabled" (Text.ofNat s.disabled))
    ++ unlessZero s.skipped (row "Skipped" (paint "33" (Text.ofNat s.skipped)))
    ++ unlessZero s.failures (row "Failed quizzes" (paint "31" (Text.ofNat s.failures)))
    ++ "\n"

def build (t : FileTree) (root : Path) (style : Report.Style) (options : Site.Options)
    (stats : Option Bool) : Ending :=
  let b := Site.build t root options
  match b.result with
  | .error e => { tree := b.tree, records := b.records, failure := some (e.message, e.cause?) }
  | .ok (items, counted) =>
    { tree := b.tree, records := b.records
      notes := (stats.map fun colored => statsText colored counted).getD []
      output := printed (Report.render style items) }

def list (t : FileTree) (root : Path) (style : Report.Style) (scope : Option Path) : Ending :=
  match Site.list t root scope with
  | (records, .error e) => { tree := t, records, failure := some (e, none) }
  | (records, .ok items) =>
    { tree := t
      records := records ++ [⟨.list, .debug, "Listed " ++ Text.ofNat items.length ++ " items"⟩]
      output := printed (Report.render style items) }

def lint (t : FileTree) (root : Path) (style : Report.Style) (scope : Option Path)
    (strict : Bool) : Ending :=
  match Site.lint t root scope with
  | (records, .error e) => { tree := t, records, failure := some (e, none) }
  | (records, .ok items) =>
    { tree := t
      records := records ++ (if items.isEmpty then [⟨.lint, .info, "No quiz issues found"⟩] else [])
      output := printed (Report.render style items)
      failure :=
        if strict && errorCount items != 0 then some ("Lint found quiz errors", none) else none }

/-- The root of a request: the place that its path leads to, if it leads anywhere. -/
def rootOf (t : FileTree) (r : Request) : Path :=
  match t.placeOf r.root with
  | .ok place => Place.path place
  | .error _ => r.root

/-- What a request comes to. `colored` says whether statistics may be in color. -/
def perform (t : FileTree) (colored : Bool) (r : Request) : Ending :=
  let format := Report.Format.ofName? r.format
  let style : Report.Style := ⟨format.getD .jsonl, r.pretty⟩
  let root := rootOf t r
  let (assets, complaints) := Assets.load t r.assetsDir
  let ending :=
    match r.command with
    | .render file output withAssets =>
      render t root style (if withAssets then some assets else none) file output
    | .build scope out withAssets showStats =>
      build t root style
        { scope, out, assets := if withAssets then some assets else none }
        (if showStats then some (colored && !r.noColor) else none)
    | .list scope => list t root style scope
    | .lint scope strict => lint t root style scope strict
    | .assets => { tree := t, output := if assets.isEmpty then [] else assets.snippet ++ ['\n'] }
  let fallback : List Record :=
    if format.isSome then []
    else [⟨.commandLine, .warn, Report.Format.unknown r.format ++ ", falling back to jsonl"⟩]
  { ending with records := fallback ++ complaints ++ ending.records }

/-! ## Runs -/

/-- The filter of a request: that of the environment, or else by how much is asked for. -/
def filterOf (settings : Variables) (r : Request) : Logging.Filter × List Text :=
  match settings.get? "RUST_LOG" with
  | some spec => Logging.readFilter spec
  | none =>
    (.atLeast (if r.verbose then .debug else if r.quiet then .error else .warn), [])

/-- Whether statistics may be in color. -/
def colorsStats (settings : Variables) : Bool :=
  (settings.get? "CLICOLOR_FORCE").any (· != ['0'])

/-- Whether log lines are in color. -/
def colorsLog (settings : Variables) : Bool :=
  if settings.get? "RUST_LOG_STYLE" == some "always".toList then true
  else if settings.get? "RUST_LOG_STYLE" == some "never".toList then false
  else isFilled "CLICOLOR_FORCE" && !isFilled "NO_COLOR"
where
  isFilled (name : Text) : Bool := (settings.get? name).any (!·.isEmpty)

/-- What is said about a failure. -/
def failureText (message : Text) (cause : Option Text) : Text :=
  "Error: " ++ message ++ (match cause with
    | some c => "\n\nCaused by:\n    " ++ c
    | none => []) ++ "\n"

/-- How the program is to be called. -/
def usage : Text :=
  "Usage: " ++ programName ++ " [OPTIONS] COMMAND\n\n"
    ++ "  render FILE [--output PATH] [--no-assets]\n"
    ++ "  build --out DIR [--scope PATH] [--no-assets] [--stats]\n"
    ++ "  list [--scope PATH]\n"
    ++ "  lint [--scope PATH] [--strict]\n"
    ++ "  assets\n\n"
    ++ "Options: --root ROOT, --format FORMAT, --assets-dir DIR, --no-color, -q, -v, --pretty\n"

/-- The version that the program shows. -/
def version : Text := programName ++ " 0.1.0\n"

/-- A run of the program. -/
def run (t : FileTree) (settings : Variables) (arguments : List Text) : Result :=
  match readArguments (settings.get? "QUIZMARK_ASSETS_DIR") arguments with
  | .error .version => ⟨0, version, [], t⟩
  | .error .help => ⟨0, usage, [], t⟩
  | .error .misuse => ⟨2, [], usage, t⟩
  | .ok request =>
    let (filter, complaints) := filterOf settings request
    let ending := perform t (colorsStats settings) request
    let messages :=
      complaints.flatMap (fun c => "warning: ".toList ++ c ++ ", ignoring it\n".toList)
        ++ (ending.records.filter filter.admits).flatMap (Logging.line (colorsLog settings))
        ++ ending.notes
    match ending.failure with
    | none => ⟨0, ending.output, messages, ending.tree⟩
    | some (message, cause) =>
      ⟨1, ending.output, messages ++ failureText message cause, ending.tree⟩

end QuizPages.CommandLine
