import QuizPages.Path

/-!
# Arguments

Options that hold for every command may stand before the command or after it; what stands after
it counts. An option is given once on each side. After `--` there are no options.
-/

namespace QuizPages.CommandLine

/-- What the program is asked to do. -/
inductive Command where
  | render (file : Path) (output : Option Path) (withAssets : Bool)
  | build (scope : Option Path) (out : Path) (withAssets : Bool) (showStats : Bool)
  | list (scope : Option Path)
  | lint (scope : Option Path) (strict : Bool)
  | assets
  deriving DecidableEq, Repr

/-- A command with the options that hold for every command. -/
structure Request where
  root : Path := ⟨['.']⟩
  format : Text := "jsonl"
  assetsDir : Option Path := none
  noColor : Bool := false
  quiet : Bool := false
  verbose : Bool := false
  pretty : Bool := false
  command : Command
  deriving DecidableEq, Repr

/-- Why there is no request. -/
inductive NoRequest where
  /-- The arguments make no sense. -/
  | misuse
  | version
  | help
  deriving DecidableEq, Repr

/-! ## Options -/

/-- What an option takes. -/
inductive Takes where
  | nothing
  | text
  /-- A path is not empty. -/
  | path
  deriving DecidableEq, Repr

structure OptionForm where
  name : Text
  short : Option Char := none
  takes : Takes := .nothing
  deriving DecidableEq, Repr

/-- The options that every command knows. -/
def sharedForms : List OptionForm :=
  [{ name := "root", takes := .path }, { name := "format", takes := .text },
    { name := "assets-dir", takes := .path }, { name := "no-color" },
    { name := "quiet", short := some 'q' }, { name := "verbose", short := some 'v' },
    { name := "pretty" }, { name := "help", short := some 'h' }]

/-- The options in front of the command. -/
def frontForms : List OptionForm := { name := "version", short := some 'V' } :: sharedForms

/-- The commands, each with the options of its own and how many operands it takes. -/
def commandForms : List (Text × List OptionForm × Nat) :=
  [("render",
      [{ name := "output", short := some 'o', takes := .path }, { name := "no-assets" }], 1),
    ("build",
      [{ name := "scope", takes := .path }, { name := "out", takes := .path },
        { name := "no-assets" }, { name := "stats" }], 0),
    ("list", [{ name := "scope", takes := .path }], 0),
    ("lint", [{ name := "scope", takes := .path }, { name := "strict" }], 0),
    ("assets", [], 0),
    ("help", [], 1)]

/-! ## Reading -/

/-- What has been read on one side of the command. -/
structure Found where
  /-- The options by name; those that take nothing have an empty text. -/
  options : List (Text × Text) := []
  operands : List Text := []
  /-- An option that waits for its value. -/
  pending : Option OptionForm := none
  /-- Whether options have ended. -/
  ended : Bool := false
  deriving DecidableEq, Repr

namespace Found

def has (f : Found) (name : Text) : Bool := (f.options.lookup name).isSome

/-- Notes an option, which must not be there yet. -/
def note (f : Found) (form : OptionForm) (value : Text) : Except NoRequest Found :=
  if form.name == "help".toList then .error .help
  else if form.name == "version".toList then .error .version
  else if f.has form.name || (form.takes == .path && value.isEmpty) then .error .misuse
  else .ok { f with options := (form.name, value) :: f.options, pending := none }

/-- No option waits for a value. -/
def settled (f : Found) : Except NoRequest Found :=
  if f.pending.isSome then .error .misuse else .ok f

/-- An option by its long name, with `=` and a value or without. -/
def readLong (forms : List OptionForm) (f : Found) (t : Text) : Except NoRequest Found := do
  let f ← f.settled
  let name := t.takeWhile (· != '=')
  match forms.find? (·.name == name), t.dropWhile (· != '=') with
  | none, _ => throw .misuse
  | some form, [] => if form.takes == .nothing then f.note form [] else
      if f.has form.name then throw .misuse else return { f with pending := some form }
  | some form, _ :: value => if form.takes == .nothing then throw .misuse else f.note form value

/-- Options by their letters; the rest of the letters is the value of an option that takes
one. -/
def readShort (forms : List OptionForm) (f : Found) : Text → Except NoRequest Found
  | [] => .ok f
  | c :: rest => do
    let f ← f.settled
    match forms.find? (·.short == some c) with
    | none => throw .misuse
    | some form =>
      if form.takes == .nothing then readShort forms (← f.note form []) rest
      else
        match rest with
        | [] => if f.has form.name then throw .misuse else return { f with pending := some form }
        | '=' :: value => f.note form value
        | value => f.note form value

/-- An argument that is no option. -/
def readOperand (most : Nat) (f : Found) (t : Text) : Except NoRequest Found := do
  let f ← f.settled
  if f.operands.length < most && !t.isEmpty then return { f with operands := f.operands ++ [t] }
  else throw .misuse

/-- One argument. -/
def step (forms : List OptionForm) (most : Nat) (f : Found) (t : Text) : Except NoRequest Found :=
  if f.ended then f.readOperand most t
  else if t == "--".toList then .ok { f with ended := true }
  else
    match t, f.pending with
    | '-' :: '-' :: long, _ => f.readLong forms long
    | '-' :: c :: short, _ => f.readShort forms (c :: short)
    | value, some form => f.note form value
    | operand, none => f.readOperand most operand

end Found

/-- What stands before the command, the command, and what stands after it. -/
def readFront : Found → List Text → Except NoRequest (Found × Text × List Text)
  | _, [] => .error .misuse
  | f, t :: ts => do
    if f.pending.isNone && !f.ended && (commandForms.lookup t).isSome then return (f, t, ts)
    else readFront (← f.step frontForms 0 t) ts

/-- What stands after the command. -/
def readBack (forms : List OptionForm) (most : Nat) (ts : List Text) : Except NoRequest Found := do
  let f ← ts.foldlM (Found.step forms most) {}
  f.settled

/-- The value of an option: that after the command, or else that before it. -/
def value? (front back : Found) (name : Text) : Option Text :=
  (back.options.lookup name).or (front.options.lookup name)

/-- The command of a name. -/
def command? (name : Text) (back : Found) : Option Command :=
  let path? (name : Text) : Option Path := (back.options.lookup name).map Path.mk
  let withAssets := !back.has "no-assets"
  match String.ofList name with
  | "render" => back.operands.head?.map fun file => .render ⟨file⟩ (path? "output") withAssets
  | "build" =>
    (path? "out").map fun out => .build (path? "scope") out withAssets (back.has "stats")
  | "list" => some (.list (path? "scope"))
  | "lint" => some (.lint (path? "scope") (back.has "strict"))
  | "assets" => some .assets
  | _ => none

/-- One side must not ask for both less and more to be logged. -/
def contradicts (f : Found) : Bool := f.has "quiet" && f.has "verbose"

/-- The request of a list of arguments. `assetsDir` is the directory of assets that holds where
no option names one; it must not be empty. -/
def readArguments (assetsDir : Option Text) (ts : List Text) : Except NoRequest Request := do
  let (front, name, rest) ← readFront {} ts
  match commandForms.lookup name with
  | none => throw .misuse
  | some (forms, most) =>
    let back ← readBack (sharedForms ++ forms) most rest
    if name == "help".toList then
      if back.operands.all fun t => (commandForms.lookup t).isSome then throw .help
      else throw .misuse
    let unnamed := !(front.has "assets-dir" && back.has "assets-dir")
    if contradicts front || contradicts back || (unnamed && assetsDir == some []) then
      throw .misuse
    match command? name back with
    | none => throw .misuse
    | some command =>
      let flag (name : Text) := front.has name || back.has name
      return {
        root := ⟨(value? front back "root").getD ['.']⟩
        format := (value? front back "format").getD "jsonl"
        assetsDir := ((value? front back "assets-dir").or assetsDir).map Path.mk
        noColor := flag "no-color"
        quiet := flag "quiet"
        verbose := flag "verbose"
        pretty := flag "pretty"
        command }

end QuizPages.CommandLine
