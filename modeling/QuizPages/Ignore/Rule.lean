import QuizPages.Ignore.Glob
import QuizPages.Text.Lines
import QuizPages.Text.Space

/-!
# Rules of ignore files

One rule a line: a glob for paths below the directory of the file. `!` in front keeps what it
matches instead of ignoring it, `/` at the end limits it to directories, and a glob without any
other `/` matches at every depth. Of the rules that match, the last counts.
-/

namespace QuizPages.Ignore

structure Rule where
  glob : List Glob.Piece
  pattern : Pattern := Glob.toPattern glob
  /-- Whether what matches is kept. -/
  keeps : Bool
  directoriesOnly : Bool
  deriving Repr

/-- A line that is no rule for want of a well-formed glob. -/
structure BadLine where
  number : Nat
  text : Text
  reason : Glob.Malformed
  deriving DecidableEq, Repr

/-- A glob that matches where the ignore file says: at every depth, unless it is anchored or has a
slash; and below a directory, but not the directory, if it ends in `/**`. -/
def placed (anchored : Bool) (glob : Text) : Text :=
  let stars : Text := ['*', '*', '/']
  let glob :=
    if anchored || glob.contains '/' || stars.isPrefixOf glob || glob == ['*', '*'] then glob
    else stars ++ glob
  if ['/', '*', '*'].isSuffixOf glob then glob ++ ['/', '*'] else glob

/-- A glob without the slash at its end, and whether it had one. A backslash in front of that
slash goes too. -/
def withoutSlash (glob : Text) : Text × Bool :=
  match glob.reverse with
  | '/' :: '\\' :: rest => (rest.reverse, true)
  | '/' :: rest => (rest.reverse, true)
  | _ => (glob, false)

/-- The line as far as it counts: without white space at the end, unless that ends in a space
behind a backslash. -/
def trimmedLine (line : Text) : Text :=
  if ['\\', ' '].isSuffixOf line then line else Text.trimEnd line

/-- The rule of a line; `none` for an empty line or a comment. -/
def Rule.ofLine? (line : Text) : Option (Except Glob.Malformed Rule) :=
  let line := trimmedLine line
  if line.isEmpty || line.head? == some '#' then none
  else
    let (keeps, anchored, glob) :=
      match line with
      | '\\' :: '!' :: rest => (false, false, '!' :: rest)
      | '\\' :: '#' :: rest => (false, false, '#' :: rest)
      | '!' :: '/' :: rest => (true, true, rest)
      | '!' :: rest => (true, false, rest)
      | '/' :: rest => (false, true, rest)
      | rest => (false, false, rest)
    let (glob, directoriesOnly) := withoutSlash glob
    some ((Glob.read (placed anchored glob)).map fun glob => { glob, keeps, directoriesOnly })

/-- The lines of an ignore file up to the first that is not UTF-8, and whether there is such a
line. Byte order marks at the start do not count. -/
def readableLines (content : Octets) : List Text × Bool :=
  let read := (Utf8.pieces content).takeWhile Option.isSome
  let text := read.filterMap id
  let (text, cut) :=
    if Utf8.isValid content then (text, false) else (Text.throughLastFeed text, true)
  (Text.lines (text.dropWhile (· == '\uFEFF')), cut)

/-- The rules that the lines of an ignore file spell. -/
def spelledRules (content : Octets) : List Rule :=
  (readableLines content).1.filterMap fun line => (Rule.ofLine? line).bind Except.toOption

/-- The rules of an ignore file. A single glob that nests too deep takes them all away. -/
def rulesOf (content : Octets) : List Rule :=
  let rules := spelledRules content
  if rules.any fun r => Glob.isTooDeep r.glob then [] else rules

/-- The number of the first glob that nests too deep, among those that are searched for with all
the others at once. -/
def tooDeep? (content : Octets) : Option Nat :=
  let searched := ((spelledRules content).map (·.glob)).filter fun ps =>
    !Glob.isFixed ps && (Glob.isTooDeep ps || !Glob.hasExtension ps)
  searched.findIdx? Glob.isTooDeep

/-- The lines of an ignore file that have no well-formed glob. -/
def badLinesOf (content : Octets) : List BadLine :=
  (readableLines content).1.zipIdx.filterMap fun (line, i) =>
    match Rule.ofLine? line with
    | some (.error e) => some ⟨i + 1, trimmedLine line, e⟩
    | _ => none

/-- Whether a rule speaks about a path, given by its names below the directory of the file. -/
def Rule.concerns (r : Rule) (names : List Text) (isDirectory : Bool) : Bool :=
  (isDirectory || !r.directoriesOnly) && r.pattern.accepts (Text.join ['/'] names).octets

/-- What rules say about a path: `true` to keep it, `false` to ignore it. -/
def verdict? (rules : List Rule) (names : List Text) (isDirectory : Bool) : Option Bool :=
  (rules.reverse.find? fun r => r.concerns names isDirectory).map (·.keeps)

end QuizPages.Ignore
