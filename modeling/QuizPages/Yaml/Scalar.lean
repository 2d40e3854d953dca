import QuizPages.Yaml.Folding

/-!
# The text of scalars

Plain, quoted and block scalars, each read from a cursor to the place just after it. Reading
fails on a tab in front of indented text, an unknown escape, or a missing end.
-/

namespace QuizPages.Yaml

/-! ## Plain scalars -/

/-- The indicators that end a plain scalar inside brackets. -/
def isFlowIndicator (c : Char) : Bool :=
  c == ',' || c == '[' || c == ']' || c == '{' || c == '}'

/-- The characters of a plain scalar up to a blank, a break or an indicator that ends it.
Inside brackets a colon must not stand right before an indicator. -/
def plainRun (flow : Bool) : Text → Option Text
  | [] => some []
  | c :: cs =>
    if isBlank c || isBreak c then some []
    else if flow && c == ':' && (cs.head?.any fun d => isFlowIndicator d || d == '?') then none
    else if (c == ':' && endsWord cs) || (flow && isFlowIndicator c) then some []
    else (plainRun flow cs).map (c :: ·)

/-- The blanks and breaks between two runs of a plain scalar. On a new line no tab may stand
before column `indent`. -/
def plainBlanks (indent : Nat) (f : Folding) (m : Mark) : Text → Option (Folding × Cursor)
  | [] => some (f, ⟨m, []⟩)
  | '\r' :: '\n' :: cs => plainBlanks indent (f.pushBreak ['\n']) (m.newline ['\r', '\n']) cs
  | c :: cs =>
    if isBlank c then
      if f.broken && c == '\t' && m.column < indent then none
      else plainBlanks indent (f.pushBlank c) (m.move [c]) cs
    else if isBreak c then plainBlanks indent (f.pushBreak (breakText c)) (m.newline [c]) cs
    else some (f, ⟨m, c :: cs⟩)

/-- A plain scalar from a place where a run may start. The fuel is the length of the text. -/
def plainFrom (flow : Bool) (indent : Nat) : Nat → Folding → Cursor → Option (Folding × Cursor)
  | 0, f, c => some (f, c)
  | fuel + 1, f, c =>
    if c.mark.column = 0 && isDocumentMark c.rest then some (f, c)
    else if c.rest.head? = some '#' then some (f, c)
    else do
      let run ← plainRun flow c.rest
      let f := run.foldl Folding.push f
      let c := c.move run.length
      if (c.rest.head?.any fun d => isBlank d || isBreak d) then
        let (f, c) ← plainBlanks indent f c.mark c.rest
        if !flow && c.mark.column < indent then some (f, c)
        else plainFrom flow indent fuel f c
      else some (f, c)

/-- A plain scalar, whether a line break follows it, and the place after both. -/
def plainScalar? (flow : Bool) (indent : Nat) (c : Cursor) : Option (Text × Bool × Cursor) :=
  (plainFrom flow indent (c.rest.length + 1) {} c).map fun (f, c) => (f.result, f.broken, c)

/-! ## Quoted scalars -/

/-- The character that a letter names after a backslash. -/
def namedEscape? (c : Char) : Option Char :=
  match c with
  | '0' => some '\x00'
  | 'a' => some '\x07'
  | 'b' => some '\x08'
  | 't' => some '\t'
  | '\t' => some '\t'
  | 'n' => some '\n'
  | 'v' => some '\x0b'
  | 'f' => some '\x0c'
  | 'r' => some '\r'
  | 'e' => some '\x1b'
  | ' ' => some ' '
  | '"' => some '"'
  | '/' => some '/'
  | '\\' => some '\\'
  | 'N' => some '\u0085'
  | '_' => some '\u00a0'
  | 'L' => some '\u2028'
  | 'P' => some '\u2029'
  | _ => none

/-- How many hexadecimal digits follow a letter after a backslash. -/
def escapeWidth? (c : Char) : Option Nat :=
  match c with
  | 'x' => some 2
  | 'u' => some 4
  | 'U' => some 8
  | _ => none

/-- The character with a code point given by exactly `width` hexadecimal digits. -/
def codedChar? (width : Nat) (t : Text) : Option Char := do
  let digits := t.take width
  if digits.length = width then Text.charOf? (← Text.ofHex? digits) else none

/-- A quoted scalar after its opening mark, `quote` being the mark. In double quotes a
backslash escapes a character or a line break; in single quotes a doubled mark stands for
one. No line of it may start with `---` or `...`. -/
def quotedFrom (quote : Char) (f : Folding) (m : Mark) (t : Text) : Option (Text × Cursor) :=
  match t with
  | [] => none
  | c :: cs =>
    if isBlank c then quotedFrom quote (f.pushBlank c) (m.move [c]) cs
    else if isBreak c then
      match c, cs with
      | '\r', '\n' :: cs => quotedFrom quote (f.pushBreak ['\n']) (m.newline ['\r', '\n']) cs
      | _, cs => quotedFrom quote (f.pushBreak (breakText c)) (m.newline [c]) cs
    else if m.column = 0 && isDocumentMark (c :: cs) then none
    else if c == quote then
      match cs with
      | d :: cs' =>
        if quote == '\'' && d == '\'' then quotedFrom quote (f.push c) (m.move [c, d]) cs'
        else some (f.flush.result, ⟨m.move [c], cs⟩)
      | [] => some (f.flush.result, ⟨m.move [c], []⟩)
    else if quote == '"' && c == '\\' then
      match cs with
      | [] => none
      | '\r' :: '\n' :: cs => quotedFrom quote f.pushEscapedBreak (m.newline [c, '\r', '\n']) cs
      | e :: cs =>
        if isBreak e then quotedFrom quote f.pushEscapedBreak (m.newline [c, e]) cs
        else
          match escapeWidth? e with
          | some width =>
            match codedChar? width cs with
            | some d =>
              let m := m.move (c :: e :: cs.take width)
              quotedFrom quote (f.push d) m (cs.drop width)
            | none => none
          | none =>
            match namedEscape? e with
            | some d => quotedFrom quote (f.push d) (m.move [c, e]) cs
            | none => none
    else quotedFrom quote (f.push c) (m.move [c]) cs
termination_by t.length
decreasing_by all_goals (simp; try omega)

/-- A quoted scalar, from its opening mark on, and the place after its closing mark. -/
def quotedScalar? (c : Cursor) : Option (Text × Cursor) :=
  match c.rest with
  | quote :: rest => quotedFrom quote {} (c.mark.move [quote]) rest
  | [] => none

/-! ## Block scalars -/

/-- What happens to the line breaks at the end of a block scalar. -/
inductive Chomping where
  /-- All go. -/
  | strip
  /-- The first stays. -/
  | clip
  /-- All stay. -/
  | keep
  deriving DecidableEq, Repr

/-- The indicators after `|` or `>`: chomping and indentation, in either order. An indentation
of zero is refused. -/
def blockHeader? (c : Cursor) : Option (Chomping × Option Nat × Cursor) :=
  let chomping? (t : Text) : Option Chomping :=
    match t.head? with
    | some '+' => some .keep
    | some '-' => some .strip
    | _ => none
  let digit? (t : Text) : Option Nat :=
    match t.head? with
    | some d => if d.isDigit then some (d.toNat - 48) else none
    | none => none
  let checked (increment : Option Nat) (chomping : Chomping) (c : Cursor) :=
    if increment = some 0 then none else some (chomping, increment, c)
  match chomping? c.rest with
  | some chomping =>
    let c := c.move 1
    match digit? c.rest with
    | some d => checked (some d) chomping (c.move 1)
    | none => checked none chomping c
  | none =>
    match digit? c.rest with
    | some d =>
      let c := c.move 1
      match chomping? c.rest with
      | some chomping => checked (some d) chomping (c.move 1)
      | none => checked (some d) .clip c
    | none => checked none .clip c

/-- The empty lines in front of a line of a block scalar: their breaks, the deepest column
reached, and the place at the indentation of the line. While `indent` is not known every space
counts as indentation. -/
def blockBreaks (indent : Option Nat) (deepest : Nat) (breaks : Text) (m : Mark) :
    Text → Option (Nat × Text × Cursor)
  | [] => some (max deepest m.column, breaks, ⟨m, []⟩)
  | '\r' :: '\n' :: cs =>
    blockBreaks indent (max deepest m.column) (breaks ++ ['\n']) (m.newline ['\r', '\n']) cs
  | c :: cs =>
    let before := indent.all (m.column < ·)
    if before && c == ' ' then blockBreaks indent deepest breaks (m.move [c]) cs
    else if before && c == '\t' then none
    else if isBreak c then
      blockBreaks indent (max deepest m.column) (breaks ++ breakText c) (m.newline [c]) cs
    else some (max deepest m.column, breaks, ⟨m, c :: cs⟩)

/-- The lines of a block scalar from one line on. `pending` is the break before the line,
`breaks` the empty lines after that break, `wasBlank` whether the line before starts with a
blank. Folding joins two lines unless one of them starts with a blank. -/
def blockLines (literal : Bool) (indent : Nat) :
    Nat → (text pending breaks : Text) → (wasBlank : Bool) → Cursor →
      Option (Text × Text × Text × Cursor)
  | 0, text, pending, breaks, _, c => some (text, pending, breaks, c)
  | fuel + 1, text, pending, breaks, wasBlank, c =>
    if c.mark.column = indent && !c.rest.isEmpty then
      let blank := c.rest.head?.any isBlank
      let joint : Text :=
        if !literal && pending = ['\n'] && !wasBlank && !blank then
          if breaks.isEmpty then [' '] else []
        else pending
      let (line, c) := c.span (!isBreak ·)
      let (pending, c) := c.lineBreak?.getD ([], c)
      do
        let (_, later, c) ← blockBreaks (some indent) 0 [] c.mark c.rest
        blockLines literal indent fuel (text ++ joint ++ breaks ++ line) pending later blank c
    else some (text, pending, breaks, c)

/-- A block scalar, from its `|` or `>` on. `parent` is the column of the block around it, or
`-1`. Without an indentation indicator the first line that is not empty decides. -/
def blockScalar? (parent : Int) (c : Cursor) : Option (Text × Cursor) := do
  let literal := c.rest.head? = some '|'
  let (chomping, increment, c) ← blockHeader? (c.move 1)
  let c ← c.finishLine?
  let given := increment.map fun n => (max parent 0).toNat + n
  let (deepest, breaks, c) ← blockBreaks given 0 [] c.mark c.rest
  let indent := given.getD (max deepest (max (parent + 1) 1).toNat)
  let fuel := c.rest.length + 1
  let (text, pending, breaks, c) ← blockLines literal indent fuel [] [] breaks false c
  match chomping with
  | .strip => some (text, c)
  | .clip => some (text ++ pending, c)
  | .keep => some (text ++ pending ++ breaks, c)

end QuizPages.Yaml
