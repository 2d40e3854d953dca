import QuizPages.Yaml.Scalar

/-!
# Tokens

A YAML text as a list of tokens. Indentation shows as opening and closing tokens of block
collections. A key in front of a colon is only known as a key once the colon is seen, so each
level of brackets keeps one place where a key may have started; the key token is put in there
afterwards. Such a key stays on one line and within 1024 octets.
-/

namespace QuizPages.Yaml

/-- A tag as written: the handle before the last `!`, and the octets of the rest. -/
structure RawTag where
  handle : Text
  suffix : List UInt8
  deriving DecidableEq, Repr

inductive Token where
  | version (major minor : Nat)
  | tagHandle (handle : Text) (lead : List UInt8)
  | documentStart
  | documentEnd
  | blockSequenceStart
  | blockMappingStart
  | blockEnd
  | flowSequenceStart
  | flowSequenceEnd
  | flowMappingStart
  | flowMappingEnd
  | blockEntry
  | flowEntry
  | key
  | value
  | alias (name : Text)
  | anchor (name : Text)
  | tag (t : RawTag)
  | scalar (plain : Bool) (text : Text)
  deriving DecidableEq, Repr

/-- A place where a key may have started. -/
structure KeyPlace where
  /-- The number of tokens before it. -/
  position : Nat
  mark : Mark
  /-- Whether only a key can stand there: it is at the indentation of its block. -/
  required : Bool

/-- What has been read, and what is needed to go on. -/
structure Scanner where
  cursor : Cursor
  tokens : Array Token := #[]
  /-- The column of the innermost block collection, `-1` outside any. -/
  indent : Int := -1
  /-- The columns of the block collections around it. -/
  outer : List Int := []
  /-- Whether a key may start at the cursor. -/
  keyAllowed : Bool := true
  /-- The place of a possible key, for each level of brackets, the innermost first. -/
  keys : List (Option KeyPlace) := [none]

namespace Scanner

/-- Whether the cursor is inside brackets. -/
def inFlow (s : Scanner) : Bool := 1 < s.keys.length

/-- The possible key of the innermost level. -/
def currentKey (s : Scanner) : Option KeyPlace := s.keys.head?.join

def setKey (s : Scanner) (k : Option KeyPlace) : Scanner := { s with keys := k :: s.keys.tail }

def push (s : Scanner) (t : Token) : Scanner := { s with tokens := s.tokens.push t }

def move (s : Scanner) (n : Nat) : Scanner := { s with cursor := s.cursor.move n }

def allowKey (s : Scanner) (allowed : Bool) : Scanner := { s with keyAllowed := allowed }

def column (s : Scanner) : Nat := s.cursor.mark.column

/-- Gives up the possible key of the innermost level; it must not be required. -/
def dropKey (s : Scanner) : Option Scanner :=
  match s.currentKey with
  | some k => if k.required then none else some (s.setKey none)
  | none => some s

/-- Notes that a key may start at the cursor. -/
def noteKey (s : Scanner) : Option Scanner :=
  if s.keyAllowed then do
    let required := !s.inFlow && s.indent == s.column
    let s ← s.dropKey
    some (s.setKey (some ⟨s.tokens.size, s.cursor.mark, required⟩))
  else some s

/-- Gives up the possible keys that the cursor has left behind. -/
def expireKeys (s : Scanner) : Option Scanner := do
  let keys ← s.keys.mapM fun k =>
    match k with
    | some k =>
      if k.mark.line < s.cursor.mark.line || k.mark.index + 1024 < s.cursor.mark.index then
        if k.required then none else some none
      else some (some k)
    | none => some none
  some { s with keys }

/-- Opens a block collection at a column if it lies deeper than the innermost one; its token
goes in front of the token at `position`. -/
def openBlock (s : Scanner) (column position : Nat) (t : Token) : Scanner :=
  if !s.inFlow && s.indent < column then
    { s with
      outer := s.indent :: s.outer
      indent := column
      tokens := s.tokens.insertIdxIfInBounds position t }
  else s

/-- Closes the block collections that lie deeper than a column. -/
def closeBlocks (column : Int) (s : Scanner) : Scanner :=
  if s.inFlow then s else go s.outer s
where
  go : List Int → Scanner → Scanner
    | [], s => s
    | o :: outer, s =>
      if column < s.indent then
        go outer { s with indent := o, outer, tokens := s.tokens.push .blockEnd }
      else s

/-- After the blanks, comments and line breaks in front of the next token. The fuel is the
length of the text. -/
def skipToToken : Nat → Scanner → Scanner
  | 0, s => s
  | fuel + 1, s =>
    let c := s.cursor
    let c := if c.mark.column = 0 && c.rest.head? = some '\ufeff' then c.move 1 else c
    let tabs := s.inFlow || !s.keyAllowed
    let c := c.skip fun d => d == ' ' || (tabs && d == '\t')
    let c := if c.rest.head? = some '#' then c.skipLine else c
    match c.lineBreak? with
    | some (_, c) =>
      skipToToken fuel { s with cursor := c, keyAllowed := s.keyAllowed || !s.inFlow }
    | none => { s with cursor := c }

/-! ## Names, tags and directives -/

/-- The name after `*` or `&`, which must end at a blank or at one of a few indicators. -/
def name? (c : Cursor) : Option (Text × Cursor) :=
  let (name, c) := (c.move 1).span isNameChar
  let ends := endsWord c.rest ||
    c.rest.head?.any fun d => ['?', ':', ',', ']', '}', '%', '@', '`'].contains d
  if name.isEmpty || !ends then none else some (name, c)

/-- The characters of a tag; `verbatim` adds the flow indicators that may stand between `<`
and `>`. -/
def isTagChar (verbatim : Bool) (c : Char) : Bool :=
  isNameChar c
    || ";/?:@&=+$.%!~*'()".toList.contains c
    || (verbatim && [',', '[', ']'].contains c)

/-- One octet written as `%` and two hexadecimal digits. -/
def escapedOctet? : Text → Option (Nat × Text)
  | '%' :: a :: b :: rest => do
    let a ← Text.hexDigit? a
    let b ← Text.hexDigit? b
    some (16 * a + b, rest)
  | _ => none

/-- The octets of an escaped character after its first one. -/
def escapedTail : Nat → Text → Option (List UInt8 × Text)
  | 0, t => some ([], t)
  | n + 1, t => do
    let (o, t) ← escapedOctet? t
    if o / 64 = 2 then
      let (os, t) ← escapedTail n t
      some (UInt8.ofNat o :: os, t)
    else none

/-- An escaped character; its first octet says how many follow. -/
def escapedChar? (t : Text) : Option (List UInt8 × Text) := do
  let (o, t) ← escapedOctet? t
  let following ←
    if o < 0x80 then some 0
    else if o / 32 = 6 then some 1
    else if o / 16 = 14 then some 2
    else if o / 8 = 30 then some 3
    else none
  let (os, t) ← escapedTail following t
  some (UInt8.ofNat o :: os, t)

/-- The octets of a tag up to the first character that belongs to no tag. The fuel is the
length of the text. -/
def tagOctets (verbatim : Bool) : Nat → Text → Option (List UInt8 × Text)
  | 0, t => some ([], t)
  | fuel + 1, t =>
    match t with
    | [] => some ([], [])
    | c :: cs =>
      if c == '%' then do
        let (os, rest) ← escapedChar? (c :: cs)
        let (later, rest) ← tagOctets verbatim fuel rest
        some (os ++ later, rest)
      else if isTagChar verbatim c then do
        let (later, rest) ← tagOctets verbatim fuel cs
        some (UInt8.ofNat c.toNat :: later, rest)
      else some ([], t)

/-- The octets of a tag from a cursor on. -/
def tagRest? (verbatim : Bool) (c : Cursor) : Option (List UInt8 × Cursor) := do
  let (os, rest) ← tagOctets verbatim c.rest.length c.rest
  some (os, c.move (c.rest.length - rest.length))

/-- A handle: `!`, name characters, and a second `!` if there is one. -/
def handle? (c : Cursor) : Option (Text × Cursor) :=
  match c.rest with
  | '!' :: _ =>
    let (name, c) := (c.move 1).span isNameChar
    match c.rest with
    | '!' :: _ => some ('!' :: name ++ ['!'], c.move 1)
    | _ => some ('!' :: name, c)
  | _ => none

/-- Octets up to the first zero, where a tag ends. -/
def untilZero (os : List UInt8) : List UInt8 := os.takeWhile (· != 0)

/-- The ASCII characters of a text as octets. -/
def asciiOctets (t : Text) : List UInt8 := t.map fun c => UInt8.ofNat c.toNat

/-- A tag: `!<…>`, a handle with the rest of the tag, or `!` with the rest. A single `!` has no
handle. -/
def tag? (flow : Bool) (c : Cursor) : Option (RawTag × Cursor) := do
  let (t, c) ←
    match c.rest with
    | '!' :: '<' :: _ => do
      let (os, c) ← tagRest? true (c.move 2)
      if os.isEmpty || c.rest.head? != some '>' then none
      else some (RawTag.mk [] (untilZero os), c.move 1)
    | _ => do
      let (handle, c) ← handle? c
      let (os, c) ← tagRest? false c
      if 1 < handle.length && handle.getLast? = some '!' then
        if os.isEmpty then none else some (RawTag.mk handle (untilZero os), c)
      else
        let suffix := untilZero (asciiOctets handle.tail ++ os)
        if suffix.isEmpty then some (RawTag.mk [] (asciiOctets ['!']), c)
        else some (RawTag.mk ['!'] suffix, c)
  if endsWord c.rest || (flow && c.rest.head? = some ',') then some (t, c) else none

/-- A number of at most nine digits. -/
def versionNumber? (c : Cursor) : Option (Nat × Cursor) :=
  let (ds, c) := c.span Char.isDigit
  if ds.isEmpty || 9 < ds.length then none
  else some (ds.foldl (fun n d => 10 * n + (d.toNat - 48)) 0, c)

/-- A directive line: `%YAML` with a version, or `%TAG` with a handle and what it stands for. -/
def directive? (c : Cursor) : Option (Token × Cursor) := do
  let (name, c) := (c.move 1).span isNameChar
  if !endsWord c.rest then none
  else
    let c := c.skip isBlank
    let (t, c) ←
      if name = ['Y', 'A', 'M', 'L'] then do
        let (major, c) ← versionNumber? c
        if c.rest.head? != some '.' then none
        else
          let (minor, c) ← versionNumber? (c.move 1)
          some (Token.version major minor, c)
      else if name = ['T', 'A', 'G'] then do
        let (handle, c) ← handle? c
        if !(handle = ['!'] || (1 < handle.length && handle.getLast? = some '!')) then none
        else if !(c.rest.head?.any isBlank) then none
        else
          let (os, c) ← tagRest? true (c.skip isBlank)
          if os.isEmpty || !endsWord c.rest then none
          else some (Token.tagHandle handle (untilZero os), c)
      else none
    let c ← c.finishLine?
    some (t, c)

/-! ## One token -/

/-- A token of `n` characters in front of which no key can be pending. -/
def simpleToken (s : Scanner) (t : Token) (n : Nat) (keyAllowed : Bool) : Option Scanner := do
  let s ← s.dropKey
  some ((s.push t).move n |>.allowKey keyAllowed)

/-- The mark `---` or `...` between documents. -/
def documentMark (s : Scanner) (t : Token) : Option Scanner :=
  (s.closeBlocks (-1)).simpleToken t 3 false

def openFlow (s : Scanner) (t : Token) : Option Scanner := do
  let s ← s.noteKey
  some (({ s with keys := none :: s.keys }.push t).move 1 |>.allowKey true)

def closeFlow (s : Scanner) (t : Token) : Option Scanner := do
  let s ← s.dropKey
  let keys := match s.keys with
    | _ :: k :: rest => k :: rest
    | keys => keys
  some (({ s with keys }.push t).move 1 |>.allowKey false)

/-- The mark `- ` of an item. -/
def blockEntry (s : Scanner) : Option Scanner :=
  if !s.inFlow && !s.keyAllowed then none
  else (s.openBlock s.column s.tokens.size .blockSequenceStart).simpleToken .blockEntry 1 true

/-- The mark `? ` of a key. -/
def explicitKey (s : Scanner) : Option Scanner :=
  if !s.inFlow && !s.keyAllowed then none
  else (s.openBlock s.column s.tokens.size .blockMappingStart).simpleToken .key 1 (!s.inFlow)

/-- The mark `: ` of a value. -/
def mappingValue (s : Scanner) : Option Scanner :=
  match s.currentKey with
  | some k =>
    let s := { s with tokens := s.tokens.insertIdxIfInBounds k.position .key }
    let s := s.openBlock k.mark.column k.position .blockMappingStart
    some (((s.setKey none).push .value).move 1 |>.allowKey false)
  | none =>
    if !s.inFlow && !s.keyAllowed then none
    else
      let s := s.openBlock s.column s.tokens.size .blockMappingStart
      some ((s.push .value).move 1 |>.allowKey (!s.inFlow))

/-- A token after which no key can start on the line, read by a function on cursors. -/
def inlineToken (s : Scanner) (read : Cursor → Option (Token × Cursor)) : Option Scanner := do
  let s ← s.noteKey
  let (t, c) ← read s.cursor
  some { s.push t with cursor := c, keyAllowed := false }

/-- A scalar that starts with `|` or `>`, with its lines. -/
def blockScalar (s : Scanner) : Option Scanner := do
  let s ← s.dropKey
  let (text, c) ← blockScalar? s.indent s.cursor
  some { s.push (.scalar false text) with cursor := c, keyAllowed := true }

def plainScalar (s : Scanner) : Option Scanner := do
  let s ← s.noteKey
  let (text, broken, c) ← plainScalar? s.inFlow (s.indent + 1).toNat s.cursor
  some { s.push (.scalar true text) with cursor := c, keyAllowed := broken }

/-- The characters that cannot start a plain scalar. -/
def isIndicator (c : Char) : Bool :=
  ['-', '?', ':', ',', '[', ']', '{', '}', '#', '&', '*', '!', '|', '>', '\'', '"', '%', '@',
    '`'].contains c

/-- Whether a plain scalar can start here: `-`, `?` and `:` only in front of other characters
than blanks, the latter two only outside brackets. -/
def startsPlain (flow : Bool) : Text → Bool
  | [] => false
  | c :: cs =>
    (!(isBlank c || isBreak c) && !isIndicator c)
      || (c == '-' && !(cs.head?.any isBlank))
      || (!flow && (c == '?' || c == ':') && !endsWord cs)

/-- The token at the cursor, which is not at the end of the text. -/
def token (s : Scanner) : Option Scanner :=
  let t := s.cursor.rest
  let spaced := endsWord t.tail
  if s.column = 0 && t.head? = some '%' then do
    let s ← (s.closeBlocks (-1)).dropKey
    let (t, c) ← directive? s.cursor
    some { s.push t with cursor := c, keyAllowed := false }
  else if s.column = 0 && isDocumentMark t then
    s.documentMark (if t.head? = some '-' then .documentStart else .documentEnd)
  else
    match t.head? with
    | some '[' => s.openFlow .flowSequenceStart
    | some '{' => s.openFlow .flowMappingStart
    | some ']' => s.closeFlow .flowSequenceEnd
    | some '}' => s.closeFlow .flowMappingEnd
    | some ',' => s.simpleToken .flowEntry 1 true
    | some '*' => s.inlineToken fun c => (name? c).map fun (n, c) => (.alias n, c)
    | some '&' => s.inlineToken fun c => (name? c).map fun (n, c) => (.anchor n, c)
    | some '!' => s.inlineToken fun c => (tag? s.inFlow c).map fun (t, c) => (.tag t, c)
    | some '\'' => s.inlineToken fun c => (quotedScalar? c).map fun (t, c) => (.scalar false t, c)
    | some '"' => s.inlineToken fun c => (quotedScalar? c).map fun (t, c) => (.scalar false t, c)
    | some d =>
      if d == '-' && spaced then s.blockEntry
      else if d == '?' && (s.inFlow || spaced) then s.explicitKey
      else if d == ':' && (s.inFlow || spaced) then s.mappingValue
      else if (d == '|' || d == '>') && !s.inFlow then s.blockScalar
      else if startsPlain s.inFlow t then s.plainScalar
      else none
    | none => none

/-- Token after token to the end of the text, where all open blocks close. The fuel is the
length of the text. -/
def run : Nat → Scanner → Option (Array Token)
  | 0, _ => none
  | fuel + 1, s => do
    let s := skipToToken (s.cursor.rest.length + 1) s
    let s ← s.expireKeys
    let s := s.closeBlocks s.column
    if s.cursor.rest.isEmpty then
      let s ← (s.closeBlocks (-1)).dropKey
      some s.tokens
    else
      let s ← s.token
      run fuel s

end Scanner

/-- The tokens of a text, all of whose characters are allowed. -/
def Token.ofText? (t : Text) : Option (List Token) :=
  if t.all isAllowed then
    (Scanner.run (t.length + 1) { cursor := Cursor.ofText t }).map Array.toList
  else none

end QuizPages.Yaml
