import QuizPages.Expression.Tree

/-!
# Reading expressions

A text is read from left to right, and the first thing that makes no sense ends the reading. Within
a group that ignores blanks, comments from `#` to the end of the line are skipped with them.
-/

namespace QuizPages.Expression

/-- Where the reading of an expression is. -/
structure Cursor where
  rest : Text
  /-- How many characters have been read. -/
  place : Nat := 0
  ignoresBlanks : Bool := false
  /-- The names of groups so far. -/
  names : List (Text × Span) := []

abbrev Reader := StateT Cursor (Except SyntaxError)

namespace Reader

/-! ## Characters -/

def fail (f : Fault) (s : Span) : Reader α := throw { fault := f, span := s }

def place : Reader Nat := return (← get).place

/-- The span from a place to here. -/
def since (start : Nat) : Reader Span := return ⟨start, ← place⟩

/-- The span of nothing, here. -/
def emptySpan : Reader Span := do since (← place)

/-- The span of the next character. -/
def charSpan : Reader Span := do
  let start ← place
  return ⟨start, start + 1⟩

def next? : Reader (Option Char) := return (← get).rest.head?

/-- Whether the next characters are those of a text. -/
def isNext (t : Text) : Reader Bool := return t.isPrefixOf (← get).rest

def skip (count : Nat) : Reader Unit :=
  modify fun c => { c with rest := c.rest.drop count, place := c.place + min count c.rest.length }

/-- Skips a text if it comes next. -/
def skips (t : Text) : Reader Bool := do
  let found ← isNext t
  if found then skip t.length
  return found

/-- Goes on to the next character, and tells whether there is one. -/
def bump : Reader Bool := do
  skip 1
  return (← next?).isSome

/-- How many characters are blanks and comments. -/
def blanks (inComment : Bool) : Text → Nat
  | [] => 0
  | c :: cs =>
    if inComment then blanks (c != '\n') cs + 1
    else if Text.isSpace c then blanks false cs + 1
    else if c = '#' then blanks true cs + 1
    else 0

def skipBlanks : Reader Unit := do
  let c ← get
  if c.ignoresBlanks then skip (blanks false c.rest)

/-- Goes on to the next character that counts, and tells whether there is one. -/
def advance : Reader Bool := do
  skip 1
  skipBlanks
  return (← next?).isSome

/-- Goes on to the next character that counts, which must be there. -/
def advanceOr (f : Fault) (span : Reader Span) : Reader Unit := do
  unless ← advance do fail f (← span)

/-- The character behind the next one. Where blanks do not count, the first character of a comment
is taken for it. -/
def second? : Reader (Option Char) := do
  let c ← get
  let behind := c.rest.drop 1
  if c.ignoresBlanks then
    let rest := behind.dropWhile Text.isSpace
    let rest := if rest.head? == some '#' then (rest.drop 1).dropWhile Text.isSpace else rest
    return rest.head?.or behind.head?
  else return behind.head?

/-- The characters of a kind that come next. -/
def chars (p : Char → Bool) : Reader Text := do go (← get).rest.length
where
  go : Nat → Reader Text
    | 0 => return []
    | fuel + 1 => do
      match ← next? with
      | some c => if p c then discard advance; return c :: (← go fuel) else return []
      | none => return []

/-! ## Escapes -/

/-- What a single piece of text can stand for. -/
inductive Piece where
  | literal (l : Literal)
  | dot (span : Span)
  | test (span : Span) (t : Test)
  | oneOf (c : Class)

namespace Piece

def span : Piece → Span
  | literal l => l.span
  | dot s | test s _ => s
  | oneOf c => c.span

def tree : Piece → Tree
  | literal l => .literal l
  | dot s => .dot s
  | test s t => .test s t
  | oneOf c => .oneOf c

/-- The piece as an item of a class. -/
def item : Piece → Reader Class
  | literal l => return .literal l
  | oneOf c => return c
  | p => fail .classEscape p.span

/-- The piece as the end of a range. -/
def rangeEnd : Piece → Reader Literal
  | literal l => return l
  | p => fail .classRangeEnd p.span

end Piece

/-- A hexadecimal digit, which is not skipped. -/
def hexDigit : Reader Nat := do
  match (← next?).bind Text.hexDigit? with
  | some d => return d
  | none => fail .hexDigit (← charSpan)

/-- As many hexadecimal digits as asked for, behind those with a given value. -/
def hexDigits (value : Nat) : Nat → Reader Nat
  | 0 => return value
  | left + 1 => do
    let value := 16 * value + (← hexDigit)
    let more ← advance
    if left ≠ 0 && !more then fail .escapeUnfinished (← emptySpan)
    hexDigits value left

/-- Hexadecimal digits up to a closing brace, the next one included. -/
def bracedDigits (opened : Nat) : Nat → Text → Reader Text
  | 0, digits => return digits
  | fuel + 1, digits => do
    match ← next? with
    | none => fail .escapeUnfinished (← since opened)
    | some '}' => return digits
    | some c =>
      discard hexDigit
      discard advance
      bracedDigits opened fuel (digits ++ [c])

/-- A character by its number, in as many digits as the letter in front says or in braces. -/
def numbered (start : Nat) (letter : Char) : Reader Literal := do
  advanceOr .escapeUnfinished emptySpan
  let opened ← place
  if (← next?) == some '\x7b' then
    discard advance
    let digits ← bracedDigits opened ((← get).rest.length + 1) []
    let inside := (⟨opened + 1, ← place⟩ : Span)
    discard advance
    if digits.isEmpty then fail .hexEmpty (← since opened)
    match (Text.ofHex? digits).bind Text.charOf? with
    | some c => return ⟨← since start, c, false⟩
    | none => fail .hexInvalid inside
  else
    let count := if letter = 'x' then 2 else if letter = 'u' then 4 else 8
    match Text.charOf? (← hexDigits 0 count) with
    | some c => return ⟨← since start, c, letter == 'x'⟩
    | none => fail .hexInvalid (← since opened)

/-- Up to a closing brace, blanks left out. -/
def braced : Nat → Text → Reader Text
  | 0, t => return t
  | fuel + 1, t => do
    match ← next? with
    | none => fail .escapeUnfinished (← emptySpan)
    | some '}' => return t
    | some c =>
      discard advance
      braced fuel (t ++ [c])

/-- What a name in braces asks for. -/
def query (t : Text) : PropertyQuery :=
  let parts (lead : Text) := (splitAround lead t).map fun (name, value) => (name, value)
  match parts ['!', '='], parts [':'], parts ['='] with
  | some (name, value), _, _ => .valued true name value
  | none, some (name, value), _ => .valued false name value
  | none, none, some (name, value) => .valued false name value
  | none, none, none => .named t
where
  /-- What is in front of the first occurrence of a text, and what is behind it. -/
  splitAround (lead : Text) : Text → Option (Text × Text)
    | [] => none
    | c :: cs =>
      match Text.after? lead (c :: cs) with
      | some behind => some ([], behind)
      | none => (splitAround lead cs).map fun (front, behind) => (c :: front, behind)

/-- A set of characters by a property: a letter, or a name in braces. -/
def property (start : Nat) (isNegated : Bool) : Reader Class := do
  advanceOr .escapeUnfinished emptySpan
  match ← next? with
  | some '\x7b' =>
    discard advance
    let name ← braced ((← get).rest.length + 1) []
    discard bump
    return .property (← since start) isNegated (query name)
  | some '\\' => fail .propertyInvalid (← charSpan)
  | c =>
    discard advance
    return .property (← since start) isNegated (.named c.toList)

/-- Characters that mean something of their own. -/
def isMeta (c : Char) : Bool := "\\.+*?()|[]\x7b\x7d^$#&-~".toList.contains c

/-- Characters that a backslash may be in front of, and which then stand for themselves. -/
def isEscapable (c : Char) : Bool :=
  isMeta c || (c.toNat < 0x80 && !c.isAlphanum && c != '<' && c != '>')

/-- The letter of a control character. -/
def control? : Char → Option Char
  | 'a' => some '\x07'
  | 'f' => some '\x0c'
  | 't' => some '\t'
  | 'n' => some '\n'
  | 'r' => some '\x0d'
  | 'v' => some '\x0b'
  | _ => none

/-- The letter of a test. -/
def test? : Char → Option Test
  | 'A' => some .textStart
  | 'z' => some .textStop
  | 'b' => some (.word .either)
  | 'B' => some (.word .neither)
  | '<' => some (.word .start)
  | '>' => some (.word .stop)
  | _ => none

/-- The letter of a set, and whether the set is all other characters. -/
def letterClass? : Char → Option (LetterClass × Bool)
  | 'd' => some (.digit, false)
  | 's' => some (.space, false)
  | 'w' => some (.word, false)
  | 'D' => some (.digit, true)
  | 'S' => some (.space, true)
  | 'W' => some (.word, true)
  | _ => none

/-- The name of a word edge in braces; `none` if they hold no name, and then they are left for
what comes next. -/
def wordEdge? (start : Nat) : Reader (Option WordEdge) := do
  let before ← get
  let isNameChar (c : Char) : Bool := c.isAlpha || c == '-'
  advanceOr .wordEdgeUnfinished (since start)
  if !(← next?).any isNameChar then
    set before
    return none
  let inside ← place
  let name ← chars isNameChar
  if (← next?) != some '}' then fail .wordEdgeUnclosed (← since before.place)
  let edge : Option WordEdge :=
    match String.ofList name with
    | "start" => some .start
    | "end" => some .stop
    | "start-half" => some .startHalf
    | "end-half" => some .stopHalf
    | _ => none
  if edge.isNone then fail .wordEdgeUnknown (← since inside)
  discard bump
  return edge

/-- A backslash and what belongs to it. -/
def escape : Reader Piece := do
  let start ← place
  unless ← bump do fail .escapeUnfinished (← since start)
  let c := (← next?).getD '\\'
  if c.isDigit then fail .backreference ⟨start, (← place) + 1⟩
  else if c == 'x' || c == 'u' || c == 'U' then return .literal (← numbered start c)
  else if c == 'p' || c == 'P' then return .oneOf (← property start (c == 'P'))
  discard bump
  let span ← since start
  if isEscapable c then return .literal ⟨span, c, false⟩
  match letterClass? c, control? c, test? c with
  | some (k, isNegated), _, _ => return .oneOf (.letter span isNegated k)
  | none, some d, _ => return .literal ⟨span, d, false⟩
  | none, none, some t =>
    if c == 'b' && (← isNext ['\x7b']) then
      match ← wordEdge? start with
      | some edge => return .test (← since start) (.word edge)
      | none => return .test span t
    else return .test span t
  | none, none, none => fail .escapeUnknown span

/-- A piece that is no bracket and no operator. -/
def piece : Reader Piece := do
  let span ← charSpan
  match ← next? with
  | some '\\' => escape
  | some '.' => discard bump; return .dot span
  | some '^' => discard bump; return .test span .lineStart
  | some '$' => discard bump; return .test span .lineStop
  | c => discard bump; return .literal ⟨span, c.getD '\x00', false⟩

/-! ## Classes -/

/-- The ASCII characters of a name. -/
def asciiClass? (name : Text) : Option (List (Char × Char)) :=
  match String.ofList name with
  | "alnum" => some [('0', '9'), ('A', 'Z'), ('a', 'z')]
  | "alpha" => some [('A', 'Z'), ('a', 'z')]
  | "ascii" => some [('\x00', '\x7f')]
  | "blank" => some [('\t', '\t'), (' ', ' ')]
  | "cntrl" => some [('\x00', '\x1f'), ('\x7f', '\x7f')]
  | "digit" => some [('0', '9')]
  | "graph" => some [('!', '~')]
  | "lower" => some [('a', 'z')]
  | "print" => some [(' ', '~')]
  | "punct" => some [('!', '/'), (':', '@'), ('[', '\x60'), ('\x7b', '~')]
  | "space" => some [('\t', '\x0d'), (' ', ' ')]
  | "upper" => some [('A', 'Z')]
  | "word" => some [('0', '9'), ('A', 'Z'), ('_', '_'), ('a', 'z')]
  | "xdigit" => some [('0', '9'), ('A', 'F'), ('a', 'f')]
  | _ => none

/-- A named set such as `[:alpha:]`, if one comes next. -/
def named? : Reader (Option Class) := do
  let start ← place
  match (← get).rest with
  | '[' :: ':' :: rest =>
    let isNegated := rest.head? == some '^'
    let body := if isNegated then rest.drop 1 else rest
    let name := body.takeWhile (· != ':')
    match asciiClass? name, (body.drop name.length).take 2 with
    | some ranges, [':', ']'] =>
      skip (name.length + if isNegated then 5 else 4)
      return some (.ascii (← since start) isNegated ranges)
    | _, _ => return none
  | _ => return none

/-- One character or set of a class, as a piece. -/
def classPiece : Reader Piece := do
  match ← next? with
  | some '\\' => escape
  | c =>
    let span ← charSpan
    discard bump
    return .literal ⟨span, c.getD '\x00', false⟩

/-- One character, set or range of a class. -/
def classItem (opened : Span) : Reader Class := do
  let first ← classPiece
  skipBlanks
  if (← next?).isNone then fail .classUnclosed opened
  let behind ← second?
  if (← next?) != some '-' || behind == some ']' || behind == some '-' then first.item
  else
    advanceOr .classUnclosed (pure opened)
    let last ← classPiece
    let span := Span.around first.span last.span
    let first ← first.rangeEnd
    let last ← last.rangeEnd
    if last.char < first.char then fail .classRangeReversed span
    return .range span first last

/-- The operator of two characters that comes next. -/
def operator? : Reader (Option ClassOperator) := do
  if ← skips ['&', '&'] then return some .intersection
  if ← skips ['-', '-'] then return some .difference
  if ← skips ['~', '~'] then return some .symmetricDifference
  return none

/-- Items side by side. -/
def unionOf (place : Nat) : List Class → Class
  | [] => .empty place
  | [c] => c
  | items => .union items

/-- Dashes at the start of a class, which stand for themselves. -/
def dashes (start : Nat) : Nat → Reader (List Class)
  | 0 => return []
  | fuel + 1 => do
    if (← next?) == some '-' then
      let span ← charSpan
      advanceOr .classUnclosed (pure ⟨start, start⟩)
      return .literal ⟨span, '-', false⟩ :: (← dashes start fuel)
    else return []

mutual

/-- A class from its opening bracket to the closing one. -/
def bracketed : Nat → Reader Class
  | 0 => return .empty 0
  | fuel + 1 => do
    let start ← place
    advanceOr .classUnclosed (since start)
    let isNegated := (← next?) == some '^'
    if isNegated then advanceOr .classUnclosed (since start)
    let origin ← place
    let items ← dashes start fuel
    let items ←
      if items.isEmpty && (← next?) == some ']' then
        let span ← charSpan
        advanceOr .classUnclosed (since start)
        pure [Class.literal ⟨span, ']', false⟩]
      else pure items
    let body ← classBody fuel (← since start) origin id items
    return .bracketed (← since start) isNegated body

/-- The rest of a class through its closing bracket. `join` puts what stands in front of the last
operator before the items behind it. -/
def classBody (fuel : Nat) (opened : Span) (origin : Nat) (join : Class → Class)
    (items : List Class) : Reader Class :=
  match fuel with
  | 0 => return .empty 0
  | fuel + 1 => do
    skipBlanks
    match ← next? with
    | none => fail .classUnclosed opened
    | some '[' =>
      let item ← do
        match ← named? with
        | some c => pure c
        | none => bracketed fuel
      classBody fuel opened origin join (items ++ [item])
    | some ']' =>
      discard bump
      return join (unionOf origin items)
    | some _ =>
      match ← operator? with
      | some o =>
        let first := join (unionOf origin items)
        classBody fuel opened (← place) (Class.joined o first) []
      | none => classBody fuel opened origin join (items ++ [← classItem opened])

end

/-! ## Groups and repetitions -/

/-- Flags up to a colon or a closing parenthesis. -/
def flagItems : Nat → List FlagItem → Reader (List FlagItem)
  | 0, items => return items
  | fuel + 1, items => do
    let span ← charSpan
    match ← next? with
    | none => return items
    | some ':' | some ')' =>
      match items.getLast? with
      | some ⟨s, none⟩ => fail .flagDangling s
      | _ => return items
    | some c =>
      let flag ←
        if c == '-' then pure none
        else
          match Flag.ofChar? c with
          | some f => pure (some f)
          | none => fail .flagUnknown span
      match items.find? (·.flag == flag) with
      | some earlier =>
        let fault := if flag.isNone then Fault.flagNegationRepeated else .flagRepeated
        throw ⟨fault, span, some earlier.span⟩
      | none =>
        unless ← bump do fail .flagsUnfinished (← emptySpan)
        flagItems fuel (items ++ [⟨span, flag⟩])

/-- Whether a character may stand in the name of a group. -/
def isNameChar (isFirst : Bool) (c : Char) : Bool :=
  c == '_' || Text.isAlphabetic c
    || (!isFirst && (c == '.' || c == '[' || c == ']'
      || Category.numbers.contains (Category.ofChar c)))

/-- The characters of a name up to the angle bracket. -/
def nameChars (isFirst : Bool) : Nat → Reader Text
  | 0 => return []
  | fuel + 1 => do
    match ← next? with
    | none => fail .nameUnfinished (← emptySpan)
    | some '>' => return []
    | some c =>
      unless isNameChar isFirst c do fail .nameCharacter (← charSpan)
      discard bump
      return c :: (← nameChars false fuel)

/-- The name of a group, which no other group has. -/
def groupName : Reader Unit := do
  let start ← place
  let name ← nameChars true ((← get).rest.length + 1)
  let span ← since start
  discard bump
  if name.isEmpty then fail .nameEmpty ⟨start, start⟩
  match (← get).names.lookup name with
  | some earlier => throw ⟨.nameRepeated, span, some earlier⟩
  | none => modify fun c => { c with names := (name, span) :: c.names }

/-- What the opening of a group comes to. -/
inductive Opening where
  /-- No group at all, only flags. -/
  | flags (items : List FlagItem)
  | group (flags : List FlagItem)

/-- The opening of a group, whose parenthesis is at a place and has been skipped. -/
def opening (start : Nat) : Reader Opening := do
  let paren : Span := ⟨start, start + 1⟩
  skipBlanks
  if (← skips ['?', '=']) || (← skips ['?', '!']) || (← skips ['?', '<', '='])
      || (← skips ['?', '<', '!']) then
    fail .lookAround (← since start)
  let inside ← emptySpan
  if (← skips ['?', 'P', '<']) || (← skips ['?', '<']) then
    groupName
    return .group []
  else if ← skips ['?'] then
    if (← next?).isNone then fail .groupUnclosed paren
    let items ← flagItems ((← get).rest.length + 1) []
    let closes := (← next?) == some ')'
    discard bump
    if closes then
      if items.isEmpty then fail .repetitionMissing inside
      return .flags items
    else return .group items
  else return .group []

/-- What a repetition repeats: the last of some parts, which come in reverse, with the others. -/
def repeated : List Tree → Reader (Tree × List Tree)
  | [] | .flags .. :: _ | .empty _ :: _ => do fail .repetitionMissing (← emptySpan)
  | t :: others => return (t, others)

/-- A decimal with the blanks around it, and where its digits stand. -/
def decimal : Reader (Text × Span) := do
  discard (chars Text.isSpace)
  let start ← place
  let digits ← chars Char.isDigit
  let span ← since start
  discard (chars Text.isSpace)
  return (digits, span)

/-- The count that a decimal stands for. -/
def count (d : Text × Span) : Reader Nat :=
  let n := d.1.foldl (fun n c => 10 * n + (c.toNat - 48)) 0
  if d.1.isEmpty then fail .repetitionCount d.2
  else if UInt32.size ≤ n then fail .decimalInvalid d.2
  else return n

/-- Counts in braces. -/
def counts : Reader (Nat × Option Nat) := do
  let start ← place
  let unclosed : Reader Unit := do fail .repetitionUnclosed (← since start)
  unless ← advance do unclosed
  let low ← decimal
  if (← next?).isNone then unclosed
  let range ←
    if (← next?) == some ',' then
      unless ← advance do unclosed
      if (← next?) == some '}' then pure (← count low, none)
      else
        let low ← count low
        pure (low, some (← count (← decimal)))
    else
      let n ← count low
      pure (n, some n)
  if (← next?) != some '}' then unclosed
  let more ← advance
  if more && (← next?) == some '?' then discard bump
  if range.2.any fun high => high < range.1 then fail .repetitionReversed (← since start)
  return range

/-- The repetition of the last of some parts. -/
def repetition (parts : List Tree) (bounds : Reader (Nat × Option Nat)) : Reader (List Tree) := do
  let (t, others) ← repeated parts
  let (low, high) ← bounds
  return .repetition (← since t.span.start) low high t :: others

/-- An operator of one character, and a question mark behind it. -/
def uncounted (low : Nat) (high : Option Nat) : Reader (Nat × Option Nat) := do
  let more ← bump
  if more && (← next?) == some '?' then discard bump
  return (low, high)

/-- Parts one after another, which come in reverse. -/
def sequenceOf (span : Span) : List Tree → Tree
  | [] => .empty span.start
  | [t] => t
  | parts => .sequence span parts.reverse

/-- One of some choices. -/
def choiceOf (span : Span) : List Tree → Tree
  | [t] => t
  | choices => .choice span choices

mutual

/-- Choices up to a closing parenthesis or the end. -/
def choices : Nat → Reader (List Tree)
  | 0 => return []
  | fuel + 1 => do
    let start ← place
    let parts ← sequence fuel []
    let tree := sequenceOf (← since start) parts
    if ← skips ['|'] then return tree :: (← choices fuel)
    else return [tree]

/-- Parts one after another, up to what ends a choice; those read before come in reverse. -/
def sequence : Nat → List Tree → Reader (List Tree)
  | 0, parts => return parts
  | fuel + 1, parts => do
    skipBlanks
    match ← next? with
    | none | some '|' | some ')' => return parts
    | some '(' => sequence fuel ((← group fuel) :: parts)
    | some '[' => sequence fuel (.oneOf (← bracketed fuel) :: parts)
    | some '?' => sequence fuel (← repetition parts (uncounted 0 (some 1)))
    | some '*' => sequence fuel (← repetition parts (uncounted 0 none))
    | some '+' => sequence fuel (← repetition parts (uncounted 1 none))
    | some '\x7b' => sequence fuel (← repetition parts counts)
    | some _ => sequence fuel ((← piece).tree :: parts)

/-- A group, or flags in parentheses. -/
def group : Nat → Reader Tree
  | 0 => return .empty 0
  | fuel + 1 => do
    let start ← place
    skip 1
    let before := (← get).ignoresBlanks
    let switched (items : List FlagItem) : Reader Unit :=
      match ((FlagItem.settings items true).lookup .ignoreBlanks) with
      | some on => modify fun c => { c with ignoresBlanks := on }
      | none => pure ()
    match ← opening start with
    | .flags items =>
      switched items
      return .flags (← since start) items
    | .group items =>
      switched items
      let inside ← place
      let parts ← choices fuel
      let body := choiceOf (← since inside) parts
      if (← next?).isNone then fail .groupUnclosed ⟨start, start + 1⟩
      modify fun c => { c with ignoresBlanks := before }
      discard bump
      return .group (← since start) items body

end

end Reader

/-- The tree of a text. -/
def read (t : Text) : Except SyntaxError Tree := do
  let reading : Reader Tree := do
    let parts ← Reader.choices (4 * t.length + 4)
    let body := Reader.choiceOf (← Reader.since 0) parts
    if (← Reader.next?).isSome then Reader.fail .groupUnopened (← Reader.charSpan)
    return body
  let tree ← reading.run' { rest := t }
  match tree.tooDeep? maxDepth with
  | some span => throw { fault := .tooDeep, span }
  | none => return tree

end QuizPages.Expression
