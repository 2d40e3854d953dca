import QuizPages.Ignore.Pattern

/-!
# Globs

Patterns for paths as they are written in ignore files: `?` and `*` stay within one name, `**`
between slashes goes across names, classes and braces give choices, a backslash takes the next
character as it is. A class without its end is an ordinary bracket.
-/

namespace QuizPages.Glob

inductive Piece where
  | literal (c : Char)
  /-- One octet of a name. -/
  | one
  /-- Any octets of a name. -/
  | run
  /-- The stars `**` at the start of a glob or a choice: any directories. -/
  | above
  /-- The stars `**` after a slash at the end: all that is below. -/
  | inside
  /-- The stars `**` between slashes: any directories, or none. -/
  | between
  /-- A character of some ranges, or of none of them. -/
  | oneOf (negated : Bool) (ranges : List (Char × Char))
  | choice (options : List (List Piece))
  deriving Repr

/-- Why a glob cannot be read. -/
inductive Malformed where
  | reversedRange (first last : Char)
  | unopenedChoice
  | unclosedChoice
  | danglingEscape
  deriving DecidableEq, Repr

namespace Malformed

def message : Malformed → Text
  | reversedRange first last =>
    "invalid range; '" ++ [first] ++ "' > '" ++ [last] ++ "'"
  | unopenedChoice =>
    "unopened alternate group; missing '\x7b' (maybe escape '\x7d' with '[\x7d]'?)"
  | unclosedChoice =>
    "unclosed alternate group; missing '\x7d' (maybe escape '\x7b' with '[\x7b]'?)"
  | danglingEscape => "dangling '\\'"

end Malformed

/-! ## Classes -/

/-- What reading a class comes to. -/
inductive ClassReading where
  | unclosed
  | closed (ranges : List (Char × Char)) (rest : Text)
  | malformed (e : Malformed)

/-- Ends the last range at a character. -/
def endRange (ranges : List (Char × Char)) (c : Char) : Except Malformed (List (Char × Char)) :=
  match ranges with
  | [] => .ok [(c, c)]
  | (a, _) :: earlier => if c < a then .error (.reversedRange a c) else .ok ((a, c) :: earlier)

/-- A class from after its opening bracket and its negation. `ranges` has the last range in
front; `dashed` says that a dash waits for the end of that range. -/
def readClass (first dashed : Bool) (ranges : List (Char × Char)) : Text → ClassReading
  | [] => .unclosed
  | c :: rest =>
    if c = ']' ∧ ¬ first then
      .closed ((if dashed then ('-', '-') :: ranges else ranges).reverse) rest
    else if c = '-' ∧ ¬ first ∧ ¬ dashed then readClass false true ranges rest
    else if dashed then
      match endRange ranges c with
      | .ok ranges => readClass false false ranges rest
      | .error e => .malformed e
    else readClass false false ((c, c) :: ranges) rest

/-! ## Globs -/

/-- What has been read of a glob: the pieces of the innermost choice, the last one in front, the
finished options of the choice around it, and the pieces and options further out. -/
structure State where
  pieces : List Piece := []
  outer : List (List (List Piece) × List Piece) := []
  /-- The options of the innermost choice that are finished, the last one in front. -/
  options : List (List Piece) := []
  /-- The character before. -/
  previous : Option Char := none
  /-- Whether some class was found without an end. -/
  openClass : Bool := false

namespace State

def push (s : State) (p : Piece) : State := { s with pieces := p :: s.pieces }

/-- Whether braces are open. -/
def inChoice (s : State) : Bool := !s.outer.isEmpty

/-- Puts a piece in place of the last one, unless that reaches across names already. -/
def replaceLast (s : State) (p : Piece) : State :=
  match s.pieces with
  | .above :: earlier => { s with pieces := .above :: earlier }
  | .inside :: earlier => { s with pieces := .inside :: earlier }
  | _ :: earlier => { s with pieces := p :: earlier }
  | [] => s.push p

/-- The stars `**`, with the text after it; also what is left of that text. -/
def doubleStar (s : State) (rest : Text) : State × Text :=
  let runs := (s.push .run).push .run
  if s.pieces.isEmpty then
    match rest with
    | [] => (s.push .above, rest)
    | '/' :: rest => ({ s.push .above with previous := some '/' }, rest)
    | _ => (runs, rest)
  else if !(s.previous == some '/'
      || (s.inChoice && (s.previous == some ',' || s.previous == some '\x7b'))) then (runs, rest)
  else
    match rest with
    | [] => (s.replaceLast .inside, rest)
    | c :: later =>
      if s.inChoice && (c == ',' || c == '\x7d') then (s.replaceLast .inside, rest)
      else if c == '/' then ({ s.replaceLast .between with previous := some '/' }, later)
      else (runs, rest)

end State

/-- The pieces of a glob from a state on. The fuel is the length of the text. -/
def readFrom : Nat → State → Text → Except Malformed (List Piece)
  | 0, s, _ => finish s
  | _, s, [] => finish s
  | fuel + 1, s, c :: rest =>
    let next (s : State) (last : Char) (rest : Text) :=
      readFrom fuel { s with previous := some last } rest
    if c = '?' then next (s.push .one) c rest
    else if c = '*' then
      match rest with
      | '*' :: rest =>
        let (s', rest') := s.doubleStar rest
        -- a slash that was taken along is the character before what follows
        readFrom fuel (if rest'.length < rest.length then s' else { s' with previous := some '*' })
          rest'
      | rest => next (s.push .run) c rest
    else if c = '[' ∧ ¬ s.openClass then
      let (negated, body) :=
        match rest with
        | '!' :: body => (true, body)
        | '^' :: body => (true, body)
        | body => (false, body)
      match readClass true false [] body with
      | .unclosed => next { s.push (.literal '[') with openClass := true } c rest
      | .malformed e => .error e
      | .closed ranges rest => next (s.push (.oneOf negated ranges)) ']' rest
    else if c = '\x7b' then
      next { s with pieces := [], options := [], outer := (s.options, s.pieces) :: s.outer } c rest
    else if c = '\x7d' then
      match s.outer with
      | [] => .error .unopenedChoice
      | (options, pieces) :: outer =>
        let all := (s.pieces.reverse :: s.options).reverse
        next { s with pieces := .choice all :: pieces, options, outer } c rest
    else if c = ',' ∧ s.inChoice then
      next { s with pieces := [], options := s.pieces.reverse :: s.options } c rest
    else if c = '\\' then
      match rest with
      | [] => .error .danglingEscape
      | d :: rest => next (s.push (.literal d)) d rest
    else next (s.push (.literal c)) c rest
where
  finish (s : State) : Except Malformed (List Piece) :=
    if s.inChoice then .error .unclosedChoice else .ok s.pieces.reverse

/-- The pieces of a glob. -/
def read (t : Text) : Except Malformed (List Piece) := readFrom t.length {} t

/-! ## What globs match -/

/-- The UTF-8 form of a range: the octets of both ends, with a range between the last octet of
the one and the first of the other. -/
def octetRanges (r : Char × Char) : List (UInt8 × UInt8) :=
  let a := String.utf8EncodeChar r.1
  let b := String.utf8EncodeChar r.2
  if r.1 = r.2 then a.map fun o => (o, o)
  else
    match a.reverse, b with
    | last :: before, first :: after =>
      before.map (fun o => (o, o)) ++ (last, first) :: after.map fun o => (o, o)
    | _, _ => []

def slash : Pattern := .exactly 47

def anything : Pattern := .many .any

/-- One octet that is no slash. -/
def nameOctet : Pattern := .octet true [(47, 47)]

mutual

def pattern : Piece → Pattern
  | .literal c => .ofOctets (String.utf8EncodeChar c)
  | .one => nameOctet
  | .run => .many nameOctet
  | .above => .alt .empty (.alt slash (.seq anything slash))
  | .inside => .seq slash anything
  | .between => .alt slash (.seq slash (.seq anything slash))
  | .oneOf negated ranges => .octet negated (ranges.flatMap octetRanges)
  | .choice options =>
    match optionPatterns options with
    | [] => .empty
    | p :: ps => ps.foldl .alt p

def patterns : List Piece → Pattern
  | [] => .empty
  | p :: ps => .seq (pattern p) (patterns ps)

/-- The patterns of options; one without any pieces does not count. -/
def optionPatterns : List (List Piece) → List Pattern
  | [] => []
  | ps :: later => if isVoid ps then optionPatterns later else patterns ps :: optionPatterns later

/-- Whether pieces come to nothing at all. -/
def isVoid : List Piece → Bool
  | [] => true
  | p :: ps => isVoidPiece p && isVoid ps

def isVoidPiece : Piece → Bool
  | .choice options => areVoid options
  | _ => false

def areVoid : List (List Piece) → Bool
  | [] => true
  | ps :: later => isVoid ps && areVoid later

end

/-! ## How deep globs nest -/

/-- How many items a piece is spelt with. -/
def items : Piece → Nat
  | .literal c => c.utf8Size
  | .inside => 2
  | .choice options => if areVoid options then 0 else 1
  | _ => 1

/-- How many items a range is spelt with inside a class. -/
def rangeItems (r : Char × Char) : Nat :=
  if r.1 = r.2 then r.1.utf8Size else r.1.utf8Size + r.2.utf8Size - 1

mutual

/-- How many groups, choices, sequences, repetitions and classes lie one in another in a
piece. -/
def depth : Piece → Nat
  | .literal _ => 0
  | .one => 1
  | .run => 2
  | .above => 4
  | .inside => 1
  | .between => 4
  | .oneOf _ ranges => if 1 < (ranges.map rangeItems).sum then 2 else 1
  | .choice options =>
    match optionDepths options with
    | [] => 0
    | [n] => n + 1
    | ns => ns.foldl max 0 + 2

/-- The greatest depth among pieces. -/
def greatestDepth : List Piece → Nat
  | [] => 0
  | p :: ps => max (depth p) (greatestDepth ps)

/-- The depths of options; one without any pieces does not count. -/
def optionDepths : List (List Piece) → List Nat
  | [] => []
  | ps :: later =>
    let sequence := if 1 < (ps.map items).sum then 1 else 0
    if isVoid ps then optionDepths later
    else (greatestDepth ps + sequence) :: optionDepths later

end

/-- The greatest depth of a glob, counted with the sequence of its pieces, that is kept. -/
def maxDepth : Nat := 250

/-- Whether a glob nests too deep to be kept. -/
def isTooDeep (ps : List Piece) : Bool := maxDepth < greatestDepth ps + 1

/-- Whether a piece is a character. -/
def isLiteral : Piece → Bool
  | .literal _ => true
  | _ => false

/-- Whether a glob asks for no more than a name, an end of the path, a start of it, or an
extension. -/
def isFixed (ps : List Piece) : Bool :=
  match ps with
  | .above :: .run :: .literal '.' :: ext =>
    !ext.isEmpty && ext.all fun p =>
      match p with
      | .literal c => c != '.' && c != '/'
      | _ => false
  | .above :: rest => !rest.isEmpty && rest.all isLiteral
  | ps =>
    match ps.reverse with
    | .inside :: before => before.all isLiteral
    | _ => !ps.isEmpty && ps.all isLiteral

/-- Whether a glob ends in a fixed extension. -/
def hasExtension (ps : List Piece) : Bool :=
  match ps.reverse.dropWhile (fun p =>
    match p with
    | .literal c => c != '.' && c != '/'
    | _ => false) with
  | .literal '.' :: _ => true
  | _ => false

/-! ## The pattern of a glob -/

/-- What a whole glob matches; `**` alone matches everything. -/
def toPattern : List Piece → Pattern
  | [.above] => anything
  | ps => patterns ps

end QuizPages.Glob
