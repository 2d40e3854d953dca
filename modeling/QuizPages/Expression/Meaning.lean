import QuizPages.Expression.Reader
import QuizPages.Expression.Size
import QuizPages.Text.Script

/-!
# What written expressions mean

Flags hold from where they stand to the end of their group, also in the choices that follow there.
Without the flag for Unicode there is only ASCII, and an expression that would match part of a
character beyond it is refused.
-/

namespace QuizPages.Expression

/-- The flags that are on. -/
structure Flags where
  ignoreCase : Bool := false
  multiLine : Bool := false
  dotMatchesAll : Bool := false
  unicode : Bool := true
  withReturns : Bool := false
  deriving DecidableEq, Repr

namespace Flags

/-- One flag switched on or off. -/
def switch (fs : Flags) : Flag × Bool → Flags
  | (.ignoreCase, on) => { fs with ignoreCase := on }
  | (.multiLine, on) => { fs with multiLine := on }
  | (.dotMatchesAll, on) => { fs with dotMatchesAll := on }
  | (.unicode, on) => { fs with unicode := on }
  | (.withReturns, on) => { fs with withReturns := on }
  | (.swapGreed, _) | (.ignoreBlanks, _) => fs

def switchAll (fs : Flags) (items : List FlagItem) : Flags :=
  (FlagItem.settings items true).foldl switch fs

/-- A set as the flags have it: with both cases if case does not matter, and turned around if it is
negated. -/
def adjust (fs : Flags) (span : Span) (isNegated : Bool) (s : CharSet) :
    Except SyntaxError CharSet :=
  let s :=
    if !fs.ignoreCase then s else if fs.unicode then s.folded else s.foldedAscii
  if !isNegated then .ok s
  else if fs.unicode then .ok s.complement
  else .error { fault := .malformedOctets, span }

/-- The character of a literal. -/
def char (fs : Flags) (l : Literal) : Except SyntaxError Char :=
  if !fs.unicode && l.isOctet && 0x80 ≤ l.char.toNat then
    .error { fault := .malformedOctets, span := l.span }
  else .ok l.char

/-- The character of a literal in a class. -/
def classChar (fs : Flags) (l : Literal) : Except SyntaxError Char := do
  let c ← fs.char l
  if !fs.unicode && 0x80 ≤ c.toNat then throw { fault := .unicodeOnly, span := l.span }
  return c

end Flags

/-! ## Sets -/

/-- The sets with a letter of their own. -/
def LetterClass.set (unicode : Bool) : LetterClass → CharSet
  | digit => if unicode then .digit else .range '0' '9'
  | space => if unicode then .space else .any [.range '\t' '\x0d', .only ' ']
  | word =>
    if unicode then .word
    else .any [.range '0' '9', .range 'A' 'Z', .range 'a' 'z', .only '_']

/-- A name as it is looked up: spaces, dashes, underscores and case do not matter, nor does `is` in
front. -/
def looseName (t : Text) : Text :=
  let t := match t with
    | a :: b :: rest => if [a, b].map Char.toLower == ['i', 's'] then rest else t
    | t => t
  (t.filter fun c => !(c == ' ' || c == '-' || c == '_') && c.toNat < 0x80).map Char.toLower

/-- The sets that general categories and groups of them make up, by their names. -/
def categorySet? (name : Text) : Option CharSet :=
  let set (ks : List Category) := some (CharSet.categories ks)
  match String.ofList name with
  | "lu" | "uppercaseletter" => set [.upperLetter]
  | "ll" | "lowercaseletter" => set [.lowerLetter]
  | "lt" | "titlecaseletter" => set [.titleLetter]
  | "lm" | "modifierletter" => set [.modifierLetter]
  | "lo" | "otherletter" => set [.otherLetter]
  | "lc" | "casedletter" => set [.upperLetter, .lowerLetter, .titleLetter]
  | "l" | "letter" => set Category.letters
  | "mn" | "nonspacingmark" => set [.nonspacingMark]
  | "mc" | "spacingmark" => set [.spacingMark]
  | "me" | "enclosingmark" => set [.enclosingMark]
  | "m" | "mark" | "combiningmark" => set Category.marks
  | "nd" | "decimalnumber" | "digit" => set [.decimalNumber]
  | "nl" | "letternumber" => set [.letterNumber]
  | "no" | "othernumber" => set [.otherNumber]
  | "n" | "number" => set Category.numbers
  | "pc" | "connectorpunctuation" => set [.connector]
  | "pd" | "dashpunctuation" => set [.dash]
  | "ps" | "openpunctuation" => set [.opening]
  | "pe" | "closepunctuation" => set [.closing]
  | "pi" | "initialpunctuation" => set [.initialQuote]
  | "pf" | "finalpunctuation" => set [.finalQuote]
  | "po" | "otherpunctuation" => set [.otherPunctuation]
  | "p" | "punctuation" | "punct" => set Category.punctuation
  | "sm" | "mathsymbol" => set [.mathSymbol]
  | "sc" | "currencysymbol" => set [.currency]
  | "sk" | "modifiersymbol" => set [.modifierSymbol]
  | "so" | "othersymbol" => set [.otherSymbol]
  | "s" | "symbol" => set Category.symbols
  | "zs" | "spaceseparator" => set [.spaceSeparator]
  | "zl" | "lineseparator" => set [.lineSeparator]
  | "zp" | "paragraphseparator" => set [.paragraphSeparator]
  | "z" | "separator" => set Category.separators
  | "cc" | "control" | "cntrl" => set [.control]
  | "cf" | "format" => set [.format]
  | "co" | "privateuse" => set [.privateUse]
  | "cn" | "unassigned" => set [.unassigned]
  | "c" | "other" => set [.control, .format, .privateUse, .unassigned]
  | "any" => some .all
  | "assigned" => some (CharSet.categories [.unassigned]).complement
  | "ascii" => some (.range '\x00' '\x7f')
  | _ => none

/-- The characters of a script, by its name. -/
def scriptSet? (name : Text) : Option CharSet := (Text.script? name).map .runs

/-- The sets that properties make up, by their names. -/
def propertySet? (name : Text) : Option CharSet :=
  match String.ofList name with
  | "alphabetic" | "alpha" => some .alphabetic
  | "uppercase" | "upper" => some .uppercase
  | "lowercase" | "lower" => some .lowercase
  | "whitespace" | "wspace" | "space" => some .space
  | _ => none

/-- The set that is asked for. -/
def PropertyQuery.set (span : Span) : PropertyQuery → Except SyntaxError CharSet
  | named name =>
    let name := looseName name
    orFault .propertyUnknown ((propertySet? name).or ((categorySet? name).or (scriptSet? name)))
  | valued _ name value =>
    match String.ofList (looseName name) with
    | "gc" | "generalcategory" => orFault .propertyValueUnknown (categorySet? (looseName value))
    | "sc" | "script" => orFault .propertyValueUnknown (scriptSet? (looseName value))
    | _ => orFault .propertyUnknown none
where
  orFault (fault : Fault) : Option CharSet → Except SyntaxError CharSet
    | some s => .ok s
    | none => .error { fault, span }

/-- Whether a query asks for the other characters. -/
def PropertyQuery.isNegated : PropertyQuery → Bool
  | named _ => false
  | valued isNegated .. => isNegated

/-- Two sets joined. -/
def ClassOperator.join (a b : CharSet) : ClassOperator → CharSet
  | intersection => .both a b
  | difference => .both a b.complement
  | symmetricDifference => .union (.both a b.complement) (.both b a.complement)

/-- The set of a class. -/
def Class.set (fs : Flags) : Class → Except SyntaxError CharSet
  | empty _ => .ok .nothing
  | literal l => CharSet.only <$> fs.classChar l
  | range _ first last => return .range (← fs.classChar first) (← fs.classChar last)
  | ascii span isNegated ranges =>
    fs.adjust span isNegated (.any (ranges.map fun r => .range r.1 r.2))
  | letter span isNegated c =>
    { fs with ignoreCase := false }.adjust span isNegated (c.set fs.unicode)
  | property span isNegated query => do
    unless fs.unicode do throw { fault := .unicodeOnly, span }
    fs.adjust span (isNegated != query.isNegated) (← query.set span)
  | bracketed span isNegated body => do fs.adjust span isNegated (← body.set fs)
  | union items => sets items
  | joined operator a b => do
    let a ← a.set fs
    let b ← b.set fs
    return operator.join (← fs.adjust ⟨0, 0⟩ false a) (← fs.adjust ⟨0, 0⟩ false b)
where
  sets : List Class → Except SyntaxError CharSet
    | [] => .ok .nothing
    | c :: rest => do
      let s ← c.set fs
      return s.union (← sets rest)

/-! ## Expressions -/

/-- The expression of a literal. -/
def Flags.literal (fs : Flags) (l : Literal) : Except SyntaxError Expression := do
  return .char (← fs.adjust l.span false (.only (← fs.char l)))

/-- Any character, but for those that end a line. -/
def Flags.dot (fs : Flags) (span : Span) : Except SyntaxError Expression :=
  if !fs.unicode then .error { fault := .malformedOctets, span }
  else
    let ends : CharSet :=
      if fs.dotMatchesAll then .nothing
      else if fs.withReturns then .any [.only '\n', .only '\x0d']
      else .only '\n'
    .ok (.char ends.complement)

/-- What a test comes to. -/
def Flags.test (fs : Flags) : Test → Boundary
  | .lineStart => if fs.multiLine then .lineStart fs.withReturns else .textStart
  | .lineStop => if fs.multiLine then .lineStop fs.withReturns else .textStop
  | .textStart => .textStart
  | .textStop => .textStop
  | .word edge => .word (!fs.unicode) edge

/-- The expression of a tree under some flags, and the flags behind it. -/
def Tree.meaning (fs : Flags) : Tree → Except SyntaxError (Expression × Flags)
  | empty _ => .ok (.empty, fs)
  | flags _ items => .ok (.empty, fs.switchAll items)
  | literal l => do return (← fs.literal l, fs)
  | dot span => do return (← fs.dot span, fs)
  | test _ t => .ok (.boundary (fs.test t), fs)
  | oneOf c => do return (.char (← c.set fs), fs)
  | repetition _ low high t => do
    let (e, fs) ← t.meaning fs
    return (.times low high e, fs)
  | group _ items t => do
    let (e, _) ← t.meaning (fs.switchAll items)
    return (e, fs)
  | sequence _ parts => do
    let (es, fs) ← meanings fs parts
    return (es.foldr .seq .empty, fs)
  | choice _ parts => do
    let (es, fs) ← meanings fs parts
    return (es.foldr .alt .never, fs)
where
  meanings (fs : Flags) : List Tree → Except SyntaxError (List Expression × Flags)
    | [] => .ok ([], fs)
    | t :: rest => do
      let (e, fs) ← t.meaning fs
      let (es, fs) ← meanings fs rest
      return (e :: es, fs)

/-- Why a text is not taken for an expression. -/
inductive Refusal where
  | malformed (e : SyntaxError)
  | tooLarge
  deriving DecidableEq, Repr

/-- What is said about a text that is refused. -/
def Refusal.message (t : Text) : Refusal → Text
  | malformed e => e.report t
  | tooLarge => "Compiled regex exceeds size limit of " ++ Text.ofNat maxSize ++ " bytes."

/-- The expression that a text is read as. -/
def ofText? (t : Text) : Except Refusal Expression :=
  match (read t).bind fun tree => tree.meaning {} with
  | .error e => .error (.malformed e)
  | .ok (e, _) => if maxSize < e.size then .error .tooLarge else .ok e

end QuizPages.Expression
