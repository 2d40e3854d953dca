import QuizPages.Page
import QuizPages.Report.Item

/-!
# Checking a page

Markers are paired the way blocks are found: a start marker opens, the next end marker closes,
and a start marker in between does neither. Markers that pair with none, and blocks that hold no
quiz, are issues.
-/

namespace QuizPages

/-- Something wrong at a line of a page. -/
structure Issue where
  severity : Severity
  fault : Fault
  path : Text
  line : UInt32
  deriving DecidableEq, Repr

namespace Issue

def nested (outer : UInt32) : Fault :=
  ⟨"NESTED_QUIZ_START",
    "Quiz start marker inside the quiz opened on line " ++ Text.ofNat outer.toNat⟩

def unmatched : Fault := ⟨"UNMATCHED_END_TAG", "Quiz end marker has no matching start marker"⟩

def unterminated : Fault := ⟨"UNTERMINATED_QUIZ", "Quiz start marker has no matching end marker"⟩

/-- The item of an issue. -/
def item (i : Issue) : Item :=
  { Item.ofFault i.severity i.fault with path := some i.path, range := some ⟨i.line, i.line⟩ }

end Issue

namespace Page

/-- The line of a marker within the page. -/
def lineOf (p : Page) (m : Marker.Occurrence) : UInt32 :=
  Text.lineAt p.body m.offset + p.lineOffset

/-- The issues of markers from left to right. `opened` is the line of the marker that is open. -/
def pair (p : Page) (opened : Option UInt32) : List Marker.Occurrence → List Issue
  | [] =>
    match opened with
    | none => []
    | some line => [⟨.error, Issue.unterminated, p.path, line⟩]
  | m :: later =>
    match m.marker, opened with
    | .start, none => pair p (some (p.lineOf m)) later
    | .start, some outer =>
      ⟨.warning, Issue.nested outer, p.path, p.lineOf m⟩ :: pair p opened later
    | .stop, some _ => pair p none later
    | .stop, none => ⟨.error, Issue.unmatched, p.path, p.lineOf m⟩ :: pair p none later

/-- The issues of the markers. -/
def pairingIssues (p : Page) : List Issue := p.pair none (Marker.occurrences p.body)

/-- The issues of the blocks that hold no quiz. -/
def blockIssues (p : Page) : List Issue :=
  (Block.all p.body).filterMap fun b =>
    match Quiz.parse b.body with
    | .ok _ => none
    | .error e => some ⟨.error, ⟨e.code, e.message⟩, p.path, b.startLine + p.lineOffset⟩

/-- All issues by line; on one line those of markers come first. A disabled page has none. -/
def lint (p : Page) : List Issue :=
  if p.disabled then []
  else (p.pairingIssues ++ p.blockIssues).mergeSort fun a b => a.line.toNat ≤ b.line.toNat

end Page
end QuizPages
