import QuizPages.Text.Basic

/-!
# Markers

The two literal marks around a quiz block, and every place where a text holds one.
-/

namespace QuizPages

/-- The two ends of a quiz block. -/
inductive Marker where
  | start
  | stop
  deriving DecidableEq, Repr

namespace Marker

/-- How a marker is written. -/
def text : Marker → Text
  | start => ['<', '?', 'q', 'u', 'i', 'z', '?', '>']
  | stop => ['<', '?', '/', 'q', 'u', 'i', 'z', '?', '>']

/-- A marker at an octet offset. -/
structure Occurrence where
  offset : Nat
  marker : Marker
  deriving DecidableEq, Repr

/-- The marker that a text starts with. -/
def leading? (t : Text) : Option Marker :=
  if start.text.isPrefixOf t then some start
  else if stop.text.isPrefixOf t then some stop
  else none

/-- Every occurrence in a text that begins at an offset, from left to right. -/
def occurrencesFrom (offset : Nat) : Text → List Occurrence
  | [] => []
  | c :: cs =>
    let later := occurrencesFrom (offset + c.utf8Size) cs
    match leading? (c :: cs) with
    | some m => ⟨offset, m⟩ :: later
    | none => later

/-- Every occurrence in a text, from left to right. -/
def occurrences (t : Text) : List Occurrence := occurrencesFrom 0 t

end Marker
end QuizPages
