import QuizPages.Expression.Meaning
import QuizPages.Log
import QuizPages.Terminal
import QuizPages.Text.Space

/-!
# What is logged, and how

A specification names levels, alone or for a part of the program as `part=level`, with commas
between. The longest beginning of the name of a record's part decides, and the record is shown if
its level is at least as grave. After a slash, an expression that records must contain may
follow.
-/

namespace QuizPages

namespace Logging

/-- The least grave level that is shown; `none` for silence. -/
abbrev Threshold := Option Level

/-- The threshold of a name, in letters of either case. -/
def threshold? (name : Text) : Option Threshold :=
  let name := name.map Char.toUpper
  if name == "OFF".toList then some none
  else ([.error, .warn, .info, .debug, .trace].find? fun l : Level => l.name == name).map some

structure Directive where
  /-- The part of the program that is meant; `none` for all. -/
  part : Option Text
  threshold : Threshold
  deriving DecidableEq, Repr

structure Filter where
  directives : List Directive
  /-- What a record must contain. -/
  needle : Option Expression := none
  deriving DecidableEq, Repr

/-- A directive, or what is to be said about it. -/
def readDirective (t : Text) : Except Text Directive :=
  match Text.splitAt '=' t with
  | [one] =>
    match threshold? one with
    | some level => .ok ⟨none, level⟩
    | none => .ok ⟨some one, some .trace⟩
  | [part, level] =>
    let level := Text.trim level
    if level.isEmpty then .ok ⟨some part, some .trace⟩
    else
      match threshold? level with
      | some level => .ok ⟨some part, level⟩
      | none => .error (complaint level)
  | _ => .error (complaint t)
where
  complaint (t : Text) : Text := "invalid logging spec '" ++ t ++ "'"

/-- Puts a directive in, in place of one for the same part. -/
def insertDirective (d : Directive) : List Directive → List Directive
  | [] => [d]
  | e :: rest => if e.part = d.part then d :: rest else e :: insertDirective d rest

/-- The filter of a specification, and what is to be said about it. Without any directive only
errors are shown. -/
def readFilter (spec : Text) : Filter × List Text :=
  match Text.splitAt '/' spec with
  | _ :: _ :: _ :: _ =>
    (filterOf [] none, ["invalid logging spec '" ++ spec ++ "' (too many '/'s)"])
  | directives :: rest =>
    let each := ((Text.splitAt ',' directives).map Text.trim).filter (!·.isEmpty)
    let (ds, complaints) := each.foldl (fun (ds, complaints) t =>
      match readDirective t with
      | .ok d => (insertDirective d ds, complaints)
      | .error c => (ds, complaints ++ [c])) ([], [])
    match rest.head?.map fun t => (Expression.ofText? t).mapError fun e => e.message t with
    | none => (filterOf ds none, complaints)
    | some (.ok needle) => (filterOf ds (some needle), complaints)
    | some (.error report) =>
      (filterOf ds none, complaints ++ ["invalid regex filter - ".toList ++ report])
  | [] => (filterOf [] none, [])
where
  filterOf (ds : List Directive) (needle : Option Expression) : Filter :=
    ⟨if ds.isEmpty then [⟨none, some .error⟩] else ds, needle⟩

/-- The filter that shows a level and all graver ones. -/
def Filter.atLeast (l : Level) : Filter := ⟨[⟨none, some l⟩], none⟩

/-- The directive that speaks for a part: of those that name a beginning of its name, the one with
the longest. -/
def Filter.governing? (f : Filter) (p : Part) : Option Directive :=
  (f.directives.filter fun d => (d.part.getD []).isPrefixOf p.name).foldl
    (fun best d =>
      match best with
      | none => some d
      | some b => if (b.part.getD []).length ≤ (d.part.getD []).length then some d else some b)
    none

/-- Whether a record is shown. -/
def Filter.admits (f : Filter) (r : Record) : Bool :=
  ((f.governing? r.part).bind (·.threshold)).any (fun l => r.level.rank ≤ l.rank)
    && f.needle.all (·.occursIn r.text)

/-! ## Lines -/

/-- The style of a level. -/
def styleCodes : Level → List Text
  | .error => ["1".toList, "31".toList]
  | .warn => ["33".toList]
  | .info => ["32".toList]
  | .debug => ["34".toList]
  | .trace => ["36".toList]

/-- A record as it is shown: the level in five columns, and the text with its further lines
indented. Without color the line gives no orders to a terminal. -/
def line (colored : Bool) (r : Record) : Text :=
  let level := r.level.name ++ List.replicate (5 - r.level.name.length) ' '
  let text := r.text.flatMap fun c => if c = '\n' then "\n    ".toList else [c]
  let paint (codes : List Text) (t : Text) : Text := if colored then Terminal.styled codes t else t
  let line := paint ["90"] "[" ++ paint (styleCodes r.level) level ++ paint ["90"] "]"
    ++ ' ' :: text ++ ['\n']
  if colored then line else Terminal.plain line

end Logging
end QuizPages
