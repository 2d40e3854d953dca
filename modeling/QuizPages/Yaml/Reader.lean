import QuizPages.Text.Utf8
import QuizPages.Yaml.Node
import QuizPages.Yaml.Resolution

/-!
# Reading YAML

`Value.read?` takes a text through its tokens and nodes to a value. Aliases are replaced by what
they stand for; the number of replacements is bounded by the size of the document, and the
nesting by `maxDepth`, so that a short text cannot spell an endless value.
-/

namespace QuizPages.Yaml.Value

/-- How deep sequences and mappings may nest. -/
def maxDepth : Nat := 128

/-- Building a value spends the replacements of aliases that are left. -/
abbrev Build := StateT Nat Option

/-- The node that an alias stands for; any other node stands for itself. -/
def follow (anchors : List (Nat × Node Nat)) : Node Nat → Build (Node Nat)
  | .alias name => fun left =>
    match left, anchors.lookup name with
    | left + 1, some n => some (n, left)
    | _, _ => none
  | n => pure n

/-- The name that a tag of the document's own gives to a value: what follows the `!`. -/
def ownTag? (tag : Option (List UInt8)) : Option (List UInt8) :=
  match tag with
  | some (33 :: rest) =>
    let name := if rest.isEmpty then [33] else rest
    if Utf8.isValid name then some name else none
  | _ => none

/-- A value under the tag of its node. -/
def withTag (tag : Option (List UInt8)) (v : Value) : Value :=
  match tag with
  | some name => .tagged name v
  | none => v

/-- The value of a node. A tag of the document's own is kept around the value, which is then read
as if it had none. -/
def ofNode (anchors : List (Nat × Node Nat)) : (depth : Nat) → Node Nat → Build Value
  | depth, n => do
    match ← follow anchors n with
    | .alias _ => failure
    | .scalar p plain text =>
      let own := ownTag? p.tag
      let v ← ofScalar? (if own.isSome then none else p.tag) plain text
      return withTag own v
    | .sequence p items =>
      match depth with
      | 0 => failure
      | depth + 1 =>
        let vs ← items.mapM (ofNode anchors depth)
        return withTag (ownTag? p.tag) (.sequence vs)
    | .mapping p entries =>
      match depth with
      | 0 => failure
      | depth + 1 =>
        let es ← entries.mapM fun e => do
          let k ← ofNode anchors depth e.1
          let v ← ofNode anchors depth e.2
          return (k, v)
        if distinctKeys es then return withTag (ownTag? p.tag) (.mapping es) else failure

/-- The value that a text holds; null if it holds no document. -/
def read? (t : Text) : Option Value := do
  let tokens ← Token.ofText? t
  match ← Node.document? tokens with
  | none => return .null
  | some root =>
    let (root, _) ← Node.numbered? root []
    let (v, _) ← (ofNode (root.anchored []) maxDepth root).run (100 * root.weight)
    return v

end QuizPages.Yaml.Value
