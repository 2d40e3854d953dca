import QuizPages.Yaml.Token

/-!
# Nodes

The tree that the tokens of a document spell. A node may have an anchor and a tag; an alias
stands for the node of an anchor. Names of anchors are of a type `α`: texts as written, numbers
once every alias is known to have an anchor before it.
-/

namespace QuizPages.Yaml

/-- What may stand in front of a node. The tag is written out, as octets. -/
structure Properties (α : Type) where
  anchor : Option α := none
  tag : Option (List UInt8) := none

inductive Node (α : Type) where
  | alias (name : α)
  | scalar (properties : Properties α) (plain : Bool) (text : Text)
  | sequence (properties : Properties α) (items : List (Node α))
  | mapping (properties : Properties α) (entries : List (Node α × Node α))

namespace Node

/-- The node of a place where nothing is written. -/
def missing : Node Text := .scalar {} true []

/-- What tag handles stand for. -/
abbrev Handles := List (Text × List UInt8)

/-- The handles that every document knows. -/
def defaultHandles : Handles :=
  [(['!'], asciiOctets ['!']), (['!', '!'], asciiOctets "tag:yaml.org,2002:")]
where
  asciiOctets (t : Text) : List UInt8 := t.map fun c => UInt8.ofNat c.toNat

/-- A tag written out. -/
def fullTag? (handles : Handles) (t : RawTag) : Option (List UInt8) :=
  if t.handle.isEmpty then some t.suffix
  else (handles.lookup t.handle).map (· ++ t.suffix)

/-- An anchor and a tag, in either order, each at most once. -/
def properties? (handles : Handles) (ts : List Token) : Option (Properties Text × List Token) :=
  match ts with
  | .anchor a :: .tag t :: ts => (fullTag? handles t).map fun t => (⟨some a, some t⟩, ts)
  | .tag t :: .anchor a :: ts => (fullTag? handles t).map fun t => (⟨some a, some t⟩, ts)
  | .anchor a :: ts => some (⟨some a, none⟩, ts)
  | .tag t :: ts => (fullTag? handles t).map fun t => (⟨none, some t⟩, ts)
  | ts => some ({}, ts)

/-- Whether the next token is one of a few. -/
def startsWith (ts : List Token) (ends : List Token) : Bool :=
  match ts with
  | t :: _ => ends.contains t
  | [] => false

mutual

/-- A node. `block` allows block collections, `indentless` a sequence at the column of the
mapping around it. The fuel bounds the number of tokens. -/
def ofTokens (handles : Handles) (block indentless : Bool) :
    Nat → List Token → Option (Node Text × List Token)
  | 0, _ => none
  | fuel + 1, ts =>
    match ts with
    | .alias name :: ts => some (.alias name, ts)
    | ts => do
      let (p, ts) ← properties? handles ts
      match ts with
      | .blockEntry :: _ =>
        if indentless then do
          let (items, ts) ← indentlessItems handles fuel ts
          some (.sequence p items, ts)
        else written p ts
      | .scalar plain text :: ts => some (.scalar p plain text, ts)
      | .flowSequenceStart :: ts => do
        let (items, ts) ← flowItems handles fuel true ts
        some (.sequence p items, ts)
      | .flowMappingStart :: ts => do
        let (entries, ts) ← flowEntries handles fuel true ts
        some (.mapping p entries, ts)
      | .blockSequenceStart :: ts' =>
        if block then do
          let (items, ts) ← blockItems handles fuel ts'
          some (.sequence p items, ts)
        else written p ts
      | .blockMappingStart :: ts' =>
        if block then do
          let (entries, ts) ← blockEntries handles fuel ts'
          some (.mapping p entries, ts)
        else written p ts
      | ts => written p ts
where
  /-- A node that has properties only. -/
  written (p : Properties Text) (ts : List Token) : Option (Node Text × List Token) :=
    if p.anchor.isSome || p.tag.isSome then some (.scalar p true [], ts) else none

/-- A node, or a missing one in front of certain tokens. -/
def orMissing (handles : Handles) (block indentless : Bool) (ends : List Token) :
    Nat → List Token → Option (Node Text × List Token)
  | 0, _ => none
  | fuel + 1, ts =>
    if startsWith ts ends then some (missing, ts) else ofTokens handles block indentless fuel ts

/-- The items of a block sequence, through its end. -/
def blockItems (handles : Handles) : Nat → List Token → Option (List (Node Text) × List Token)
  | 0, _ => none
  | fuel + 1, ts =>
    match ts with
    | .blockEntry :: ts => do
      let (n, ts) ← orMissing handles true false [.blockEntry, .blockEnd] fuel ts
      let (ns, ts) ← blockItems handles fuel ts
      some (n :: ns, ts)
    | .blockEnd :: ts => some ([], ts)
    | _ => none

/-- The items of a sequence at the column of the mapping around it. -/
def indentlessItems (handles : Handles) :
    Nat → List Token → Option (List (Node Text) × List Token)
  | 0, _ => none
  | fuel + 1, ts =>
    match ts with
    | .blockEntry :: ts => do
      let (n, ts) ← orMissing handles true false [.blockEntry, .key, .value, .blockEnd] fuel ts
      let (ns, ts) ← indentlessItems handles fuel ts
      some (n :: ns, ts)
    | ts => some ([], ts)

/-- The value of an entry: what follows a colon, if there is one. -/
def entryValue (handles : Handles) (block : Bool) (ends : List Token) :
    Nat → List Token → Option (Node Text × List Token)
  | 0, _ => none
  | fuel + 1, ts =>
    match ts with
    | .value :: ts => orMissing handles block block ends fuel ts
    | ts => some (missing, ts)

/-- The entries of a block mapping, through its end. -/
def blockEntries (handles : Handles) :
    Nat → List Token → Option (List (Node Text × Node Text) × List Token)
  | 0, _ => none
  | fuel + 1, ts =>
    match ts with
    | .key :: ts => do
      let (k, ts) ← orMissing handles true true [.key, .value, .blockEnd] fuel ts
      let (v, ts) ← entryValue handles true [.key, .value, .blockEnd] fuel ts
      let (es, ts) ← blockEntries handles fuel ts
      some ((k, v) :: es, ts)
    | .blockEnd :: ts => some ([], ts)
    | _ => none

/-- The items of a sequence in brackets, through its end. An item `key: value` is a mapping of
one entry; a key that is missing there takes the token after it along. -/
def flowItems (handles : Handles) :
    Nat → (first : Bool) → List Token → Option (List (Node Text) × List Token)
  | 0, _, _ => none
  | fuel + 1, first, ts => do
    match ts with
    | .flowSequenceEnd :: ts => some ([], ts)
    | ts =>
      let ts ←
        if first then some ts
        else
          match ts with
          | .flowEntry :: ts => some ts
          | _ => none
      match ts with
      | .flowSequenceEnd :: ts => some ([], ts)
      | .key :: ts => do
        let (k, ts) ←
          if startsWith ts [.value, .flowEntry, .flowSequenceEnd] then some (missing, ts.tail)
          else ofTokens handles false false fuel ts
        let (v, ts) ← entryValue handles false [.flowEntry, .flowSequenceEnd] fuel ts
        let (ns, ts) ← flowItems handles fuel false ts
        some (.mapping {} [(k, v)] :: ns, ts)
      | ts => do
        let (n, ts) ← ofTokens handles false false fuel ts
        let (ns, ts) ← flowItems handles fuel false ts
        some (n :: ns, ts)

/-- The entries of a mapping in braces, through its end. A key without a mark has no value. -/
def flowEntries (handles : Handles) :
    Nat → (first : Bool) → List Token → Option (List (Node Text × Node Text) × List Token)
  | 0, _, _ => none
  | fuel + 1, first, ts => do
    match ts with
    | .flowMappingEnd :: ts => some ([], ts)
    | ts =>
      let ts ←
        if first then some ts
        else
          match ts with
          | .flowEntry :: ts => some ts
          | _ => none
      match ts with
      | .flowMappingEnd :: ts => some ([], ts)
      | .key :: ts => do
        let (k, ts) ← orMissing handles false false [.value, .flowEntry, .flowMappingEnd] fuel ts
        let (v, ts) ← entryValue handles false [.flowEntry, .flowMappingEnd] fuel ts
        let (es, ts) ← flowEntries handles fuel false ts
        some ((k, v) :: es, ts)
      | ts => do
        let (k, ts) ← ofTokens handles false false fuel ts
        let (es, ts) ← flowEntries handles fuel false ts
        some ((k, missing) :: es, ts)

end

/-- The directives in front of a document: at most one version, which must be 1.1 or 1.2, and
tag handles, each given once. -/
def directives? : (versioned : Bool) → Handles → List Token → Option (Handles × List Token)
  | versioned, handles, .version major minor :: ts =>
    if versioned || major != 1 || (minor != 1 && minor != 2) then none
    else directives? true handles ts
  | versioned, handles, .tagHandle handle lead :: ts =>
    if (handles.lookup handle).isSome then none
    else directives? versioned ((handle, lead) :: handles) ts
  | _, handles, ts => some (handles, ts)

/-- The root of the only document that the tokens hold; `none` inside for no document. -/
def document? (ts : List Token) : Option (Option (Node Text)) :=
  let fuel := 4 * ts.length + 4
  match ts with
  | [] => some none
  | .version .. :: _ | .tagHandle .. :: _ | .documentStart :: _ => do
    let (handles, ts) ← directives? false [] ts
    match ts with
    | .documentStart :: ts =>
      match ts with
      | [] | .version .. :: _ | .tagHandle .. :: _ | .documentStart :: _ | .documentEnd :: _ =>
        ended missing ts
      | ts => do
        let (n, ts) ← ofTokens (handles ++ defaultHandles) true false fuel ts
        ended n ts
    | _ => none
  | ts => do
    let (n, ts) ← ofTokens defaultHandles true false fuel ts
    ended n ts
where
  /-- Only ends of documents may follow. -/
  ended (n : Node Text) (ts : List Token) : Option (Option (Node Text)) :=
    if ts.all (· == .documentEnd) then some (some n) else none

/-! ## Anchors -/

mutual

/-- Gives anchors and aliases their numbers. A new anchor gets the number of names known so far
as its number, also when its name is known already; an alias needs a name that is known. -/
def numbered? : Node Text → List (Text × Nat) → Option (Node Nat × List (Text × Nat))
  | .alias name, known => (known.lookup name).map fun n => (.alias n, known)
  | .scalar p plain text, known =>
    let (p, known) := numberProperties p known
    some (.scalar p plain text, known)
  | .sequence p items, known => do
    let (p, known) := numberProperties p known
    let (items, known) ← numberedItems? items known
    some (.sequence p items, known)
  | .mapping p entries, known => do
    let (p, known) := numberProperties p known
    let (entries, known) ← numberedEntries? entries known
    some (.mapping p entries, known)
where
  numberProperties (p : Properties Text) (known : List (Text × Nat)) :
      Properties Nat × List (Text × Nat) :=
    match p.anchor with
    | none => (⟨none, p.tag⟩, known)
    | some name =>
      let others := known.filter (·.1 != name)
      (⟨some known.length, p.tag⟩, (name, known.length) :: others)

def numberedItems? :
    List (Node Text) → List (Text × Nat) → Option (List (Node Nat) × List (Text × Nat))
  | [], known => some ([], known)
  | n :: ns, known => do
    let (n, known) ← numbered? n known
    let (ns, known) ← numberedItems? ns known
    some (n :: ns, known)

def numberedEntries? : List (Node Text × Node Text) → List (Text × Nat) →
    Option (List (Node Nat × Node Nat) × List (Text × Nat))
  | [], known => some ([], known)
  | e :: es, known => do
    let (e, known) ← numberedEntry? e known
    let (es, known) ← numberedEntries? es known
    some (e :: es, known)

def numberedEntry? : Node Text × Node Text → List (Text × Nat) →
    Option ((Node Nat × Node Nat) × List (Text × Nat))
  | (k, v), known => do
    let (k, known) ← numbered? k known
    let (v, known) ← numbered? v known
    some ((k, v), known)

end

mutual

/-- The anchored nodes in the order in which they start, the last one first. -/
def anchored (found : List (Nat × Node Nat)) : Node Nat → List (Nat × Node Nat)
  | .alias _ => found
  | .scalar p plain text => noteAnchor p (.scalar p plain text) found
  | .sequence p items => anchoredItems (noteAnchor p (.sequence p items) found) items
  | .mapping p entries => anchoredEntries (noteAnchor p (.mapping p entries) found) entries
where
  noteAnchor (p : Properties Nat) (n : Node Nat) (found : List (Nat × Node Nat)) :
      List (Nat × Node Nat) :=
    match p.anchor with
    | some a => (a, n) :: found
    | none => found

def anchoredItems (found : List (Nat × Node Nat)) : List (Node Nat) → List (Nat × Node Nat)
  | [] => found
  | n :: ns => anchoredItems (anchored found n) ns

def anchoredEntries (found : List (Nat × Node Nat)) :
    List (Node Nat × Node Nat) → List (Nat × Node Nat)
  | [] => found
  | e :: es => anchoredEntries (anchoredEntry found e) es

def anchoredEntry (found : List (Nat × Node Nat)) :
    Node Nat × Node Nat → List (Nat × Node Nat)
  | (k, v) => anchored (anchored found k) v

end

mutual

/-- The number of marks that spell a node: one for a scalar or an alias, two for a collection
and those of its members. -/
def weight : Node Nat → Nat
  | .alias _ => 1
  | .scalar .. => 1
  | .sequence _ items => 2 + weightItems items
  | .mapping _ entries => 2 + weightEntries entries

def weightItems : List (Node Nat) → Nat
  | [] => 0
  | n :: ns => weight n + weightItems ns

def weightEntries : List (Node Nat × Node Nat) → Nat
  | [] => 0
  | e :: es => weightEntry e + weightEntries es

def weightEntry : Node Nat × Node Nat → Nat
  | (k, v) => weight k + weight v

end

end Node
end QuizPages.Yaml
