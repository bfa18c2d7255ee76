import CivilTime.Document.Token

/-!
# Nodes of a document

The tokens of a document form a tree of scalars, sequences and mappings. Blocks are nested by
indentation, flow collections by brackets; what is left out is an empty scalar.

* `Node`, `Label`: the tree; a node may have an anchor and a tag.
* `properties`: the anchor and the tag before a node.
* `node`: one node; `blockItems`, `hyphenItems`, `blockEntries`, `flowItems`, `flowEntries`: the
  contents of collections.
* `rootOf`: the only document of a text, if it has one.
-/

namespace CivilTime.Document

/-- The anchor and the tag of a node; a tag that leaves the choice to the reader is none. -/
structure Label where
  anchor : Option (List Char) := none
  tag : Option (List Char) := none
  deriving DecidableEq

/-- A node. The type of a plain scalar follows from its text, unless a tag says it. -/
inductive Node
  | alias (name : List Char)
  | scalar (label : Label) (text : List Char) (plain : Bool)
  | sequence (label : Label) (items : List Node)
  | mapping (label : Label) (entries : List (Node × Node))

/-- A scalar that is left out. -/
def Node.missing : Node := .scalar {} [] true

/-- An anchor and a tag in either order, and the tokens after them. -/
def properties (ps : Prefixes) : List Token → Except Fault (Label × List Token)
  | .anchor a :: .tag h s :: r => do return (⟨some a, some (← fullTag ps h s)⟩, r)
  | .tag h s :: .anchor a :: r => do return (⟨some a, some (← fullTag ps h s)⟩, r)
  | .anchor a :: r => .ok (⟨some a, none⟩, r)
  | .tag h s :: r => do return (⟨none, some (← fullTag ps h s)⟩, r)
  | r => .ok ({}, r)

/-- The label of a node whose tag is a lone exclamation mark, which says nothing. -/
def Label.settled (l : Label) : Label := if l.tag = some ['!'] then { l with tag := none } else l

/-- A scalar with a label: its text decides about its type if it is plain and has no tag, or if its
tag is a lone exclamation mark. -/
def Node.ofScalar (l : Label) (text : List Char) (plain : Bool) : Node :=
  .scalar l.settled text ((plain && l.tag.isNone) || l.tag == some ['!'])

/-- A scalar that is left out after a label. -/
def Node.omitted (l : Label) : Node := .scalar l.settled [] l.tag.isNone

/-- Whether the next token is one of some tokens. -/
def stopsAt (stops : List Token) (ts : List Token) : Bool := ts.head?.any (· ∈ stops)

/-- The comma that separates the parts of a flow collection, except before the first. -/
def separator (first : Bool) : List Token → Except Fault (List Token)
  | .flowEntry :: r => if first then .error .malformedDocument else .ok r
  | r => if first then .ok r else .error .malformedDocument

mutual

/-- Reads one node. Block collections are only read if `inBlock`; a sequence whose hyphens are not
indented is only read if `hyphens`. -/
def node (ps : Prefixes) :
    (fuel : Nat) → (inBlock hyphens : Bool) → List Token → Except Fault (Node × List Token)
  | 0, _, _, _ => .error .malformedDocument
  | _, _, _, .alias a :: r => .ok (.alias a, r)
  | fuel + 1, inBlock, hyphens, ts => do
    let (label, ts) ← properties ps ts
    match inBlock, hyphens, ts with
    | _, true, .blockEntry :: _ =>
      let (items, r) ← hyphenItems ps fuel ts
      return (.sequence label.settled items, r)
    | _, _, .scalar text plain :: r => return (.ofScalar label text plain, r)
    | _, _, .flowSequenceStart :: r =>
      let (items, r) ← flowItems ps fuel true r
      return (.sequence label.settled items, r)
    | _, _, .flowMappingStart :: r =>
      let (entries, r) ← flowEntries ps fuel true r
      return (.mapping label.settled entries, r)
    | true, _, .blockSequenceStart :: r =>
      let (items, r) ← blockItems ps fuel r
      return (.sequence label.settled items, r)
    | true, _, .blockMappingStart :: r =>
      let (entries, r) ← blockEntries ps fuel r
      return (.mapping label.settled entries, r)
    | _, _, _ => if label = {} then throw .malformedDocument else return (.omitted label, ts)

/-- Reads a node; it is left out if the next token is one of those that stop it. -/
def part (ps : Prefixes) (stops : List Token) :
    (fuel : Nat) → (inBlock hyphens : Bool) → List Token → Except Fault (Node × List Token)
  | 0, _, _, _ => .error .malformedDocument
  | fuel + 1, inBlock, hyphens, ts =>
    if stopsAt stops ts then .ok (.missing, ts) else node ps fuel inBlock hyphens ts

/-- Reads the items of a block sequence. -/
def blockItems (ps : Prefixes) :
    (fuel : Nat) → List Token → Except Fault (List Node × List Token)
  | fuel + 1, .blockEntry :: r => do
    let (x, r) ← part ps [.blockEntry, .blockEnd] fuel true false r
    let (xs, r) ← blockItems ps fuel r
    return (x :: xs, r)
  | _, .blockEnd :: r => .ok ([], r)
  | _, _ => .error .malformedDocument

/-- Reads the items of a sequence whose hyphens are not indented. -/
def hyphenItems (ps : Prefixes) :
    (fuel : Nat) → List Token → Except Fault (List Node × List Token)
  | fuel + 1, .blockEntry :: r => do
    let (x, r) ← part ps [.blockEntry, .key, .value, .blockEnd] fuel true false r
    let (xs, r) ← hyphenItems ps fuel r
    return (x :: xs, r)
  | _, ts => .ok ([], ts)

/-- Reads the entries of a block mapping. -/
def blockEntries (ps : Prefixes) :
    (fuel : Nat) → List Token → Except Fault (List (Node × Node) × List Token)
  | fuel + 1, .key :: r => do
    let (k, r) ← part ps [.key, .value, .blockEnd] fuel true true r
    let (v, r) ← match r with
      | .value :: r => part ps [.key, .value, .blockEnd] fuel true true r
      | _ => pure (.missing, r)
    let (es, r) ← blockEntries ps fuel r
    return ((k, v) :: es, r)
  | _, .blockEnd :: r => .ok ([], r)
  | _, _ => .error .malformedDocument

/-- Reads the items of a flow sequence. -/
def flowItems (ps : Prefixes) :
    (fuel : Nat) → (first : Bool) → List Token → Except Fault (List Node × List Token)
  | 0, _, _ => .error .malformedDocument
  | _, _, .flowSequenceEnd :: r => .ok ([], r)
  | fuel + 1, first, ts => do
    let ts ← separator first ts
    match ts with
    | .flowSequenceEnd :: r => return ([], r)
    | .key :: r =>
      let (x, r) ← pair ps fuel r
      let (xs, r) ← flowItems ps fuel false r
      return (x :: xs, r)
    | _ =>
      let (x, r) ← node ps fuel false false ts
      let (xs, r) ← flowItems ps fuel false r
      return (x :: xs, r)

/-- Reads a single pair in a flow sequence. Where its key is left out, the token that shows this is
passed over. -/
def pair (ps : Prefixes) : (fuel : Nat) → List Token → Except Fault (Node × List Token)
  | 0, _ => .error .malformedDocument
  | fuel + 1, ts => do
    let stops := [.value, .flowEntry, .flowSequenceEnd]
    let (k, r) ← part ps stops fuel false false ts
    let (v, r) ← match (if stopsAt stops ts then r.drop 1 else r) with
      | .value :: r => part ps [.flowEntry, .flowSequenceEnd] fuel false false r
      | r => pure (.missing, r)
    return (.mapping {} [(k, v)], r)

/-- Reads the entries of a flow mapping. -/
def flowEntries (ps : Prefixes) :
    (fuel : Nat) → (first : Bool) → List Token → Except Fault (List (Node × Node) × List Token)
  | 0, _, _ => .error .malformedDocument
  | _, _, .flowMappingEnd :: r => .ok ([], r)
  | fuel + 1, first, ts => do
    let ts ← separator first ts
    match ts with
    | .flowMappingEnd :: r => return ([], r)
    | .key :: r =>
      let (k, r) ← part ps [.value, .flowEntry, .flowMappingEnd] fuel false false r
      let (v, r) ← match r with
        | .value :: r => part ps [.flowEntry, .flowMappingEnd] fuel false false r
        | _ => pure (.missing, r)
      let (es, r) ← flowEntries ps fuel false r
      return ((k, v) :: es, r)
    | _ =>
      let (k, r) ← node ps fuel false false ts
      let (es, r) ← flowEntries ps fuel false r
      return ((k, .missing) :: es, r)

end

/-- Reads the directives before a document and the line that starts it. The version may be given
once, and each handle may be defined once. -/
def directives :
    (versioned : Bool) → Prefixes → List Token → Except Fault (Prefixes × List Token)
  | false, ps, .versionDirective :: r => directives true ps r
  | versioned, ps, .tagDirective h p :: r =>
    if (ps.lookup h).isSome then .error .malformedDocument
    else directives versioned (ps ++ [(h, p)]) r
  | _, ps, .documentStart :: r => .ok (ps ++ corePrefixes, r)
  | _, _, _ => .error .malformedDocument

/-- The root of the only document; none if there is no document. -/
def rootOf (ts : List Token) : Except Fault (Option Node) := do
  let fuel := 3 * ts.length + 3
  match ts with
  | [.streamEnd] => return none
  | .versionDirective :: _ | .tagDirective .. :: _ | .documentStart :: _ =>
    let (ps, r) ← directives false [] ts
    match r with
    | .versionDirective :: _ | .tagDirective .. :: _ | .documentStart :: _ | .documentEnd :: _
    | .streamEnd :: _ => finish .missing r
    | _ =>
      let (x, r) ← node ps fuel true false r
      finish x r
  | _ =>
    let (x, r) ← node corePrefixes fuel true false ts
    finish x r
where
  /-- After the document there may only be lines that end it. -/
  finish (x : Node) (r : List Token) : Except Fault (Option Node) :=
    if r.dropWhile (· == .documentEnd) = [.streamEnd] then .ok (some x)
    else .error .malformedDocument

end CivilTime.Document
