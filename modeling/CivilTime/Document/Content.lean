import CivilTime.Document.Graph
import CivilTime.Document.Literal

/-!
# The content of a document

The nodes of a document stand for values. A collection is made empty and filled later, after all
that were made before it, so that nodes may refer to it; only the keys of mappings are made with all
that is in them. The order decides which of several faults is told.

* `Datum`, `Contents`: a value, or the collection of a node; what a collection holds.
* `Building`, `Build`: how far the content is made.
* `make`, `fill`, `fillAll`: makes a node, fills a collection, and fills all that wait.
* `valueOf`: the value of a datum; a collection inside itself stands for an empty one, so that
  values are finite.
* `contentOf`: the value of a text; one without a document has none.
-/

namespace CivilTime.Document

/-! ### What is made of nodes -/

/-- A value, or the collection of the node with a number. -/
inductive Datum
  | plain (v : Value)
  | collection (v : Nat)
  | pair (x y : Datum)
  deriving Repr, Inhabited

/-- What a collection holds. Keys and members do not change, so they are values. -/
inductive Contents
  | sequence (items : List Datum)
  | mapping (entries : List (Value × Datum))
  | set (members : List Value)
  deriving Repr

/-- An empty collection of a kind. -/
def Contents.ofKind : Kind → Contents
  | .mapping | .orderedMapping => .mapping []
  | .set => .set []
  | _ => .sequence []

/-- How far a node is made. -/
inductive Progress
  | waiting
  | underway
  | made (d : Datum)
  deriving Repr

/-- How far the content of a document is made. -/
structure Building where
  graph : Graph
  progress : Array Progress
  contents : Array Contents
  /-- The collections in the order in which they are filled. -/
  queue : Array Nat := #[]
  /-- More than the number of nodes and of entries. -/
  limit : Nat

/-- A step of the making, which may fail. -/
abbrev Build (α : Type) := StateT Building (Except Fault) α

namespace Build

/-- The kind of a node. -/
def kind (v : Nat) : Build Kind := return (← get).graph.kind v

/-- The shape of a node. -/
def shape (v : Nat) : Build Shape := return (← get).graph.shape v

/-- How far a node is made. -/
def progress (v : Nat) : Build Progress := return ((← get).progress[v]?).getD .underway

/-- Notes how far a node is made. -/
def setProgress (v : Nat) (p : Progress) : Build Unit :=
  modify fun b => { b with progress := b.progress.setIfInBounds v p }

/-- What the collection of a node holds. -/
def contents (v : Nat) : Build Contents := return ((← get).contents[v]?).getD (.sequence [])

/-- Fills the collection of a node. -/
def setContents (v : Nat) (c : Contents) : Build Unit :=
  modify fun b => { b with contents := b.contents.setIfInBounds v c }

/-- Leaves a collection to be filled after those that wait. -/
def enqueue (v : Nat) : Build Unit := modify fun b => { b with queue := b.queue.push v }

/-- Lets a mapping take over the entries of those that it merges. -/
def merge (v : Nat) : Build Unit := do
  let b ← get
  let g ← b.graph.merge b.limit [] v
  set { b with graph := g }

/-- The text of a node where a scalar is due. -/
def scalarText (v : Nat) : Build (List Char) := do
  let b ← get
  b.graph.scalarText b.limit v

/-! ### Scalars -/

/-- The value of a node that is no collection. A timestamp is only read from a scalar. An undefined
number is marked with the number of its node, counted from 1. -/
def scalar (v : Nat) : Build Value := do
  match ← kind v, ← shape v with
  | .unreadable, _ => throw .invalidValue
  | .merge, _ | .defaultEntry, _ | .unknown, _ => throw .malformedDocument
  | .timestamp, .scalar s => timestampValue s
  | .timestamp, _ => throw .malformedDocument
  | k, _ => do k.value (v + 1) (← scalarText v)

/-! ### Keys -/

/-- A datum as a part of a key, in which there is no collection. -/
def part? : Datum → Option Value
  | .plain v => some v
  | .pair x y => do return .tuple [← part? x, ← part? y]
  | .collection _ => none

/-- A datum as a key. A sequence becomes a tuple, and none if there is a collection in it; other
collections are refused. -/
def key? : Datum → Build (Option Value)
  | .plain v => return some v
  | .pair x y => return part? (.pair x y)
  | .collection v => do
    match ← contents v with
    | .sequence items => return (items.mapM part?).map .tuple
    | _ => throw .malformedDocument

/-- Whether there is an entry with a key. -/
def hasKey (es : List (Value × Datum)) (k : Value) : Bool := es.any fun e => e.1.sameKey k

/-- Puts an entry before others; where there is one with its key, that one gets its value. -/
def put (es : List (Value × Datum)) (k : Value) (d : Datum) : List (Value × Datum) :=
  if hasKey es k then es.map fun e => if e.1.sameKey k then (e.1, d) else e else (k, d) :: es

/-! ### Collections -/

/-- The entries of a mapping. Keys are made with all that is in them. No two keys are equal, unless
entries are taken over from other mappings. -/
def mappingEntries (make : (deep : Bool) → Nat → Build Datum) (deep : Bool) (v : Nat) :
    Build (List (Value × Datum)) := do
  merge v
  match ← shape v with
  | .mapping entries merged =>
    let es ← entries.foldlM (fun es e => do
      let key ← key? (← make true e.1)
      let d ← make deep e.2
      match key with
      | none => throw .wrongType
      | some k =>
        if !merged && hasKey es k then throw .malformedDocument
        return put es k d) []
    return es.reverse
  | _ => throw .malformedDocument

/-- The items of a sequence. -/
def items (v : Nat) : Build (List Nat) := do
  match ← shape v with
  | .sequence items => return items
  | _ => throw .malformedDocument

/-- The only entry of a mapping. -/
def onlyEntry (v : Nat) : Build (Nat × Nat) := do
  match (← get).graph.entries v with
  | [e] => return e
  | _ => throw .malformedDocument

/-- The entries of an ordered mapping. -/
def orderedEntries (make : (deep : Bool) → Nat → Build Datum) (deep : Bool) (v : Nat) :
    Build (List (Value × Datum)) := do
  let es ← (← items v).foldlM (fun es item => do
    let e ← onlyEntry item
    match ← make deep e.1 with
    | .plain k =>
      if hasKey es k then throw .repeatedOrderedKey
      return (k, ← make deep e.2) :: es
    | _ => throw .wrongType) []
  return es.reverse

/-- The pairs of a sequence of pairs. -/
def pairItems (make : (deep : Bool) → Nat → Build Datum) (deep : Bool) (v : Nat) :
    Build (List Datum) := do
  (← items v).mapM fun item => do
    let e ← onlyEntry item
    let x ← make deep e.1
    return .pair x (← make deep e.2)

/-- Fills the collection of a node. Its parts are made by `make`. -/
def fill (make : (deep : Bool) → Nat → Build Datum) (deep : Bool) (v : Nat) : Build Unit := do
  match ← kind v with
  | .mapping => setContents v (.mapping (← mappingEntries make deep v))
  | .set => setContents v (.set ((← mappingEntries make deep v).map (·.1)))
  | .orderedMapping => setContents v (.mapping (← orderedEntries make deep v))
  | .pairs => setContents v (.sequence (← pairItems make deep v))
  | _ => setContents v (.sequence (← (← items v).mapM (make deep)))

/-- Makes a node. Where `deep` is set, collections are filled at once; a node inside itself is null
then. Every round is inside a node that is underway, so the number of nodes is fuel enough. -/
def make : (fuel : Nat) → (deep : Bool) → Nat → Build Datum
  | 0, _, _ => return .plain .null
  | fuel + 1, deep, v => do
    match ← progress v with
    | .made d => return d
    | .underway => return .plain .null
    | .waiting =>
      setProgress v .underway
      let k ← kind v
      let d ← if k.isCollection then do
          setContents v (.ofKind k)
          if deep then fill (make fuel) true v else enqueue v
          pure (Datum.collection v)
        else do pure (Datum.plain (← scalar v))
      setProgress v (.made d)
      return d

/-- Fills the collections of the queue from a place on. -/
def fillAll : (fuel : Nat) → (place : Nat) → Build Unit
  | 0, _ => return
  | fuel + 1, place => do
    let b ← get
    match b.queue[place]? with
    | none => return
    | some v => do
      fill (make b.limit) false v
      fillAll fuel (place + 1)

/-- Makes the node with the number 0 and all that is in it. -/
def root : Build Datum := do
  let limit := (← get).limit
  let d ← make limit false 0
  fillAll limit 0
  return d

end Build

/-! ### Values -/

/-- A collection as a value, when its items are values. -/
def Contents.value : Contents → List Value → Value
  | .sequence _, vs => .sequence vs
  | .mapping es, vs => .mapping ((es.map (·.1)).zip vs)
  | .set members, _ => .set members

/-- The data that a collection holds. -/
def Contents.data : Contents → List Datum
  | .sequence items => items
  | .mapping es => es.map (·.2)
  | .set _ => []

/-- The value of a datum, with the values of collections that are known. While the value of a
collection is sought, the empty one is known. Every second round is inside another collection. -/
def valueOf (contents : Array Contents) :
    (fuel : Nat) → Datum → StateM (Array (Option Value)) Value
  | _, .plain v => return v
  | 0, _ => return .null
  | fuel + 1, .pair x y => do
    let x ← valueOf contents fuel x
    return .tuple [x, ← valueOf contents fuel y]
  | fuel + 1, .collection n => do
    match ((← get)[n]?).join with
    | some v => return v
    | none =>
      let c := (contents[n]?).getD (.sequence [])
      modify fun known => known.setIfInBounds n (some (c.value []))
      let v := c.value (← c.data.mapM (valueOf contents fuel))
      modify fun known => known.setIfInBounds n (some v)
      return v

/-- The value of a graph. -/
def Graph.value (g : Graph) : Except Fault Value := do
  let start : Building :=
    { graph := g
      progress := .replicate g.size .waiting
      contents := .replicate g.size (.sequence [])
      limit := g.limit }
  let (d, b) ← Build.root start
  return (valueOf b.contents (2 * g.limit) d (.replicate g.size none)).1

/-- The value of a text. -/
def contentOf (text : String) : Except Fault Value := do
  match ← rootOf (← tokensOf text.toList) with
  | none => return .null
  | some x => (← Graph.ofNode x).value

end CivilTime.Document
