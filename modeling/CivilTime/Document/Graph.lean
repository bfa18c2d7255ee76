import CivilTime.Document.Kind
import CivilTime.Document.Node

/-!
# The graph of a document

The nodes of a document are numbered in the order in which they are written, and an alias is the
number of the node whose anchor it names. So a node may belong to several collections, and even to
itself.

* `Vertex`, `Shape`, `Graph`: nodes whose parts are numbers of nodes.
* `Graph.ofNode`: the graph of a node; an alias must name an anchor before it, and no two anchors
  are equal.
* `Graph.scalarText`: the text of a node where a scalar is due.
* `Graph.merge`: a mapping takes over the entries of those that it merges.
-/

namespace CivilTime.Document

/-- What a node is made of; its parts are numbers of nodes. -/
inductive Shape
  | scalar (text : List Char)
  | sequence (items : List Nat)
  /-- The entries, and whether some of them are taken over from other mappings. -/
  | mapping (entries : List (Nat × Nat)) (merged : Bool)
  deriving DecidableEq, Repr

/-- A node whose parts are numbers of nodes. -/
structure Vertex where
  kind : Kind
  shape : Shape
  deriving DecidableEq, Repr

/-- The nodes of a document by their numbers. -/
abbrev Graph := Array Vertex

namespace Graph

/-- The kind of a node. -/
def kind (g : Graph) (v : Nat) : Kind := (g[v]?.map (·.kind)).getD .unknown

/-- The shape of a node. -/
def shape (g : Graph) (v : Nat) : Shape := (g[v]?.map (·.shape)).getD (.scalar [])

/-- The entries of a mapping. -/
def entries (g : Graph) (v : Nat) : List (Nat × Nat) :=
  match g.shape v with
  | .mapping es _ => es
  | _ => []

/-- Another kind for a node. -/
def setKind (g : Graph) (v : Nat) (k : Kind) : Graph := g.modify v fun x => { x with kind := k }

/-- Another shape for a node. -/
def setShape (g : Graph) (v : Nat) (s : Shape) : Graph := g.modify v fun x => { x with shape := s }

/-- Other entries for a mapping. -/
def setEntries (g : Graph) (v : Nat) (es : List (Nat × Nat)) : Graph :=
  match g.shape v with
  | .mapping _ merged => g.setShape v (.mapping es merged)
  | _ => g

/-- More than the number of nodes and than that of the entries of all mappings. -/
def limit (g : Graph) : Nat :=
  g.foldl (fun n x => match x.shape with
    | .mapping es _ => n + es.length
    | _ => n) (g.size + 1)

end Graph

/-! ### Numbering -/

/-- A graph that is being numbered, with the numbers of the anchors. -/
structure Numbering where
  graph : Graph := #[]
  anchors : List (List Char × Nat) := []

namespace Numbering

/-- Adds a node with a label and gives it a number. -/
def add (n : Numbering) (l : Label) (x : Vertex) : Except Fault (Nat × Numbering) :=
  let v := n.graph.size
  match l.anchor with
  | some a =>
    if (n.anchors.lookup a).isSome then .error .malformedDocument
    else .ok (v, ⟨n.graph.push x, (a, v) :: n.anchors⟩)
  | none => .ok (v, { n with graph := n.graph.push x })

/-- The numbering with another shape for a node. -/
def setShape (n : Numbering) (v : Nat) (s : Shape) : Numbering :=
  { n with graph := n.graph.setShape v s }

end Numbering

/-- The kind that the tag of a label names, or another one if it has none. -/
def Label.kind (l : Label) (otherwise : Kind) : Kind := (l.tag.map Kind.ofTag).getD otherwise

mutual

/-- Numbers a node and all nodes in it. -/
def Node.number : Node → Numbering → Except Fault (Nat × Numbering)
  | .alias name, n =>
    match n.anchors.lookup name with
    | some v => .ok (v, n)
    | none => .error .malformedDocument
  | .scalar l text plain, n =>
    n.add l ⟨l.kind (if plain then .ofPlain text else .text), .scalar text⟩
  | .sequence l items, n => do
    let (v, n) ← n.add l ⟨l.kind .sequence, .sequence []⟩
    let (vs, n) ← numberItems items n
    return (v, n.setShape v (.sequence vs))
  | .mapping l entries, n => do
    let (v, n) ← n.add l ⟨l.kind .mapping, .mapping [] false⟩
    let (es, n) ← numberEntries entries n
    return (v, n.setShape v (.mapping es false))

/-- Numbers some nodes. -/
def numberItems : List Node → Numbering → Except Fault (List Nat × Numbering)
  | [], n => .ok ([], n)
  | x :: xs, n => do
    let (v, n) ← x.number n
    let (vs, n) ← numberItems xs n
    return (v :: vs, n)

/-- Numbers the keys and the values of some entries. -/
def numberEntries : List (Node × Node) → Numbering → Except Fault (List (Nat × Nat) × Numbering)
  | [], n => .ok ([], n)
  | (k, x) :: es, n => do
    let (k, n) ← k.number n
    let (v, n) ← x.number n
    let (es, n) ← numberEntries es n
    return ((k, v) :: es, n)

end

namespace Graph

/-- The graph of a node, which has the number 0. -/
def ofNode (x : Node) : Except Fault Graph := do return (← x.number {}).2.graph

/-! ### Scalars -/

/-- The value of the first entry whose key is of a kind. All keys up to it must be readable. -/
def find? (g : Graph) (k : Kind) : List (Nat × Nat) → Except Fault (Option Nat)
  | [] => .ok none
  | e :: es =>
    if g.kind e.1 = .unreadable then .error .invalidValue
    else if g.kind e.1 = k then .ok (some e.2)
    else find? g k es

/-- The text of a node where a scalar is due. A mapping stands for its default entry. With the
number of nodes as fuel, it runs out where an entry is its own mapping. -/
def scalarText (g : Graph) : (fuel : Nat) → Nat → Except Fault (List Char)
  | 0, _ => .error .endlessScalar
  | fuel + 1, v =>
    match g.shape v with
    | .scalar s => .ok s
    | .sequence _ => .error .malformedDocument
    | .mapping es _ => do
      match ← g.find? .defaultEntry es with
      | some v => g.scalarText fuel v
      | none => throw .malformedDocument

/-! ### Merged entries -/

/-- The entries without the first one whose key is of a kind. -/
def eraseFirst (g : Graph) (k : Kind) (es : List (Nat × Nat)) : List (Nat × Nat) :=
  es.eraseP fun e => g.kind e.1 = k

/-- Default keys become texts. -/
def settleKeys (g : Graph) (es : List (Nat × Nat)) : Graph :=
  es.foldl (fun g e => if g.kind e.1 = .defaultEntry then g.setKind e.1 .text else g) g

/-- Ends the merging: the entries that are taken over precede a mapping's own, and its default keys
become texts. -/
def takeOver (g : Graph) (v : Nat) (taken : List (Nat × Nat)) : Graph :=
  match g.shape v with
  | .mapping es merged =>
    (g.settleKeys es).setShape v (.mapping (taken ++ es) (merged || !taken.isEmpty))
  | _ => g

/-- Replaces the merge entries of a mapping by the entries that they name: those of a mapping, or
those of all mappings of a sequence, of which the first ones win. After entries have been taken over
no other merge entry may follow. Every round erases an entry, so the number of entries is fuel
enough. -/
def merge : (fuel : Nat) → (taken : List (Nat × Nat)) → Nat → Graph → Except Fault Graph
  | 0, _, _, g => .ok g
  | fuel + 1, taken, v, g => do
    let es := g.entries v
    match ← g.find? .merge es with
    | none => return g.takeOver v taken
    | some source =>
      if !taken.isEmpty then throw .malformedDocument
      let g := g.setEntries v (g.eraseFirst .merge es)
      match g.shape source with
      | .mapping .. =>
        let g ← merge fuel [] source g
        merge fuel (g.entries source) v g
      | .sequence items =>
        let (lists, g) ← items.foldlM (fun (lists, g) item => do
          match Graph.shape g item with
          | .mapping .. =>
            let g ← merge fuel [] item g
            return (g.entries item :: lists, g)
          | _ => throw .malformedDocument) ([], g)
        merge fuel lists.flatten v g
      | .scalar _ => throw .malformedDocument

end Graph

end CivilTime.Document
