import StageParity.Yaml.Binary
import StageParity.Yaml.Date
import StageParity.Yaml.Merge

/-!
# Documents

The value of a document. Scalars get their values as they are come upon; a collection is
only noted, and filled after those that were noted before it. So the fault of a document
with several is the one closest to the root, and a collection may be part of itself.
-/

namespace StageParity.Yaml

/-- A key with the place of the node that it comes from. -/
structure Key where
  value : Value
  place : Nat
  /-- Whether it is the word for what is not a number, which is one key wherever it stands. -/
  isNanWord : Bool

namespace Key

/-- Whether two keys are the same. What is not a number differs from itself unless it
comes from one node or from its word. -/
def same (a b : Key) : Bool :=
  a.value.sameKey b.value || (a.isNanWord && b.isNanWord) ||
    match a.value, b.value with
    | .float x, .float y => x.isNaN && y.isNaN && a.place == b.place
    | _, _ => false

/-- Pairs with one more put in. A key that is there keeps its place and its form. -/
def insert (items : List (Key × Nat)) (key : Key) (item : Nat) : List (Key × Nat) :=
  if items.any fun pair => pair.1.same key then
    items.map fun pair => if pair.1.same key then (pair.1, item) else pair
  else items ++ [(key, item)]

end Key

/-- What is known of the value of a node. -/
inductive Part where
  | scalar (value : Value)
  | noted
  | list (items : List Nat)
  | pairs (items : List (Nat × Nat))
  | map (items : List (Key × Nat))
  | set (members : List Key)

/-- A document in the making. -/
structure Site where
  nodes : Nodes
  parts : Array (Option Part)
  /-- The collections in the order in which they are filled. -/
  queue : Array Nat

abbrev Building := StateT Site (Except Fault)

namespace Building

def reject {α : Type} : Building α := throw .malformed

def setPart (place : Nat) (part : Part) : Building Unit :=
  modify fun s => { s with parts := s.parts.setIfInBounds place (some part) }

def bool (t : Text) : Except Fault Bool :=
  match Form.boolWords.find? fun entry => Text.ofString entry.1 == t.small with
  | some entry => .ok entry.2
  | none => .error (.unknownBool t.small)

/-- The text of the node at a place, which should be a scalar. A mapping may give its text
under the default key. -/
def scalarText (nodes : Nodes) : (fuel : Nat) → (place : Nat) → Except Fault Text
  | 0, _ => .error .endless
  | fuel + 1, place =>
    match nodes[place]?.map Node.content with
    | some (.scalar text) => .ok text
    | some (.mapping items) =>
      match items.find? fun pair => nodes.tagAt pair.1 == .value with
      | some pair => scalarText nodes fuel pair.2
      | none => .error .malformed
    | _ => .error .malformed

def isScalar (nodes : Nodes) (place : Nat) : Bool :=
  match nodes[place]?.map Node.content with
  | some (.scalar _) => true
  | _ => false

def scalar? (nodes : Nodes) (place : Nat) : Except Fault (Option Value) := do
  let text := scalarText nodes (nodes.size + 1) place
  match nodes.tagAt place with
  | .null =>
    let _ ← text
    return some .null
  | .bool => return some (.bool (← bool (← text)))
  | .int => return some (.int (← Number.ofScalar (← text)))
  | .float => return some (.float (← Number.floatOfScalar (← text)))
  | .str => return some (.text (← text))
  | .binary => return some (.binary (← Binary.ofScalar (← text)))
  | .timestamp =>
    let found ← text
    if isScalar nodes place then return some (← Date.ofScalar found) else throw .datelessMapping
  | .seq | .map | .set | .omap | .pairs => return none
  | .merge | .value | .other => throw .malformed

/-- Come upon the node at a place: give a scalar its value, and note a collection. -/
def meet (place : Nat) : Building Unit := do
  let s ← get
  if ((s.parts[place]?).bind id).isNone then
    match ← scalar? s.nodes place with
    | some value => setPart place (.scalar value)
    | none =>
      setPart place .noted
      modify fun s => { s with queue := s.queue.push place }

def key (place : Nat) : Building Key := do
  meet place
  let s ← get
  match (s.parts[place]?).bind id with
  | some (.scalar value) =>
    let word := s.nodes.tagAt place == .float &&
      match scalarText s.nodes (s.nodes.size + 1) place with
      | .ok text => Number.isNanWord text
      | .error _ => false
    return ⟨value, place, word⟩
  | _ => reject

def keyed : (items : List (Nat × Nat)) → (found : List (Key × Nat)) → Building (List (Key × Nat))
  | [], found => return found
  | (left, right) :: rest, found => do
    let left ← key left
    meet right
    keyed rest (Key.insert found left right)

def pairsOf (place : Nat) : Building (List (Key × Nat)) := do
  let s ← get
  if (s.nodes.pairsAt? place).isNone then reject
  let nodes ← s.nodes.mergedAt place
  set { s with nodes }
  keyed ((nodes.pairsAt? place).getD []) []

def membersOf (place : Nat) : Building (List Nat) := do
  match (← get).nodes[place]?.map Node.content with
  | some (.sequence items) => return items
  | _ => reject

def onlyPair (place : Nat) : Building (Nat × Nat) := do
  match (← get).nodes.pairsAt? place with
  | some [(left, right)] =>
    meet left
    meet right
    return (left, right)
  | _ => reject

def fill (place : Nat) : Building Unit := do
  match (← get).nodes.tagAt place with
  | .seq =>
    let items ← membersOf place
    items.forM meet
    setPart place (.list items)
  | .map => setPart place (.map (← pairsOf place))
  | .set => setPart place (.set ((← pairsOf place).map Prod.fst))
  | .omap | .pairs => setPart place (.pairs (← (← membersOf place).mapM onlyPair))
  | _ => reject

/-- Fill the collections from one in the queue on. No node is noted twice. -/
def fillFrom : (fuel : Nat) → (index : Nat) → Building Unit
  | 0, _ => return
  | fuel + 1, index => do
    match (← get).queue[index]? with
    | some place =>
      fill place
      fillFrom fuel (index + 1)
    | none => return

end Building

namespace Site

/-- The value of the node at a place, which is part of the nodes `above`. -/
def value (s : Site) : (fuel : Nat) → (above : List Nat) → (place : Nat) → Value
  | 0, _, _ => .knot
  | fuel + 1, above, place =>
    if above.contains place then .knot
    else
      let inner := s.value fuel (place :: above)
      match (s.parts[place]?).bind id with
      | some (.scalar value) => value
      | some (.list items) => .list (items.map inner)
      | some (.pairs items) => .list (items.map fun pair => .list [inner pair.1, inner pair.2])
      | some (.map items) => .map (items.map fun pair => (pair.1.value, inner pair.2))
      | some (.set members) => .set (members.map Key.value)
      | some .noted | none => .knot

end Site

def Graph.value (graph : Graph) : Except Fault Value := do
  let size := graph.nodes.size
  let building := do
    Building.meet graph.root
    Building.fillFrom size 0
  let ((), site) ← building.run ⟨graph.nodes, Array.replicate size none, #[]⟩
  return site.value (size + 1) [] graph.root

def read (text : List Char) : Except Fault Value := do
  match ← compose text with
  | none => return .null
  | some graph => graph.value

end StageParity.Yaml
