import StageParity.Yaml.Node

/-!
# Merge keys

A merge key brings the pairs of other mappings into its own, before the pairs that the
mapping has itself. Merging changes the nodes of the document, so each mapping is merged
once however many aliases it has, and one that merges itself brings in the pairs that it
has by then.
-/

namespace StageParity.Yaml

/-- The nodes of a document, by their places. -/
abbrev Nodes := Array Node

namespace Nodes

def tagAt (nodes : Nodes) (place : Nat) : Tag := (nodes[place]?.map Node.tag).getD .other

def pairsAt? (nodes : Nodes) (place : Nat) : Option (List (Nat × Nat)) :=
  match nodes[place]?.map Node.content with
  | some (.mapping items) => some items
  | _ => none

def setPairs (nodes : Nodes) (place : Nat) (items : List (Nat × Nat)) : Nodes :=
  nodes.modify place fun node => { node with content := .mapping items }

def setTag (nodes : Nodes) (place : Nat) (tag : Tag) : Nodes :=
  nodes.modify place fun node => { node with tag }

/-- A bound for the steps of a merge, beyond what any document takes. -/
def mergeSteps : Nat := Nat.pow 2 40

mutual

/-- Merge what the merge keys of the mapping at a place ask for, from its pair `index` on.
The pairs in `merged` are those brought in so far. A key that stands for a default value
becomes a text. -/
def merge : (steps : Nat) → Nodes → (place index : Nat) → (merged : List (Nat × Nat)) →
    Except Fault Nodes
  | 0, _, _, _, _ => .error .malformed
  | steps + 1, nodes, place, index, merged => do
    let items := (nodes.pairsAt? place).getD []
    match items[index]? with
    | none => return nodes.setPairs place (merged ++ items)
    | some (key, item) =>
      match nodes.tagAt key with
      | .merge =>
        let (nodes, found) ← source steps (nodes.setPairs place (items.eraseIdx index)) item
        merge steps nodes place index (merged ++ found)
      | .value => merge steps (nodes.setTag key .str) place (index + 1) merged
      | _ => merge steps nodes place (index + 1) merged

/-- The pairs that a merge key brings in. -/
def source : (steps : Nat) → Nodes → (place : Nat) → Except Fault (Nodes × List (Nat × Nat))
  | 0, _, _ => .error .malformed
  | steps + 1, nodes, place =>
    match nodes[place]?.map Node.content with
    | some (.mapping _) => do
      let nodes ← merge steps nodes place 0 []
      return (nodes, (nodes.pairsAt? place).getD [])
    | some (.sequence members) => sources steps nodes members
    | _ => .error .malformed

/-- The pairs of a list of mappings, those of later mappings first. -/
def sources : (steps : Nat) → Nodes → List Nat → Except Fault (Nodes × List (Nat × Nat))
  | 0, _, _ => .error .malformed
  | _ + 1, nodes, [] => .ok (nodes, [])
  | steps + 1, nodes, place :: rest => do
    if (nodes.pairsAt? place).isNone then throw .malformed
    let nodes ← merge steps nodes place 0 []
    let own := (nodes.pairsAt? place).getD []
    let (nodes, others) ← sources steps nodes rest
    return (nodes, others ++ own)

end

def mergedAt (nodes : Nodes) (place : Nat) : Except Fault Nodes :=
  merge mergeSteps nodes place 0 []

end Nodes

end StageParity.Yaml
