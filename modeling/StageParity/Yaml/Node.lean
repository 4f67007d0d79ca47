import StageParity.Yaml.Tag

/-!
# Nodes

The tokens of a text as scalars, sequences and mappings with tags. A document is a graph:
its nodes have places, collections hold the places of their parts, and an alias is the
place of the node with its anchor, which may be one that the alias is part of.
-/

namespace StageParity.Yaml

inductive Content where
  | scalar (text : Text)
  | sequence (items : List Nat)
  | mapping (items : List (Nat × Nat))

structure Node where
  tag : Tag
  content : Content

instance : Inhabited Node := ⟨.null, .scalar []⟩

structure Composer where
  source : TokenStream
  nodes : Array Node
  anchors : List (List Char × Nat)
  handles : List (List Char × Text)

abbrev Compose := StateT Composer (Except Fault)

namespace Compose

def reject {α : Type} : Compose α := throw .malformed

/-- The next token. A fault in the text is found when the tokens before it are used up. -/
def peek : Compose Token := do
  let source := (← get).source
  match source.tokens with
  | token :: _ => return token
  | [] => throw (source.fault.getD .malformed)

def next : Compose Unit :=
  modify fun s => { s with source := { s.source with tokens := s.source.tokens.tail } }

def standardHandles : List (List Char × Text) :=
  [(['!'], [.char '!']), (['!', '!'], Text.ofString Tag.standard)]

def add (node : Node) : Compose Nat :=
  modifyGet fun s => (s.nodes.size, { s with nodes := s.nodes.push node })

def setContent (place : Nat) (content : Content) : Compose Unit :=
  modify fun s => { s with nodes := s.nodes.modify place fun node => { node with content } }

def missing : Compose Nat := add ⟨.null, .scalar []⟩

def properties : Compose (Option (List Char) × Option TagName) := do
  match ← peek with
  | .anchor name =>
    next
    match ← peek with
    | .tag tag => next; return (some name, some tag)
    | _ => return (some name, none)
  | .tag tag =>
    next
    match ← peek with
    | .anchor name => next; return (some name, some tag)
    | _ => return (none, some tag)
  | _ => return (none, none)

def tagName (tag : TagName) : Compose Text := do
  match tag.handle with
  | none => return tag.suffix
  | some handle =>
    match (← get).handles.lookup handle with
    | some meaning => return meaning ++ tag.suffix
    | none => reject

/-- Give a node a place and its anchor, if it has one. No two nodes share an anchor. -/
def anchored (anchor : Option (List Char)) (node : Node) : Compose Nat := do
  match anchor with
  | none => add node
  | some name =>
    if (← get).anchors.any fun entry => entry.1 == name then reject
    let place ← add node
    modify fun s => { s with anchors := (name, place) :: s.anchors }
    return place

def collectionTag (written : Option Text) (plain : Tag) : Tag :=
  match written with
  | none => plain
  | some name => if name = [.char '!'] then plain else Tag.ofName name

def scalarTag (written : Option Text) (implicit : Bool) (text : Text) : Tag :=
  match written with
  | none => if implicit then Tag.ofForm text else .str
  | some name => if name = [.char '!'] then Tag.ofForm text else Tag.ofName name

mutual

/-- The place of the node at the next token. In a block, block collections may stand here;
a list that is not indented may where `loose` says so. -/
def node (block loose : Bool) : (fuel : Nat) → Compose Nat
  | 0 => reject
  | fuel + 1 => do
    if let .alias_ name ← peek then
      next
      match (← get).anchors.lookup name with
      | some place => return place
      | none => reject
    else
      let (anchor, tag) ← properties
      let written ← tag.mapM tagName
      content block loose anchor written fuel

def content (block loose : Bool) (anchor : Option (List Char)) (written : Option Text) :
    (fuel : Nat) → Compose Nat
  | 0 => reject
  | fuel + 1 => do
    let sequence := (⟨collectionTag written .seq, .sequence []⟩ : Node)
    let mapping := (⟨collectionTag written .map, .mapping []⟩ : Node)
    let empty : Compose Nat :=
      if anchor.isSome || written.isSome then
        anchored anchor ⟨scalarTag written true [], .scalar []⟩
      else reject
    match ← peek with
    | .entry =>
      if loose then
        let place ← anchored anchor sequence
        setContent place (.sequence (← looseEntries fuel))
        return place
      else empty
    | .scalar text plain =>
      next
      anchored anchor ⟨scalarTag written plain text, .scalar text⟩
    | .flowSequence =>
      let place ← anchored anchor sequence
      next
      setContent place (.sequence (← flowEntries true fuel))
      return place
    | .flowMapping =>
      let place ← anchored anchor mapping
      next
      setContent place (.mapping (← flowPairs true fuel))
      return place
    | .blockSequence =>
      if block then
        let place ← anchored anchor sequence
        next
        setContent place (.sequence (← blockEntries fuel))
        return place
      else empty
    | .blockMapping =>
      if block then
        let place ← anchored anchor mapping
        next
        setContent place (.mapping (← blockPairs fuel))
        return place
      else empty
    | _ => empty

def blockEntries : (fuel : Nat) → Compose (List Nat)
  | 0 => reject
  | fuel + 1 => do
    match ← peek with
    | .entry =>
      next
      let item ← match ← peek with
        | .entry | .blockEnd => missing
        | _ => node true false fuel
      return item :: (← blockEntries fuel)
    | .blockEnd => next; return []
    | _ => reject

/-- The entries of a list that is not indented; whatever follows ends it. -/
def looseEntries : (fuel : Nat) → Compose (List Nat)
  | 0 => reject
  | fuel + 1 => do
    match ← peek with
    | .entry =>
      next
      let item ← match ← peek with
        | .entry | .key | .value | .blockEnd => missing
        | _ => node true false fuel
      return item :: (← looseEntries fuel)
    | _ => return []

def blockPairs : (fuel : Nat) → Compose (List (Nat × Nat))
  | 0 => reject
  | fuel + 1 => do
    match ← peek with
    | .key =>
      next
      let key ← match ← peek with
        | .key | .value | .blockEnd => missing
        | _ => node true true fuel
      let item ← match ← peek with
        | .value =>
          next
          match ← peek with
          | .key | .value | .blockEnd => missing
          | _ => node true true fuel
        | _ => missing
      return (key, item) :: (← blockPairs fuel)
    | .blockEnd => next; return []
    | _ => reject

/-- The entries of a list in brackets. A pair without braces is a mapping. -/
def flowEntries (first : Bool) : (fuel : Nat) → Compose (List Nat)
  | 0 => reject
  | fuel + 1 => do
    match ← peek with
    | .flowSequenceEnd => next; return []
    | _ =>
      if !first then
        match ← peek with
        | .flowEntry => next
        | _ => reject
      match ← peek with
      | .flowSequenceEnd => next; return []
      | .key =>
        let pair ← add ⟨.map, .mapping []⟩
        next
        let key ← match ← peek with
          | .value | .flowEntry | .flowSequenceEnd => missing
          | _ => node false false fuel
        let item ← match ← peek with
          | .value =>
            next
            match ← peek with
            | .flowEntry | .flowSequenceEnd => missing
            | _ => node false false fuel
          | _ => missing
        setContent pair (.mapping [(key, item)])
        return pair :: (← flowEntries false fuel)
      | _ =>
        let item ← node false false fuel
        return item :: (← flowEntries false fuel)

def flowPairs (first : Bool) : (fuel : Nat) → Compose (List (Nat × Nat))
  | 0 => reject
  | fuel + 1 => do
    match ← peek with
    | .flowMappingEnd => next; return []
    | _ =>
      if !first then
        match ← peek with
        | .flowEntry => next
        | _ => reject
      match ← peek with
      | .flowMappingEnd => next; return []
      | .key =>
        next
        let key ← match ← peek with
          | .value | .flowEntry | .flowMappingEnd => missing
          | _ => node false false fuel
        let item ← match ← peek with
          | .value =>
            next
            match ← peek with
            | .flowEntry | .flowMappingEnd => missing
            | _ => node false false fuel
          | _ => missing
        return (key, item) :: (← flowPairs false fuel)
      | _ =>
        let key ← node false false fuel
        return (key, ← missing) :: (← flowPairs false fuel)

end

def directives : (fuel : Nat) → (versioned : Bool) → (handles : List (List Char × Text)) →
    Compose (List (List Char × Text))
  | 0, _, _ => reject
  | fuel + 1, versioned, handles => do
    match ← peek with
    | .directive line =>
      next
      match line with
      | .version major _ =>
        if versioned || major != 1 then reject else directives fuel true handles
      | .tag handle meaning =>
        if handles.any fun entry => entry.1 == handle then reject
        else directives fuel versioned ((handle, meaning) :: handles)
      | .other => directives fuel versioned handles
    | _ => return handles

def skipEnds : (fuel : Nat) → Compose Unit
  | 0 => return
  | fuel + 1 => do
    match ← peek with
    | .documentEnd => next; skipEnds fuel
    | _ => return

/-- The place of the root of the only document of a text; nothing when the text has none.
The directives of a second document are read before it is refused. -/
def document (fuel : Nat) : Compose (Option Nat) := do
  let root ← match ← peek with
    | .streamEnd => pure none
    | .directive _ | .documentStart => do
      let handles ← directives fuel false []
      match ← peek with
      | .documentStart => next
      | _ => reject
      modify fun s => { s with handles := handles ++ standardHandles }
      match ← peek with
      | .directive _ | .documentStart | .documentEnd | .streamEnd => some <$> missing
      | _ => some <$> node true false fuel
    | _ => some <$> node true false fuel
  skipEnds fuel
  match ← peek with
  | .streamEnd => return root
  | _ =>
    let _ ← directives fuel false []
    let _ ← peek
    reject

end Compose

/-- A document: its nodes by their places, and the place of its root. -/
structure Graph where
  nodes : Array Node
  root : Nat

/-- The document of a text; nothing when the text holds none. -/
def compose (text : List Char) : Except Fault (Option Graph) := do
  let source := tokens text
  let (root, s) ← (Compose.document (4 * source.tokens.length + 8)).run
    ⟨source, #[], [], Compose.standardHandles⟩
  return root.map fun place => ⟨s.nodes, place⟩

end StageParity.Yaml
