import DocumentNormalizer.Yaml.Atom
import DocumentNormalizer.Yaml.Node

namespace DocumentNormalizer.Yaml

/-- What a node stands for. Objects refer to each other by their nodes. -/
inductive Object where
  | atom (atom : Atom)
  | list (items : List NodeId)
  | pairs (count : Nat)
  | mapping (entries : List (NodeId × NodeId))
  | set (members : List NodeId)

/-- The nodes, the objects built so far, and the nodes of those that are to be filled, in order. -/
structure Construction where
  nodes : Array Node
  objects : Array (Option Object)
  waiting : List NodeId

abbrev Construct := StateT Construction Load

namespace Construct

def fail {α : Type} (fault : Fault) : Construct α := throw (.malformed fault)

def node (id : NodeId) : Construct Node := return (← get).nodes[id]?.getD (.scalar .null [])

def entries (id : NodeId) : Construct (List (NodeId × NodeId)) := do
  match ← node id with
  | .mapping _ entries => return entries
  | _ => return []

def replace (id : NodeId) (node : Node) : Construct Unit :=
  modify fun state => { state with nodes := state.nodes.setIfInBounds id node }

def setEntries (id : NodeId) (entries : List (NodeId × NodeId)) : Construct Unit := do
  if let .mapping tag _ ← node id then replace id (.mapping tag entries)

def store (id : NodeId) (object : Object) : Construct Object := do
  modify fun state => { state with objects := state.objects.setIfInBounds id (some object) }
  return object

def storeEmpty (id : NodeId) (object : Object) : Construct Object := do
  modify fun state => { state with waiting := state.waiting ++ [id] }
  store id object

/-- Takes the first entry that merges something in out of a mapping, and tells what. -/
def takeMerge? (id : NodeId) : Construct (Option NodeId) := do
  let entries ← entries id
  let nodes := (← get).nodes
  match entries.findIdx? fun (key, _) => (nodes[key]?.map Node.tag) = some .merge with
  | none => return none
  | some place =>
    setEntries id (entries.eraseIdx place)
    return entries[place]?.map (·.2)

/-- Makes the keys of a mapping that stand for its value into texts. -/
def plainKeys (id : NodeId) : Construct Unit := do
  for (key, _) in ← entries id do
    match ← node key with
    | .scalar .value text => replace key (.scalar .text text)
    | .sequence .value items => replace key (.sequence .text items)
    | .mapping .value entries => replace key (.mapping .text entries)
    | _ => pure ()

/-- The entries that a mapping, or the mappings in a sequence, bring with them. Those of later mappings
come first. -/
def merged (flatten : NodeId → Construct Unit) (id : NodeId) :
    Construct (List (NodeId × NodeId)) := do
  let ofMapping (id : NodeId) : Construct (List (NodeId × NodeId)) := do
    match ← node id with
    | .mapping _ _ =>
      flatten id
      entries id
    | _ => fail .unmergeable
  match ← node id with
  | .sequence _ items => return (← items.mapM ofMapping).reverse.flatten
  | _ => ofMapping id

/-- Puts what is merged into a mapping before its own entries. Each step takes an entry out of some
mapping, so the number of all entries is a sufficient bound. -/
def flatten : Nat → NodeId → Construct Unit
  | 0, _ => pure ()
  | bound + 1, id => do
    match ← takeMerge? id with
    | none => plainKeys id
    | some source =>
      let before ← merged (flatten bound) source
      flatten bound id
      setEntries id (before ++ (← entries id))

def entryCount : Construct Nat := do
  return ((← get).nodes.toList.map fun
    | .mapping _ entries => entries.length
    | _ => 0).foldl (· + ·) 0

/-- The text that a node has under a tag: its own, or the one that the first value key of a mapping leads
to. A way that is longer than the number of nodes is endless. -/
def textUnder (tag : Tag) : Nat → NodeId → Construct (List CodePoint)
  | 0, _ => throw (.misfit .endless)
  | bound + 1, id => do
    let nodes := (← get).nodes
    match ← node id with
    | .scalar _ text => return text
    | .sequence _ _ => fail (.unfitTag tag.name)
    | .mapping _ entries =>
      match entries.find? fun (key, _) => (nodes[key]?.map Node.tag) = some .value with
      | some (_, value) => textUnder tag bound value
      | none => fail (.unfitTag tag.name)

def atom (id : NodeId) (node : Node) : Construct Atom := do
  let text ← textUnder node.tag ((← get).nodes.size + 1) id
  match node with
  | .scalar tag _ => Atom.ofText tag text
  | .sequence tag _ | .mapping tag _ =>
    if tag = .timestamp then throw (.misfit .collectionAsTimestamp)
    Atom.ofText tag text

def object (id : NodeId) : Construct Object := do
  if let some object := (← get).objects[id]?.join then return object
  let node ← node id
  match node.tag with
  | .list => storeEmpty id (.list [])
  | .pairs | .orderedPairs => storeEmpty id (.pairs 0)
  | .mapping => storeEmpty id (.mapping [])
  | .set => storeEmpty id (.set [])
  | .merge | .value | .other _ => fail (.unknownTag node.tag.name)
  | _ => store id (.atom (← atom id node))

def keyAtom (id : NodeId) : Construct Atom := do
  match ← object id with
  | .atom atom => return atom
  | _ => fail .collectionAsKey

/-- The keys and values of a mapping, with all that is merged into it. -/
def filledEntries (id : NodeId) : Construct (List (NodeId × NodeId)) := do
  let node ← node id
  match node with
  | .mapping _ _ =>
    flatten ((← entryCount) + 1) id
    let entries ← entries id
    for (key, value) in entries do
      let _ ← keyAtom key
      let _ ← object value
    return entries
  | _ => fail (.unfitTag node.tag.name)

def distinct (keys : List NodeId) : Construct (List NodeId) := do
  let members ← keys.foldlM (fun members key => do
    let atom ← keyAtom key
    let known := members.any fun (other, each) => other = key || each.isSame atom
    return if known then members else (key, atom) :: members) []
  return (members.map (·.1)).reverse

/-- Builds the key and the value of a mapping with a single entry. -/
def pair (id : NodeId) : Construct Unit := do
  match ← entries id with
  | [(key, value)] =>
    let _ ← object key
    let _ ← object value
  | _ => fail (.unfitTag Tag.pairs.name)

def fill (id : NodeId) : Construct Unit := do
  let node ← node id
  let full ← match node.tag, node with
    | .mapping, _ => pure (.mapping (← filledEntries id))
    | .set, _ => pure (.set (← distinct ((← filledEntries id).map (·.1))))
    | .list, .sequence _ items =>
      items.forM fun item => discard (object item)
      pure (.list items)
    | _, .sequence _ items =>
      items.forM pair
      pure (.pairs items.length)
    | tag, _ => fail (.unfitTag tag.name)
  discard (store id full)

/-- Fills objects until none is left. Each round fills what the one before it found, and no node is
found twice, so the number of nodes is a sufficient bound. -/
def fillAll : Nat → Construct Unit
  | 0 => pure ()
  | bound + 1 => do
    match (← get).waiting with
    | [] => pure ()
    | waiting =>
      modify fun state => { state with waiting := [] }
      waiting.forM fill
      fillAll bound

end Construct

def NodeTable.objects (table : NodeTable) : Load (Array (Option Object)) := do
  let size := table.nodes.size
  let build : Construct Unit := do
    let _ ← Construct.object table.root
    Construct.fillAll (size + 1)
  let (_, state) ← build.run ⟨table.nodes, .replicate size none, []⟩
  return state.objects

/-- A value. Scalars that are neither texts nor bytes and what is too far from the root are not told
apart. Where a mapping has a key twice, the last entry counts. -/
inductive Value where
  | null
  | text (text : List CodePoint)
  | bytes (content : ByteArray)
  | other
  | list (items : List Value)
  | mapping (entries : List (Value × Value))
deriving Inhabited

namespace Value

def ofAtom : Atom → Value
  | .null => .null
  | .text points => .text points
  | .bytes content => .bytes ⟨content.toArray⟩
  | .number _ | .date _ | .moment _ _ => .other

def ofObject (objects : Array (Option Object)) : Nat → NodeId → Value
  | 0, _ => .other
  | depth + 1, id =>
    match objects[id]?.join with
    | none => .other
    | some (.atom atom) => ofAtom atom
    | some (.list items) | some (.set items) => .list (items.map (ofObject objects depth))
    | some (.pairs count) => .list (List.replicate count (.list []))
    | some (.mapping entries) =>
      .mapping (entries.map fun (key, value) =>
        (ofObject objects depth key, ofObject objects depth value))

/-- How far from the root values are told apart: the root, what is in it, and what is in that. -/
def depth : Nat := 3

/-- The value of a text. An empty text stands for nothing. -/
def ofText (text : String) : Load Value := do
  match ← NodeTable.ofText? text.toList with
  | none => return .null
  | some table => return ofObject (← table.objects) depth table.root

def field? (name : String) (entries : List (Value × Value)) : Option Value :=
  let points := Text.points name.toList
  (entries.reverse.find? fun
    | (.text key, _) => key = points
    | _ => false).map (·.2)

end Value

end DocumentNormalizer.Yaml
