import DocumentNormalizer.Yaml.Layout
import DocumentNormalizer.Yaml.Tag

namespace DocumentNormalizer.Yaml

abbrev NodeId := Nat

inductive Node where
  | scalar (tag : Tag) (text : List CodePoint)
  | sequence (tag : Tag) (items : List NodeId)
  | mapping (tag : Tag) (entries : List (NodeId × NodeId))

def Node.tag : Node → Tag
  | .scalar tag _ | .sequence tag _ | .mapping tag _ => tag

/-- The tokens that are left and what is wrong behind them, what tags and aliases refer to, and the nodes so
far. -/
structure Composer where
  tokens : List Token
  stop : Option LoadFault
  handles : List (String × String)
  anchors : List (String × NodeId)
  nodes : Array Node

/-- Reads nodes off tokens. -/
abbrev Compose := StateT Composer Load

namespace Compose

def fail {α : Type} (fault : Fault) : Compose α := throw (.malformed fault)

/-- The token at hand. What is wrong behind the tokens comes to light where one more is asked for. -/
def current? : Compose (Option Token) := do
  match (← get).tokens, (← get).stop with
  | [], some fault => throw fault
  | tokens, _ => return tokens.head?

def advance : Compose Unit := modify fun composer => { composer with tokens := composer.tokens.tail }

def isAt (tokens : List Token) : Compose Bool := return (← current?).all tokens.contains

def accept (token : Token) : Compose Bool := do
  if (← current?) = some token then
    advance
    return true
  else return false

def expect (token : Token) : Compose Unit := do
  if !(← accept token) then fail .misplacedToken

def add (node : Node) : Compose NodeId :=
  modifyGet fun composer =>
    (composer.nodes.size, { composer with nodes := composer.nodes.push node })

def replace (id : NodeId) (node : Node) : Compose Unit :=
  modify fun composer => { composer with nodes := composer.nodes.setIfInBounds id node }

def addNothing : Compose NodeId := add (.scalar .null [])

/-- The anchor and the tag in front of a node, in either order. -/
def properties : Compose (Option String × Option TagText) := do
  match ← current? with
  | some (.anchor name) =>
    advance
    match ← current? with
    | some (.tag text) =>
      advance
      return (some name, some text)
    | _ => return (some name, none)
  | some (.tag text) =>
    advance
    match ← current? with
    | some (.anchor name) =>
      advance
      return (some name, some text)
    | _ => return (none, some text)
  | _ => return (none, none)

/-- The name of a tag. An exclamation mark alone leaves the choice open. -/
def tagName (text : TagText) : Compose String := do
  match text with
  | .full name => return name
  | .handle handle suffix =>
    match (← get).handles.lookup handle with
    | some expansion => return expansion ++ suffix
    | none => fail (.unknownHandle handle)

def addAnchored (anchor : Option String) (node : Node) : Compose NodeId := do
  match anchor with
  | none => add node
  | some name =>
    if ((← get).anchors.lookup name).isSome then fail (.repeatedAnchor name)
    let id ← add node
    modify fun composer => { composer with anchors := (name, id) :: composer.anchors }
    return id

/-- The tag of a scalar. Plain ones and those with an open tag have it by their spelling. -/
def scalarTag (tag : Option String) (text : List CodePoint) (plain : Bool) : Tag :=
  match tag with
  | some "!" => .ofSpelling text
  | some name => .ofName name
  | none => if plain then .ofSpelling text else .text

def collectionTag (tag : Option String) (default : Tag) : Tag :=
  match tag with
  | none | some "!" => default
  | some name => .ofName name

/-- A sequence. Its anchor may be used among its items. -/
def sequence (anchor tag : Option String) (items : Compose (List NodeId)) : Compose NodeId := do
  let tag := collectionTag tag .list
  let id ← addAnchored anchor (.sequence tag [])
  replace id (.sequence tag (← items))
  return id

/-- A mapping. Its anchor may be used among its entries. -/
def mapping (anchor tag : Option String) (entries : Compose (List (NodeId × NodeId))) :
    Compose NodeId := do
  let tag := collectionTag tag .mapping
  let id ← addAnchored anchor (.mapping tag [])
  replace id (.mapping tag (← entries))
  return id

mutual

/-- A node. Blocks may stand where `block` is set, and sequences without indentation of their own where
`bare` is set as well. -/
def node (block bare : Bool) : Nat → Compose NodeId
  | 0 => fail .misplacedToken
  | bound + 1 => do
    if let some (.reference name) ← current? then
      advance
      match (← get).anchors.lookup name with
      | some id => return id
      | none => fail (.unknownAnchor name)
    let (anchor, text) ← properties
    let tag ← text.mapM tagName
    let unwritten : Compose NodeId :=
      if anchor.isSome || tag.isSome then addAnchored anchor (.scalar (scalarTag tag [] true) [])
      else fail .misplacedToken
    match ← current?, block with
    | some .entry, true => if bare then sequence anchor tag (bareItems bound) else unwritten
    | some (.scalar text plain), _ =>
      advance
      addAnchored anchor (.scalar (scalarTag tag text plain) text)
    | some .openSequence, _ => sequence anchor tag (advance *> flowItems true bound)
    | some .openMapping, _ => mapping anchor tag (advance *> flowEntries true bound)
    | some .blockSequence, true => sequence anchor tag (advance *> blockItems bound)
    | some .blockMapping, true => mapping anchor tag (advance *> blockEntries bound)
    | _, _ => unwritten

/-- A node, or nothing where one of some tokens or the end is at hand. -/
def nodeUnless (stops : List Token) (block bare : Bool) : Nat → Compose NodeId
  | 0 => fail .misplacedToken
  | bound + 1 => do
    if ← isAt stops then addNothing else node block bare bound

/-- The entries of an indented sequence up to its end. -/
def blockItems : Nat → Compose (List NodeId)
  | 0 => fail .misplacedToken
  | bound + 1 => do
    if ← accept .entry then
      let item ← nodeUnless [.entry, .blockEnd] true false bound
      return item :: (← blockItems bound)
    else
      expect .blockEnd
      return []

/-- The entries of a sequence without indentation of its own. -/
def bareItems : Nat → Compose (List NodeId)
  | 0 => fail .misplacedToken
  | bound + 1 => do
    if ← accept .entry then
      let item ← nodeUnless [.entry, .key, .value, .blockEnd] true false bound
      return item :: (← bareItems bound)
    else return []

def valueUnless (stops : List Token) (block : Bool) : Nat → Compose NodeId
  | 0 => fail .misplacedToken
  | bound + 1 => do
    if ← accept .value then nodeUnless stops block block bound else addNothing

def blockEntries : Nat → Compose (List (NodeId × NodeId))
  | 0 => fail .misplacedToken
  | bound + 1 => do
    if ← accept .key then
      let stops := [.key, .value, .blockEnd]
      let key ← nodeUnless stops true true bound
      let value ← valueUnless stops true bound
      return (key, value) :: (← blockEntries bound)
    else
      expect .blockEnd
      return []

/-- The items of a sequence in brackets. An item can be a single entry of a mapping. -/
def flowItems (first : Bool) : Nat → Compose (List NodeId)
  | 0 => fail .misplacedToken
  | bound + 1 => do
    if ← accept .closeSequence then return []
    if !first then expect .comma
    if ← accept .closeSequence then return []
    let item ←
      if ← accept .key then
        mapping none none do
          let key ← nodeUnless [.value, .comma, .closeSequence] false false bound
          return [(key, ← valueUnless [.comma, .closeSequence] false bound)]
      else node false false bound
    return item :: (← flowItems false bound)

def flowEntries (first : Bool) : Nat → Compose (List (NodeId × NodeId))
  | 0 => fail .misplacedToken
  | bound + 1 => do
    if ← accept .closeMapping then return []
    if !first then expect .comma
    if ← accept .closeMapping then return []
    let entry ←
      if ← accept .key then
        let key ← nodeUnless [.value, .comma, .closeMapping] false false bound
        let value ← valueUnless [.comma, .closeMapping] false bound
        pure (key, value)
      else pure (← node false false bound, ← addNothing)
    return entry :: (← flowEntries false bound)

end

/-- The directives in front of a document. Handles are declared once, and the version is one. -/
def directives (versioned : Bool) (declared : List (String × String)) :
    Nat → Compose (List (String × String))
  | 0 => return declared
  | bound + 1 => do
    match ← current? with
    | some (.directive directive) =>
      advance
      match directive with
      | .version major =>
        if versioned || major ≠ 1 then fail .directive
        directives true declared bound
      | .handle handle expansion =>
        if (declared.lookup handle).isSome then fail .directive
        directives versioned ((handle, expansion) :: declared) bound
      | .other => directives versioned declared bound
    | _ => return declared

def markedDocument (bound : Nat) : Compose NodeId := do
  let declared ← directives false [] bound
  modify fun composer => { composer with handles := declared ++ composer.handles }
  expect .documentStart
  match ← current? with
  | some (.directive _) => addNothing
  | _ => nodeUnless [.documentStart, .documentEnd] true false bound

/-- Refuses further documents. The directives of a second one are read before it is refused. -/
def endOnly (bound : Nat) : Compose Unit := do
  match ← current? with
  | none => return
  | some _ =>
    let _ ← directives false [] bound
    expect .documentStart
    fail .severalDocuments

def documentEnds : Nat → Compose Unit
  | 0 => return
  | bound + 1 => do if ← accept .documentEnd then documentEnds bound

/-- The only document of a text, or none in an empty text. -/
def document (bound : Nat) : Compose (Option NodeId) := do
  match ← current? with
  | none => return none
  | some first =>
    let marked := match first with
      | .directive _ | .documentStart => true
      | _ => false
    let root ← if marked then markedDocument bound else node true false bound
    documentEnds bound
    endOnly bound
    return some root

end Compose

structure NodeTable where
  nodes : Array Node
  root : NodeId

def NodeTable.ofText? (text : List Char) : Load (Option NodeTable) := do
  let stream := TokenStream.ofText text
  let composer : Composer :=
    ⟨stream.tokens, stream.stop, [("!", "!"), ("!!", Tag.common)], [], #[]⟩
  let (root, composer) ← (Compose.document (4 * stream.tokens.length + 4)).run composer
  return root.map fun root => ⟨composer.nodes, root⟩

end DocumentNormalizer.Yaml
