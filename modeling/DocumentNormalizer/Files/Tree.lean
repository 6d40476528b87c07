import DocumentNormalizer.Files.Path

namespace DocumentNormalizer

inductive FileTree where
  | file (content : ByteArray)
  | directory (entries : List (FileName × FileTree))

/-- A place in a tree: the names on the way there from the root. -/
abbrev Address := List FileName

/-- The place that a step leads to. Nothing is above the root. -/
def Step.apply (place : Address) : Step → Address
  | .up => place.dropLast
  | .down name => place ++ [name]

namespace FileTree

def isDirectory : FileTree → Bool
  | .directory _ => true
  | .file _ => false

def bytes? : FileTree → Option ByteArray
  | .file content => some content
  | .directory _ => none

def child? (name : FileName) : FileTree → Option FileTree
  | .file _ => none
  | .directory entries => entries.lookup name

def at? (tree : FileTree) : Address → Option FileTree
  | [] => some tree
  | name :: rest =>
    match tree.child? name with
    | none => none
    | some inner => inner.at? rest

/-- Changes the entry under a name, or adds one behind the others. -/
def alter (change : Option FileTree → FileTree) (name : FileName) :
    List (FileName × FileTree) → List (FileName × FileTree)
  | [] => [(name, change none)]
  | (key, tree) :: rest =>
    if key = name then (key, change (some tree)) :: rest else (key, tree) :: alter change name rest

/-- Puts a tree at a place. Directories on the way are made where nothing is. -/
def put : FileTree → Address → FileTree → FileTree
  | _, [], new => new
  | .file content, _ :: _, _ => .file content
  | .directory entries, name :: rest, new =>
    .directory (alter (fun old => put (old.getD (.directory [])) rest new) name entries)

mutual

/-- The places below a tree whose names are not hidden, and none beneath hidden ones; with `only`, those
of directories. -/
def visible (only : Bool) : FileTree → List Address
  | .file _ => []
  | .directory entries => visibleEntries only entries

def visibleEntries (only : Bool) : List (FileName × FileTree) → List Address
  | [] => []
  | (name, tree) :: rest =>
    let below := (visible only tree).map (name :: ·)
    let others := visibleEntries only rest
    if name.isHidden || (only && !tree.isDirectory) then others
    else [name] :: below ++ others

end

mutual

/-- All places below a tree, directories before what is in them, with the bytes of files. -/
def contents : FileTree → List (Address × Option ByteArray)
  | .file _ => []
  | .directory entries => entriesContents entries

def entriesContents : List (FileName × FileTree) → List (Address × Option ByteArray)
  | [] => []
  | (name, tree) :: rest =>
    ([name], tree.bytes?) :: (contents tree).map (fun (address, bytes) => (name :: address, bytes)) ++
      entriesContents rest

end

/-- The places of a tree where another one has nothing or something else, with the bytes of files. -/
def changes (old new : FileTree) : List (Address × Option ByteArray) :=
  new.contents.filter fun (address, bytes) =>
    match old.at? address with
    | none => true
    | some tree => tree.bytes? != bytes

def entries : FileTree → List (FileName × FileTree)
  | .file _ => []
  | .directory entries => entries

end FileTree

end DocumentNormalizer
