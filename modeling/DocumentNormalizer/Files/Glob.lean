import DocumentNormalizer.Files.Disk
import DocumentNormalizer.Files.NamePattern

namespace DocumentNormalizer

/-- A part of a pattern for paths. A fixed part may lead nowhere. -/
inductive GlobPart where
  | fixed (step : Option Step)
  | name (hidden : Bool) (pieces : List NamePiece)
  | anyDepth

/-- A pattern for paths, and how it is spelled up to the first part that is not fixed. -/
structure Glob where
  start : PathStart
  fixed : String
  parts : List GlobPart

def GlobPart.isFixed : GlobPart → Bool
  | .fixed _ => true
  | .name _ _ | .anyDepth => false

def GlobPart.ofText (text : String) : GlobPart :=
  if text = "**" then .anyDepth
  else if NamePattern.isWild text then
    .name (text.toList.head? = some '.') (NamePattern.pieces text.toList)
  else .fixed (Step.ofText? text)

def Glob.ofText (text : String) : Glob :=
  let spelled := Text.splitAt '/' text
  ⟨.ofText text, "/".intercalate (spelled.takeWhile fun part => (GlobPart.ofText part).isFixed),
    spelled.map .ofText⟩

/-- Whether a pattern looks into a directory whose path no system can be asked about. -/
def Glob.looksBehindNull (pattern : Glob) : Bool :=
  pattern.fixed.toList.contains '\x00' && pattern.parts.any (!·.isFixed)

namespace Disk

def entries (disk : Disk) (path : Path) : List (FileName × FileTree) :=
  match disk.node path with
  | .ok tree => tree.entries
  | .error _ => []

def leadsOn (disk : Disk) (path : Path) (part : Option Step) : Bool :=
  let address := disk.follow (disk.startAddress path.start) (path.steps.map some ++ [part])
  (FileFault.ofSpelling? (path.append part.toList).text).isNone &&
    (address >>= disk.atAddress).isOk

/-- The paths to entries whose names a pattern accepts; with `only`, to directories. -/
def named (disk : Disk) (only hidden : Bool) (pieces : List NamePiece) (path : Path) : List Path :=
  let accepted := (disk.entries path).filter fun (name, tree) =>
    (hidden || !name.isHidden) && (!only || tree.isDirectory) &&
      NamePattern.accepts pieces name.text.toList
  accepted.map fun (name, _) => path.child name

/-- The path to a directory and all paths that go on from it through names that are not hidden; with
`only`, to directories. -/
def beneath (disk : Disk) (only : Bool) (path : Path) : List Path :=
  match disk.node path with
  | .ok (.directory entries) =>
    path :: (FileTree.visibleEntries only entries).map fun address =>
      path.append (address.map .down)
  | _ => []

/-- Follows the parts of a pattern from some paths. Only the last part can end at a file. -/
def expand (disk : Disk) (paths : List Path) : List GlobPart → List Path
  | [] => paths
  | .fixed step :: rest =>
    disk.expand ((paths.filter (disk.leadsOn · step)).map (·.append step.toList)) rest
  | .name hidden pieces :: rest =>
    disk.expand (paths.flatMap (disk.named (!rest.isEmpty) hidden pieces)) rest
  | .anyDepth :: rest => disk.expand (paths.flatMap (disk.beneath (!rest.isEmpty))) rest

def glob (disk : Disk) (pattern : Glob) : List Path :=
  if (FileFault.ofSpelling? pattern.fixed).isSome then []
  else disk.expand [⟨pattern.start, []⟩] pattern.parts

end Disk

end DocumentNormalizer
