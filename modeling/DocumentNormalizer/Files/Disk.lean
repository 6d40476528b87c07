import DocumentNormalizer.Files.Tree
import DocumentNormalizer.Text.Quoted

namespace DocumentNormalizer

/-- Files, and where relative paths start. -/
structure Disk where
  root : FileTree
  workingDirectory : Address

/-- Why a path cannot be used. -/
inductive FileFault where
  | missing
  | taken
  | notDirectory
  | directory
  | tooLong
  | nullCharacter
deriving DecidableEq

namespace FileFault

/-- The number of a fault among those of the system. A path with a null character never gets as far
as the system. -/
def number? : FileFault → Option Nat
  | .missing => some 2
  | .taken => some 17
  | .notDirectory => some 20
  | .directory => some 21
  | .tooLong => some 36
  | .nullCharacter => none

def text : FileFault → String
  | .missing => "No such file or directory"
  | .taken => "File exists"
  | .notDirectory => "Not a directory"
  | .directory => "Is a directory"
  | .tooLong => "File name too long"
  | .nullCharacter => "embedded null byte"

/-- How many bytes a path has to stay below. -/
def pathLimit : Nat := 4096

def nameLimit : Nat := 255

def ofSpelling? (text : String) : Option FileFault :=
  if text.toList.contains '\x00' then some .nullCharacter
  else if pathLimit ≤ text.utf8ByteSize then some .tooLong
  else none

def refuses : Option Step → Bool
  | some (.down name) => nameLimit < name.text.utf8ByteSize
  | _ => false

end FileFault

structure FileError where
  fault : FileFault
  path : Path

def FileError.message (error : FileError) : String :=
  match error.fault.number? with
  | none => error.fault.text
  | some number =>
    "[Errno " ++ toString number ++ "] " ++ error.fault.text ++ ": " ++ Text.quote error.path.text

inductive ReadError where
  | file (error : FileError)
  | notText (path : Path)

namespace Disk

/-- Goes on from a place, part by part. A part that leads nowhere still needs a directory, and a name
has to be one that the directory could have. -/
def follow (disk : Disk) : Address → List (Option Step) → Except FileFault Address
  | place, [] => .ok place
  | place, part :: rest =>
    match disk.root.at? place with
    | none => .error .missing
    | some (.file _) => .error .notDirectory
    | some (.directory _) =>
      if FileFault.refuses part then .error .tooLong
      else disk.follow (part.elim place (·.apply place)) rest

def startAddress (disk : Disk) : PathStart → Address
  | .here => disk.workingDirectory
  | .root | .doubleRoot => []

/-- The place that a path leads to. Nothing need be there. -/
def locate (disk : Disk) (path : Path) : Except FileFault Address :=
  match FileFault.ofSpelling? path.text with
  | some fault => .error fault
  | none => disk.follow (disk.startAddress path.start) (path.steps.map some)

def atAddress (disk : Disk) (place : Address) : Except FileFault FileTree :=
  match disk.root.at? place with
  | none => .error .missing
  | some tree => .ok tree

def node (disk : Disk) (path : Path) : Except FileFault FileTree :=
  disk.locate path >>= disk.atAddress

/-- What a spelling leads to, with the parts that a path drops. The empty spelling leads to nothing. -/
def nodeOfText (disk : Disk) (text : String) : Except FileFault FileTree :=
  match FileFault.ofSpelling? text with
  | some fault => .error fault
  | none =>
    if text = "" then .error .missing
    else
      disk.follow (disk.startAddress (.ofText text)) ((Text.splitAt '/' text).map Step.ofText?) >>=
        disk.atAddress

def isFile (disk : Disk) (path : Path) : Bool :=
  match disk.node path with
  | .ok (.file _) => true
  | _ => false

def isDirectory (disk : Disk) (path : Path) : Bool :=
  match disk.node path with
  | .ok (.directory _) => true
  | _ => false

/-- The place that a path names, whatever is there: two dots take back the part before them. -/
def resolve (disk : Disk) (path : Path) : Address :=
  path.steps.foldl Step.apply (disk.startAddress path.start)

def readBytes (disk : Disk) (path : Path) : Except FileError ByteArray :=
  match disk.node path with
  | .ok (.file content) => .ok content
  | .ok (.directory _) => .error ⟨.directory, path⟩
  | .error fault => .error ⟨fault, path⟩

def readText (disk : Disk) (path : Path) : Except ReadError String :=
  match disk.readBytes path with
  | .error error => .error (.file error)
  | .ok bytes =>
    match String.fromUTF8? bytes with
    | none => .error (.notText path)
    | some text => .ok (String.ofList (Text.unifyLineEnds text.toList))

def putAt (disk : Disk) (place : Address) (tree : FileTree) : Disk :=
  { disk with root := disk.root.put place tree }

def write (disk : Disk) (path : Path) (content : ByteArray) : Except FileError Disk :=
  match disk.locate path with
  | .error fault => .error ⟨fault, path⟩
  | .ok place =>
    match disk.root.at? place with
    | some (.directory _) => .error ⟨.directory, path⟩
    | _ => .ok (disk.putAt place (.file content))

def newDirectory (disk : Disk) (path : Path) : Except FileError Disk :=
  match disk.locate path with
  | .error fault => .error ⟨fault, path⟩
  | .ok place =>
    match disk.root.at? place with
    | some _ => .error ⟨.taken, path⟩
    | none => .ok (disk.putAt place (.directory []))

end Disk

/-- Something done to files that may fail. What was done before a failure stays done. -/
abbrev DiskAction (ε : Type) := ExceptT ε (StateM Disk)

namespace DiskAction

def ensureDirectory (path : Path) : DiskAction FileError Unit := do
  let disk ← get
  match disk.newDirectory path with
  | .ok disk => set disk
  | .error error => if disk.isDirectory path then pure () else throw error

/-- Makes a directory and those above it, unless they are there. -/
def makeDirectories (path : Path) : DiskAction FileError Unit := do
  let disk ← get
  match disk.newDirectory path with
  | .ok disk => set disk
  | .error error =>
    if error.fault = .missing then
      if _ : path.steps = [] then throw error
      else
        makeDirectories path.parent
        ensureDirectory path
    else if disk.isDirectory path then pure ()
    else throw error
termination_by path.steps.length
decreasing_by
  have := List.length_pos_iff.mpr ‹path.steps ≠ []›
  simp only [Path.parent, List.length_dropLast]
  omega

def writeFile (path : Path) (content : ByteArray) : DiskAction FileError Unit := do
  match (← get).write path content with
  | .ok disk => set disk
  | .error error => throw error

end DiskAction

end DocumentNormalizer
