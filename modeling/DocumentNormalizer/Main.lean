import DocumentNormalizer.CommandLine.Run

namespace DocumentNormalizer.Program

/-- Reads the entries of a directory and everything below them. -/
partial def readEntries (entries : Array IO.FS.DirEntry) : IO (List (FileName × FileTree)) := do
  let mut read := []
  for entry in entries do
    if let some name := FileName.ofText? entry.fileName then
      if ← entry.path.isDir then
        read := (name, .directory (← readEntries (← entry.path.readDir))) :: read
      else
        read := (name, .file (← IO.FS.readBinFile entry.path)) :: read
  return read.reverse

/-- The names on the way to a directory. -/
def addressOf (text : String) : Address := (Path.ofText text).steps.foldl Step.apply []

/-- The files below the working directory. Files elsewhere are not seen. -/
def readDisk : IO Disk := do
  let directory ← IO.currentDir
  let place := addressOf directory.toString
  let tree := FileTree.directory (← readEntries (← directory.readDir))
  return ⟨(FileTree.directory []).put place tree, place⟩

def textOf (place : Address) : String := "/" ++ "/".intercalate (place.map (·.text))

def writeChanges (old new : FileTree) : IO Unit := do
  for (place, bytes) in old.changes new do
    match bytes with
    | none => IO.FS.createDirAll (textOf place)
    | some content => IO.FS.writeBinFile (textOf place) content

/-- How many columns the console has: as many as its surroundings say, or 80. -/
def consoleColumns : IO Nat := do
  return ((← IO.getEnv "COLUMNS") >>= String.toNat?).getD 80

def print (columns : Nat) : Shown → IO Unit
  | .text text => IO.print text
  | .line text => IO.print (Screen.drawn columns text)
  | .table table =>
    match Screen.tableLines table with
    | .ok lines => lines.forM IO.println
    | .error fault => IO.eprintln fault.message

def run (words : List String) : IO UInt32 := do
  let disk ← readDisk
  let result := CommandResult.ofWords "gqlnorm" (← IO.getEnv "GQLNORM_CONFIG") words disk
  result.shown.forM (print (← consoleColumns))
  writeChanges disk.root result.disk.root
  if let some breakdown := result.breakdown then IO.eprintln breakdown.message
  return result.exitCode.toUInt32

end DocumentNormalizer.Program

def main (words : List String) : IO UInt32 := DocumentNormalizer.Program.run words
