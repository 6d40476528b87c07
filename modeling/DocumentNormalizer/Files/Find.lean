import DocumentNormalizer.Files.Glob

namespace DocumentNormalizer.Disk

/-- Whether a path names one of some places, or something beneath one. -/
def isWithin (disk : Disk) (places : List Address) (path : Path) : Bool :=
  places.any (·.isPrefixOf (disk.resolve path))

def fileAt (disk : Disk) (path : Path) : Except FileError (Option Path) :=
  if FileFault.pathLimit ≤ path.text.utf8ByteSize then .error ⟨.tooLong, path⟩
  else .ok (if disk.isFile path then some path else none)

def filesOf (disk : Disk) (pattern : String) : Except FileError (List Path) :=
  let glob := Glob.ofText pattern
  if glob.looksBehindNull then .error ⟨.nullCharacter, .ofText pattern⟩
  else (·.filterMap id) <$> (disk.glob glob).mapM disk.fileAt

/-- The files that patterns stand for, without those at or beneath the excluded paths. -/
def findFiles (disk : Disk) (patterns : List String) (excluded : List Path) :
    Except FileError (List Path) :=
  match excluded.find? (·.text.toList.contains '\x00') with
  | some path => .error ⟨.nullCharacter, path⟩
  | none => do
    let places := excluded.map disk.resolve
    let found := (← patterns.mapM disk.filesOf).flatten.filter (!disk.isWithin places ·)
    return found.eraseDups.mergeSort fun a b => !b.comesBefore a

end DocumentNormalizer.Disk
