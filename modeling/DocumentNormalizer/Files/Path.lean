import DocumentNormalizer.Text.Lines

namespace DocumentNormalizer

/-- A name that a directory can have an entry under. -/
structure FileName where
  text : String
  valid : text ≠ "" ∧ text ≠ "." ∧ text ≠ ".." ∧ '/' ∉ text.toList
deriving DecidableEq

namespace FileName

def ofText? (text : String) : Option FileName :=
  if valid : text ≠ "" ∧ text ≠ "." ∧ text ≠ ".." ∧ '/' ∉ text.toList then some ⟨text, valid⟩
  else none

/-- Names that start with a dot are left out where they are not asked for. -/
def isHidden (name : FileName) : Bool := name.text.toList.head? = some '.'

end FileName

/-- One step through directories: to the one above, or to an entry. -/
inductive Step where
  | up
  | down (name : FileName)
deriving DecidableEq

namespace Step

/-- The step that a part of a path stands for. Parts that lead nowhere stand for none. -/
def ofText? (part : String) : Option Step :=
  if part = ".." then some .up else (FileName.ofText? part).map .down

def text : Step → String
  | .up => ".."
  | .down name => name.text

end Step

/-- Where a path starts. Two slashes in front are told from one, three and more are not. -/
inductive PathStart where
  | here
  | root
  | doubleRoot
deriving DecidableEq

namespace PathStart

def text : PathStart → String
  | .here => ""
  | .root => "/"
  | .doubleRoot => "//"

def ofText (text : String) : PathStart :=
  match (text.toList.takeWhile (· = '/')).length with
  | 0 => .here
  | 2 => .doubleRoot
  | _ => .root

end PathStart

/-- A start and the steps from there. -/
structure Path where
  start : PathStart
  steps : List Step
deriving DecidableEq

namespace Path

def ofText (text : String) : Path :=
  ⟨.ofText text, (Text.splitAt '/' text).filterMap Step.ofText?⟩

/-- How a path is written. A path that leads nowhere is a single dot. -/
def text (path : Path) : String :=
  if path.start = .here ∧ path.steps = [] then "."
  else path.start.text ++ "/".intercalate (path.steps.map Step.text)

/-- Whether a path leads to the same place from everywhere. -/
def isAbsolute (path : Path) : Bool := path.start ≠ .here

def append (path : Path) (steps : List Step) : Path := { path with steps := path.steps ++ steps }

def child (path : Path) (name : FileName) : Path := path.append [.down name]

def parent (path : Path) : Path := { path with steps := path.steps.dropLast }

def join (base path : Path) : Path := if path.isAbsolute then path else base.append path.steps

def parts (path : Path) : List String :=
  (if path.isAbsolute then [path.start.text] else []) ++ path.steps.map Step.text

def comesBefore (a b : Path) : Bool := a.parts.lex b.parts fun x y => decide (x < y)

end Path

end DocumentNormalizer
