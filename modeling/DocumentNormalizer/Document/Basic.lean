import DocumentNormalizer.Document.Location
import DocumentNormalizer.Language.Printer

namespace DocumentNormalizer

inductive DocumentKind where
  | operation (kind : OperationKind)
  | fragment
deriving DecidableEq

namespace DocumentKind

def text : DocumentKind → String
  | .operation kind => kind.text
  | .fragment => "fragment"

def ofText? (text : String) : Option DocumentKind :=
  if text = "fragment" then some .fragment else (OperationKind.ofText? text).map .operation

def isFragment : DocumentKind → Bool
  | .fragment => true
  | .operation _ => false

end DocumentKind

/-- A definition with the name and the kind it was collected under. -/
structure Document where
  name : String
  kind : DocumentKind
  definition : Definition
  sourceFile : String

namespace Document

def location (document : Document) : Location := ⟨[], document.definition.position⟩

def text (document : Document) : String := Printer.definition document.definition

end Document

end DocumentNormalizer
