import DocumentNormalizer.Document.Basic
import DocumentNormalizer.Schema.Basic
import DocumentNormalizer.Text.Quoted

namespace DocumentNormalizer

/-- How much an issue matters. -/
inductive Severity where
  | advisory | fatal
deriving DecidableEq

def Severity.text : Severity → String
  | .advisory => "advisory"
  | .fatal => "fatal"

def Severity.ofText? : String → Option Severity
  | "advisory" => some .advisory
  | "fatal" => some .fatal
  | _ => none

/-- Something that is worth saying about a document. -/
inductive Issue where
  | missingRoot (kind : OperationKind)
  | unknownCondition (type : String)
  | leafCondition (kind : TypeKind) (type : String)
  | unknownFragment (name : String)
  | fragmentCycle (names : List String)
  | unusedFragment (name : String)
  | skippedForRoot (kind : OperationKind)
  | skippedForCondition (type : String)
  | unknownField (field type : String)
  | unknownInlineCondition (type : String)
  | unknownFragmentCondition (type fragment : String)
  | unusableKey (key type : String)
  | other (severity : Severity) (message : String)
deriving DecidableEq

namespace Issue

/-- Issues that leave selections without a meaning are fatal. -/
def severity : Issue → Severity
  | .missingRoot _ | .unknownCondition _ | .leafCondition _ _ | .unknownFragment _
  | .fragmentCycle _ => .fatal
  | .unusedFragment _ | .skippedForRoot _ | .skippedForCondition _ | .unknownField _ _
  | .unknownInlineCondition _ | .unknownFragmentCondition _ _ | .unusableKey _ _ => .advisory
  | .other severity _ => severity

def message : Issue → String
  | .missingRoot kind => "Schema has no " ++ kind.text ++ " root type"
  | .unknownCondition type => "Unknown type " ++ Text.quote type ++ " in fragment type condition"
  | .leafCondition kind type =>
    "Fragment cannot condition on " ++ kind.text ++ " type " ++ Text.quote type
  | .unknownFragment name => "Unknown fragment " ++ Text.quote name
  | .fragmentCycle names => "Fragment cycle: " ++ " -> ".intercalate names
  | .unusedFragment name => "Fragment " ++ Text.quote name ++ " is never used"
  | .skippedForRoot kind => "Schema has no " ++ kind.text ++ " root type, skipped"
  | .skippedForCondition type =>
    "Unknown type " ++ Text.quote type ++ " in fragment type condition, skipped"
  | .unknownField field type =>
    "Cannot query field " ++ Text.quote field ++ " on type " ++ Text.quote type
  | .unknownInlineCondition type => "Unknown type " ++ Text.quote type ++ " in inline fragment"
  | .unknownFragmentCondition type fragment =>
    "Unknown type " ++ Text.quote type ++ " in fragment " ++ Text.quote fragment
  | .unusableKey key type =>
    "Key field " ++ Text.quote key ++ " on type " ++ Text.quote type ++
      " is not a scalar field without required arguments, keys not added"
  | .other _ message => message

end Issue

/-- An issue, the document it is reported for, where it is, and the pass that reported it. -/
structure Diagnostic where
  issue : Issue
  document : String
  location : Location
  pass : String
deriving DecidableEq

namespace Diagnostic

def unsigned (issue : Issue) (document : String) (location : Location) : Diagnostic :=
  ⟨issue, document, location, ""⟩

def severity (diagnostic : Diagnostic) : Severity := diagnostic.issue.severity

def isFatal (diagnostic : Diagnostic) : Bool := diagnostic.severity = .fatal

def message (diagnostic : Diagnostic) : String := diagnostic.issue.message

def sign (pass : String) (diagnostic : Diagnostic) : Diagnostic :=
  if diagnostic.pass = "" then { diagnostic with pass } else diagnostic

def text (diagnostic : Diagnostic) : String :=
  let place := diagnostic.location.text
  "[" ++ diagnostic.severity.text ++ "] " ++ diagnostic.document ++
    (if place = "" then "" else " at " ++ place) ++ ": " ++ diagnostic.message

end Diagnostic

def advisories (diagnostics : List Diagnostic) : List Diagnostic :=
  diagnostics.filter fun diagnostic => diagnostic.severity = .advisory

def firstFatal? (diagnostics : List Diagnostic) : Option Diagnostic :=
  diagnostics.find? (·.isFatal)

def anyFatal (diagnostics : List Diagnostic) : Bool := diagnostics.any (·.isFatal)

def diagnosticsFor (document : String) (diagnostics : List Diagnostic) : List Diagnostic :=
  diagnostics.filter (·.document = document)

end DocumentNormalizer
