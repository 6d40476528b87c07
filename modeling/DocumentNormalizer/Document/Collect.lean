import DocumentNormalizer.Document.Basic
import DocumentNormalizer.Language.Source

namespace DocumentNormalizer

/-- Why a source text gives no documents. -/
inductive CollectionFault where
  | unreadable (error : SyntaxError)
  | anonymous (kind : OperationKind)
  | notExecutable (definition : TypeSystemDefinition)

/-- A fault and the file it is in; texts from elsewhere have an empty file name. -/
structure CollectionError where
  fault : CollectionFault
  sourceFile : String

def TypeKind.definitionWord : TypeKind → String
  | .object => "object_type"
  | .interface => "interface_type"
  | .union => "union_type"
  | .scalar => "scalar_type"
  | .enum => "enum_type"
  | .input => "input_object_type"

def Role.text : Role → String
  | .definition => "definition"
  | .extension => "extension"

def TypeSystemDefinition.sort : TypeSystemDefinition → String
  | .schema role _ _ => "schema_" ++ role.text
  | .type role definition => definition.body.kind.definitionWord ++ "_" ++ role.text
  | .directive _ => "directive_definition"

def CollectionError.message (error : CollectionError) : String :=
  let origin := if error.sourceFile = "" then "document" else error.sourceFile
  match error.fault with
  | .unreadable fault => "Cannot parse " ++ origin ++ ": " ++ fault.message
  | .anonymous kind => "Anonymous " ++ kind.text ++ " in " ++ origin ++ ": operations must be named"
  | .notExecutable definition =>
    "Unexpected " ++ definition.sort ++ " in " ++ origin ++
      ": only operations and fragments are collected"

namespace Document

def ofDefinition (sourceFile : String) : SourceDefinition → Except CollectionFault Document
  | .typeSystem definition => .error (.notExecutable definition)
  | .executable definition =>
    match definition.heading with
    | .operation kind none _ => .error (.anonymous kind)
    | .operation kind (some name) _ => .ok ⟨name, .operation kind, definition, sourceFile⟩
    | .fragment name _ => .ok ⟨name, .fragment, definition, sourceFile⟩

def collect (text sourceFile : String) : Except CollectionError (List Document) :=
  match parseSource text with
  | .error error => .error ⟨.unreadable error, sourceFile⟩
  | .ok definitions =>
    match definitions.mapM (ofDefinition sourceFile) with
    | .ok documents => .ok documents
    | .error fault => .error ⟨fault, sourceFile⟩

end Document

end DocumentNormalizer
