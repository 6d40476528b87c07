import DocumentNormalizer.Language.TypeSystem

namespace DocumentNormalizer

/-- The field that every object, interface and union has. -/
def typenameField : String := "__typename"

/-- What counts as given where nothing is given. -/
inductive DefaultValue where
  | absent
  | null
  | present
deriving DecidableEq

/-- What counts as given for a value that may be written. -/
def DefaultValue.of : Option Value → DefaultValue
  | none => .absent
  | some .null => .null
  | some _ => .present

/-- An argument of a field, or a field of an input object. A default that does not fit the type
counts as none. -/
structure InputValue where
  name : String
  type : TypeReference
  default : DefaultValue

def InputValue.isRequired (input : InputValue) : Bool :=
  match input.type with
  | .nonNull _ => input.default = .absent
  | .named _ | .list _ => false

structure OutputField where
  name : String
  type : TypeReference
  arguments : List InputValue

inductive TypeShape where
  | scalar
  | object (interfaces : List String) (fields : List OutputField)
  | interface (interfaces : List String) (fields : List OutputField)
  | union (members : List String)
  | enum (values : List String)
  | input (fields : List InputValue)

structure NamedType where
  name : String
  shape : TypeShape

namespace NamedType

def kind (type : NamedType) : TypeKind :=
  match type.shape with
  | .scalar => .scalar
  | .object _ _ => .object
  | .interface _ _ => .interface
  | .union _ => .union
  | .enum _ => .enum
  | .input _ => .input

/-- Interfaces and unions: what a value really is shows only when there is one. -/
def isAbstract (type : NamedType) : Bool := type.kind = .interface || type.kind = .union

/-- Types whose values have selections. -/
def isComposite (type : NamedType) : Bool := type.kind = .object || type.isAbstract

/-- Types whose values have none. -/
def isLeaf (type : NamedType) : Bool := type.kind = .scalar || type.kind = .enum

/-- The fields of an object or an interface. Other types have none to select. -/
def fields? (type : NamedType) : Option (List OutputField) :=
  match type.shape with
  | .object _ fields | .interface _ fields => some fields
  | .scalar | .union _ | .enum _ | .input _ => none

def field? (type : NamedType) (name : String) : Option OutputField :=
  type.fields? >>= List.find? (·.name = name)

def hasFields (type : NamedType) (names : List String) : Bool :=
  type.fields?.isSome && names.all fun name => (type.field? name).isSome

end NamedType

def TypeKind.text : TypeKind → String
  | .object => "object"
  | .interface => "interface"
  | .union => "union"
  | .scalar => "scalar"
  | .enum => "enum"
  | .input => "input"

/-- The named types, and which of them operations start from. -/
structure Schema where
  types : List NamedType
  root : OperationKind → Option String

namespace Schema

def type? (schema : Schema) (name : String) : Option NamedType :=
  schema.types.find? (·.name = name)

def rootType? (schema : Schema) (kind : OperationKind) : Option NamedType :=
  schema.root kind >>= schema.type?

def isRootType (schema : Schema) (type : NamedType) : Bool :=
  [OperationKind.query, .mutation, .subscription].any fun kind =>
    schema.root kind = some type.name

/-- The type of the values of a field, without lists and null marks. `__typename` is a field of
every composite type; the schema describes itself in two more fields of the query type, which come
before fields of the same name that the type declares. -/
def fieldType? (schema : Schema) (parent : NamedType) (fieldName : String) : Option NamedType :=
  if fieldName = typenameField ∧ parent.isComposite then schema.type? "String"
  else if fieldName = "__schema" ∧ schema.root .query = some parent.name then
    schema.type? "__Schema"
  else if fieldName = "__type" ∧ schema.root .query = some parent.name then schema.type? "__Type"
  else parent.field? fieldName >>= fun field => schema.type? field.type.baseName

/-- The objects that implement an interface. One that names it twice counts twice. -/
def implementations (schema : Schema) (interface : String) : List String :=
  schema.types.flatMap fun type =>
    match type.shape with
    | .object interfaces _ => (interfaces.filter (· = interface)).map fun _ => type.name
    | _ => []

def possibleTypes (schema : Schema) (type : NamedType) : List String :=
  match type.shape with
  | .object _ _ => [type.name]
  | .interface _ _ => schema.implementations type.name
  | .union members => members
  | .scalar | .enum _ | .input _ => []

/-- Whether a field can be selected by its name alone: its values have no selections, and none of
its arguments has to be given. -/
def isBareSelectable (schema : Schema) (type : NamedType) (fieldName : String) : Bool :=
  match type.field? fieldName with
  | none => false
  | some field =>
    (schema.type? field.type.baseName).any NamedType.isLeaf &&
      !field.arguments.any InputValue.isRequired

end Schema

end DocumentNormalizer
