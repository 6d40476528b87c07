import DocumentNormalizer.Language.Syntax

namespace DocumentNormalizer

/-- An argument of a field or a directive, or a field of an input object. -/
structure InputDefinition where
  name : String
  type : TypeReference
  default : Option Value
  directives : List Directive

structure FieldDefinition where
  name : String
  arguments : List InputDefinition
  type : TypeReference
  directives : List Directive

structure EnumValueDefinition where
  name : String
  directives : List Directive

/-- What a type definition says about a type beside its name. -/
inductive TypeBody where
  | scalar
  | object (interfaces : List String) (fields : List FieldDefinition)
  | interface (interfaces : List String) (fields : List FieldDefinition)
  | union (members : List String)
  | enum (values : List EnumValueDefinition)
  | input (fields : List InputDefinition)

structure TypeDefinition where
  name : String
  directives : List Directive
  body : TypeBody

inductive DirectiveLocation where
  | query | mutation | subscription | field | fragmentDefinition | fragmentSpread | inlineFragment
  | variableDefinition | schema | scalar | object | fieldDefinition | argumentDefinition
  | interface | union | enum | enumValue | inputObject | inputFieldDefinition
  | directiveDefinition
deriving DecidableEq

structure DirectiveDefinition where
  name : String
  arguments : List InputDefinition
  repeatable : Bool
  locations : List DirectiveLocation

structure RootDefinition where
  kind : OperationKind
  type : String

/-- Whether a definition founds something or adds to it. -/
inductive Role where
  | definition | extension
deriving DecidableEq

inductive TypeSystemDefinition where
  | schema (role : Role) (directives : List Directive) (roots : List RootDefinition)
  | type (role : Role) (definition : TypeDefinition)
  | directive (definition : DirectiveDefinition)

inductive TypeKind where
  | object | interface | union | scalar | enum | input
deriving DecidableEq

def TypeBody.kind : TypeBody → TypeKind
  | .scalar => .scalar
  | .object _ _ => .object
  | .interface _ _ => .interface
  | .union _ => .union
  | .enum _ => .enum
  | .input _ => .input

def DirectiveLocation.keyword : DirectiveLocation → String
  | .query => "QUERY"
  | .mutation => "MUTATION"
  | .subscription => "SUBSCRIPTION"
  | .field => "FIELD"
  | .fragmentDefinition => "FRAGMENT_DEFINITION"
  | .fragmentSpread => "FRAGMENT_SPREAD"
  | .inlineFragment => "INLINE_FRAGMENT"
  | .variableDefinition => "VARIABLE_DEFINITION"
  | .schema => "SCHEMA"
  | .scalar => "SCALAR"
  | .object => "OBJECT"
  | .fieldDefinition => "FIELD_DEFINITION"
  | .argumentDefinition => "ARGUMENT_DEFINITION"
  | .interface => "INTERFACE"
  | .union => "UNION"
  | .enum => "ENUM"
  | .enumValue => "ENUM_VALUE"
  | .inputObject => "INPUT_OBJECT"
  | .inputFieldDefinition => "INPUT_FIELD_DEFINITION"
  | .directiveDefinition => "DIRECTIVE_DEFINITION"

def DirectiveLocation.all : List DirectiveLocation :=
  [.query, .mutation, .subscription, .field, .fragmentDefinition, .fragmentSpread,
    .inlineFragment, .variableDefinition, .schema, .scalar, .object, .fieldDefinition,
    .argumentDefinition, .interface, .union, .enum, .enumValue, .inputObject,
    .inputFieldDefinition, .directiveDefinition]

def DirectiveLocation.ofKeyword? (keyword : String) : Option DirectiveLocation :=
  all.find? (·.keyword = keyword)

def DirectiveLocation.text : DirectiveLocation → String
  | .query => "query"
  | .mutation => "mutation"
  | .subscription => "subscription"
  | .field => "field"
  | .fragmentDefinition => "fragment definition"
  | .fragmentSpread => "fragment spread"
  | .inlineFragment => "inline fragment"
  | .variableDefinition => "variable definition"
  | .schema => "schema"
  | .scalar => "scalar"
  | .object => "object"
  | .fieldDefinition => "field definition"
  | .argumentDefinition => "argument definition"
  | .interface => "interface"
  | .union => "union"
  | .enum => "enum"
  | .enumValue => "enum value"
  | .inputObject => "input object"
  | .inputFieldDefinition => "input field definition"
  | .directiveDefinition => "directive definition"

/-- What a source text can define: something to run, or a part of a type system. -/
inductive SourceDefinition where
  | executable (definition : Definition)
  | typeSystem (definition : TypeSystemDefinition)

end DocumentNormalizer
