import DocumentNormalizer.Language.Position

namespace DocumentNormalizer

inductive OperationKind where
  | query | mutation | subscription
deriving DecidableEq

def OperationKind.text : OperationKind → String
  | .query => "query"
  | .mutation => "mutation"
  | .subscription => "subscription"

def OperationKind.ofText? : String → Option OperationKind
  | "query" => some .query
  | "mutation" => some .mutation
  | "subscription" => some .subscription
  | _ => none

/-- A type as fields and arguments refer to it. -/
inductive TypeReference where
  | named (name : String)
  | list (item : TypeReference)
  | nonNull (type : TypeReference)

/-- The type that is left without lists and null marks. -/
def TypeReference.baseName : TypeReference → String
  | .named name => name
  | .list item => item.baseName
  | .nonNull type => type.baseName

structure StringLiteral where
  text : String
  block : Bool

/-- A value as it is written. Numbers keep their spelling. -/
inductive Value where
  | variable (name : String)
  | int (text : String)
  | float (text : String)
  | string (literal : StringLiteral)
  | boolean (value : Bool)
  | null
  | enum (name : String)
  | list (items : List Value)
  | object (fields : List (String × Value))

structure Argument where
  name : String
  value : Value
  position : Position

/-- The use of a directive, with the place where it was read. -/
structure Directive where
  name : String
  arguments : List Argument
  position : Position

/-- A selected field without the set below it. -/
structure Field where
  label : Option String
  name : String
  arguments : List Argument
  directives : List Directive
  position : Option Position

def Field.responseKey (field : Field) : String := field.label.getD field.name

def Field.bare (name : String) : Field := ⟨none, name, [], [], none⟩

/-- The use of a named fragment. -/
structure Spread where
  name : String
  directives : List Directive
  position : Option Position

/-- An inline fragment without the set below it. -/
structure InlineFragment where
  typeCondition : Option String
  directives : List Directive
  position : Option Position

/-- A member of a selection set. A field without a set and a field with an empty set are different:
only the second one can be walked into. -/
inductive Selection where
  | leaf (field : Field)
  | branch (field : Field) (position : Option Position) (selections : List Selection)
  | inline (fragment : InlineFragment) (position : Option Position) (selections : List Selection)
  | spread (use : Spread)

/-- The selections between two braces and the place of the opening one. -/
structure SelectionSet where
  position : Option Position
  selections : List Selection

namespace Selection

def set? : Selection → Option SelectionSet
  | .leaf _ | .spread _ => none
  | .branch _ position selections | .inline _ position selections => some ⟨position, selections⟩

def position : Selection → Option Position
  | .leaf field | .branch field _ _ => field.position
  | .inline fragment _ _ => fragment.position
  | .spread use => use.position

def field? : Selection → Option Field
  | .leaf field | .branch field _ _ => some field
  | .inline _ _ _ | .spread _ => none

def bare (name : String) : Selection := .leaf (.bare name)

end Selection

structure VariableDefinition where
  description : Option StringLiteral
  name : String
  type : TypeReference
  default : Option Value
  directives : List Directive

/-- What a definition declares. An operation may lack a name; a fragment has one, and the type it
applies to. -/
inductive Heading where
  | operation (kind : OperationKind) (name : Option String) (declared : List VariableDefinition)
  | fragment (name typeCondition : String)

structure Definition where
  description : Option StringLiteral
  heading : Heading
  directives : List Directive
  position : Option Position
  selectionSet : SelectionSet

def Definition.typeCondition (definition : Definition) : Option String :=
  match definition.heading with
  | .operation _ _ _ => none
  | .fragment _ typeCondition => some typeCondition

end DocumentNormalizer
