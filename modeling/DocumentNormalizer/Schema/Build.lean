import DocumentNormalizer.Language.Source
import DocumentNormalizer.Schema.Rules
import DocumentNormalizer.Text.Digits

namespace DocumentNormalizer

/-- What is wrong with what a directive is given for an argument. -/
inductive ArgumentFault where
  | missing (argument : String) (type : TypeReference)
  | isNull (argument : String) (type : TypeReference)
  | invalid (argument : String) (value : Value)

def ArgumentFault.message : ArgumentFault → String
  | .missing argument type =>
    "Argument '" ++ argument ++ "' of required type '" ++ Printer.typeReference type ++
      "' was not provided."
  | .isNull argument type =>
    "Argument '" ++ argument ++ "' of non-null type '" ++ Printer.typeReference type ++
      "' must not be null."
  | .invalid argument value =>
    "Argument '" ++ argument ++ "' has invalid value " ++ Printer.value value ++ "."

/-- Why definitions that keep to the rules still make no schema. -/
inductive BuildFault where
  | interfacesAreNot (type : String)
  | membersAreNotObjects (type : String)
  | argumentIsNoInput
  | fieldIsNoOutput
  | inputFieldIsNoInput
  | defaultOfNoInput (type : String)
  | badArgument (fault : ArgumentFault) (position : Position)
  | unresolvedFields (type : String) (cause : BuildFault)

/-- What a fault says. The one that has a place in the text comes with an excerpt. -/
def BuildFault.message (source : String) : BuildFault → String
  | .interfacesAreNot type =>
    type ++ " interfaces must be specified as a collection of GraphQLInterfaceType instances."
  | .membersAreNotObjects type =>
    type ++ " types must be specified as a collection of GraphQLObjectType instances."
  | .argumentIsNoInput => "Argument type must be a GraphQL input type."
  | .fieldIsNoOutput => "Field type must be an output type."
  | .inputFieldIsNoInput => "Input field type must be a GraphQL input type."
  | .defaultOfNoInput type => "Unexpected input type: " ++ type ++ "."
  | .badArgument fault position =>
    fault.message ++ "\n\n" ++ SyntaxError.excerpt source position
  | .unresolvedFields type cause => type ++ " fields cannot be resolved. " ++ cause.message source

def BuildFault.isOfValue : BuildFault → Bool
  | .badArgument _ _ => true
  | .unresolvedFields _ cause => cause.isOfValue
  | _ => false

inductive SchemaError where
  | unreadable (source : String) (error : SyntaxError)
  | ruleFaults (faults : List RuleFault)
  | buildFault (source : String) (fault : BuildFault)

/-- What an error says: where the grammar is left, all rules that are broken, or the first thing
that does not fit together. -/
def SchemaError.message : SchemaError → String
  | .unreadable source error => error.report source
  | .ruleFaults faults => "\n\n".intercalate (faults.map (·.message))
  | .buildFault source fault => fault.message source

namespace Build

/-- Puts an addition behind a body of the same kind. -/
def extend : TypeBody → TypeBody → TypeBody
  | .object interfaces fields, .object interfaces' fields' =>
    .object (interfaces ++ interfaces') (fields ++ fields')
  | .interface interfaces fields, .interface interfaces' fields' =>
    .interface (interfaces ++ interfaces') (fields ++ fields')
  | .union members, .union members' => .union (members ++ members')
  | .enum values, .enum values' => .enum (values ++ values')
  | .input fields, .input fields' => .input (fields ++ fields')
  | body, _ => body

def extensionsOf (definitions : List SourceDefinition) (name : String) : List TypeBody :=
  definitions.filterMap fun
    | .typeSystem (.type .extension type) => if type.name = name then some type.body else none
    | _ => none

def mergedTypes (definitions : List SourceDefinition) : List (String × TypeBody) :=
  definitions.filterMap fun
    | .typeSystem (.type .definition type) =>
      some (type.name, (extensionsOf definitions type.name).foldl extend type.body)
    | _ => none

def directiveDefinitions (definitions : List SourceDefinition) : List DirectiveDefinition :=
  definitions.filterMap fun
    | .typeSystem (.directive directive) => some directive
    | _ => none

/-- The input objects of which exactly one field is to be set. Their definitions have to say so; an
extension cannot. -/
def exclusiveInputs (definitions : List SourceDefinition) : List String :=
  definitions.filterMap fun
    | .typeSystem (.type .definition type) =>
      if type.directives.any (·.name = Standard.oneOf.name) then some type.name else none
    | _ => none

/-- What type names lead to while a schema is built. Reserved names keep their meaning. -/
structure Names where
  defined : List (String × TypeBody)
  exclusive : List String

def Names.body? (names : Names) (name : String) : Option TypeBody :=
  if Standard.isReserved name then none
  else (names.defined.find? (·.1 = name)).map (·.2)

def Names.kind? (names : Names) (name : String) : Option TypeKind :=
  match Standard.reservedTypes.find? (·.name = name) with
  | some type => some type.kind
  | none => (names.body? name).map (·.kind)

def Names.isInput (names : Names) (type : TypeReference) : Bool :=
  (names.kind? type.baseName).any fun kind =>
    kind = .scalar || kind = .enum || kind = .input

def Names.isOutput (names : Names) (type : TypeReference) : Bool :=
  (names.kind? type.baseName).any (· ≠ .input)

def Names.enumValues (names : Names) (name : String) : List String :=
  match Standard.reservedTypes.find? (·.name = name) with
  | some ⟨_, .enum values⟩ => values
  | some _ => []
  | none =>
    match names.body? name with
    | some (.enum values) => values.map (·.name)
    | _ => []

/-- The number that digits with an optional sign stand for. -/
def integer (text : String) : Int :=
  match text.toList with
  | '-' :: digits => -((String.ofList digits).toNat?.getD 0 : Nat)
  | digits => ((String.ofList digits).toNat?.getD 0 : Nat)

mutual

def isReadable : Value → Bool
  | .int text => (text.toList.filter Char.isDigit).length ≤ Text.digitLimit
  | .list items => areReadable items
  | .object fields => fieldsAreReadable fields
  | _ => true

def areReadable : List Value → Bool
  | [] => true
  | item :: items => isReadable item && areReadable items

def fieldsAreReadable : List (String × Value) → Bool
  | [] => true
  | (_, item) :: fields => isReadable item && fieldsAreReadable fields

end

/-- Whether a scalar accepts a value. Scalars that a text defines accept all that can be read. -/
def scalarAccepts (name : String) (value : Value) : Bool :=
  match name, value with
  | "Int", .int text => -2147483648 ≤ integer text && integer text ≤ 2147483647
  | "Float", .int _ | "Float", .float _ => true
  | "String", .string _ => true
  | "Boolean", .boolean _ => true
  | "ID", .string _ | "ID", .int _ => true
  | name, value => !Standard.scalarNames.contains name && isReadable value

def checkArgument (use : Directive) (wanted : InputDefinition) : Except BuildFault Unit :=
  match use.arguments.find? (·.name = wanted.name) with
  | none =>
    if Rules.isRequired wanted then
      throw (.badArgument (.missing wanted.name wanted.type) use.position)
    else return ()
  | some given =>
    match wanted.type, given.value with
    | .nonNull _, .null => throw (.badArgument (.isNull wanted.name wanted.type) given.position)
    | _, .null => return ()
    | type, value =>
      if scalarAccepts type.baseName value then return ()
      else throw (.badArgument (.invalid wanted.name value) given.position)

def checkUse (directive : DirectiveDefinition) (given : List Directive) : Except BuildFault Unit :=
  match given.find? (·.name = directive.name) with
  | none => return ()
  | some use => directive.arguments.forM (checkArgument use)

def entry? (fields : List (String × Value)) (key : String) : Option Value :=
  (fields.reverse.find? (·.1 = key)).map (·.2)

def setsOne (fields : List InputValue) (given : List (String × Value)) : Bool :=
  let set := fields.map fun field =>
    match entry? given field.name with
    | none => field.default
    | value => DefaultValue.of value
  set.filter (· ≠ .absent) = [.present]

mutual

/-- Whether a value fits a type. Looking at an input object reads its fields, which fails when they
do not fit together. `depth` bounds the nesting of values, types and defaults; a default that takes
part in its own definition fits nothing. -/
def fits (names : Names) : (depth : Nat) → TypeReference → Value → Except BuildFault Bool
  | 0, _, _ => return false
  | depth + 1, .nonNull type, value =>
    match value with
    | .null => return false
    | _ => fits names depth type value
  | depth + 1, .list item, value =>
    match value with
    | .null => return true
    | .list items => items.allM (fits names depth item)
    | _ => fits names depth item value
  | depth + 1, .named name, value =>
    match value, names.kind? name with
    | .null, _ => return true
    | .object given, some .input => do
      let fields ← inputFields names depth name
      let fieldsFit ← fields.allM fun field =>
        match entry? given field.name with
        | none => return !field.isRequired
        | some value => fits names depth field.type value
      return fieldsFit && (!names.exclusive.contains name || setsOne fields given)
    | _, some .input => return false
    | .enum value, some .enum => return (names.enumValues name).contains value
    | _, some .enum => return false
    | value, some .scalar => return scalarAccepts name value
    | _, _ => throw (.defaultOfNoInput name)

def inputFields (names : Names) : (depth : Nat) → String → Except BuildFault (List InputValue)
  | 0, _ => return []
  | depth + 1, name =>
    match names.body? name with
    | some (.input fields) =>
      match fields.mapM (inputValue names depth .inputFieldIsNoInput) with
      | .ok values => .ok values
      | .error fault => .error (.unresolvedFields name fault)
    | _ => return []

/-- An argument or a field of an input object. Its default and why it is deprecated are read before
its type is looked at. -/
def inputValue (names : Names) : (depth : Nat) → BuildFault → InputDefinition →
    Except BuildFault InputValue
  | 0, _, definition => return ⟨definition.name, definition.type, .absent⟩
  | depth + 1, fault, definition => do
    let hasDefault ←
      match definition.default with
      | none => pure false
      | some value => fits names depth definition.type value
    checkUse Standard.deprecated definition.directives
    let default := if hasDefault then DefaultValue.of definition.default else .absent
    if names.isInput definition.type then return ⟨definition.name, definition.type, default⟩
    else throw fault

end

/-- A field of an object or an interface. Its arguments and why it is deprecated are read before its
type is looked at. -/
def outputField (names : Names) (depth : Nat) (field : FieldDefinition) :
    Except BuildFault OutputField := do
  let arguments ← field.arguments.mapM (inputValue names depth .argumentIsNoInput)
  checkUse Standard.deprecated field.directives
  if names.isOutput field.type then return ⟨field.name, field.type, arguments⟩
  else throw .fieldIsNoOutput

def outputFields (names : Names) (depth : Nat) (type : String) (fields : List FieldDefinition) :
    Except BuildFault (List OutputField) :=
  match fields.mapM (outputField names depth) with
  | .ok fields => .ok fields
  | .error fault => .error (.unresolvedFields type fault)

def checkInterfaces (names : Names) (type : String) (interfaces : List String) :
    Except BuildFault Unit :=
  if interfaces.all (names.kind? · = some .interface) then return ()
  else throw (.interfacesAreNot type)

def shape (names : Names) (depth : Nat) (type : String) : TypeBody → Except BuildFault TypeShape
  | .scalar => return .scalar
  | .object interfaces fields => do
    checkInterfaces names type interfaces
    return .object interfaces (← outputFields names depth type fields)
  | .interface interfaces fields => do
    checkInterfaces names type interfaces
    return .interface interfaces (← outputFields names depth type fields)
  | .union members =>
    if members.all (names.kind? · = some .object) then return .union members
    else throw (.membersAreNotObjects type)
  | .enum values => return .enum (values.map (·.name))
  | .input _ => return .input (← inputFields names depth type)

def referencedTypes : TypeBody → List String
  | .object _ fields | .interface _ fields =>
    fields.flatMap fun field =>
      field.type.baseName :: field.arguments.map (·.type.baseName)
  | .input fields => fields.map (·.type.baseName)
  | .scalar | .union _ | .enum _ => []

def namedRoots (definitions : List SourceDefinition) : List RootDefinition :=
  definitions.flatMap fun
    | .typeSystem (.schema _ _ roots) => roots
    | _ => []

/-- The name that makes a type the root of an operation kind when no schema is defined. -/
def conventionalRoot : OperationKind → String
  | .query => "Query"
  | .mutation => "Mutation"
  | .subscription => "Subscription"

/-- The root of an operation kind. Extensions of a schema that is not defined count, but types with
conventional names come before them. -/
def root (definitions : List SourceDefinition) (kind : OperationKind) : Option String :=
  let schemaDefined := definitions.any fun
    | .typeSystem (.schema .definition _ _) => true
    | _ => false
  let named := ((namedRoots definitions).find? (·.kind = kind)).map (·.type)
  if !schemaDefined && (mergedTypes definitions).any (·.1 = conventionalRoot kind) then
    some (conventionalRoot kind)
  else named

/-- The scalars that are in the schema because the text uses or defines them. -/
def usedScalars (definitions : List SourceDefinition) : List String :=
  let types := mergedTypes definitions
  let used :=
    types.map (·.1) ++
    (types.filter (!Standard.isReserved ·.1)).flatMap (referencedTypes ·.2) ++
    (directiveDefinitions definitions).flatMap (·.arguments.map (·.type.baseName)) ++
    (namedRoots definitions).map (·.type)
  Standard.scalarNames.filter fun name =>
    used.contains name && !Standard.permanentScalarNames.contains name

/-- Checks what the directives of scalars and enum values are given. -/
def checkLeaves (definitions : List SourceDefinition) : Except BuildFault Unit :=
  definitions.forM fun
    | .typeSystem (.type .definition type) =>
      if Standard.isReserved type.name then return ()
      else
        match (extensionsOf definitions type.name).foldl extend type.body with
        | .scalar => checkUse Standard.specifiedBy type.directives
        | .enum values => values.forM fun value => checkUse Standard.deprecated value.directives
        | _ => return ()
    | _ => return ()

/-- The schema of definitions that keep to the rules. Scalars and enums are looked at first, then
directives, then the other types. -/
def schema (definitions : List SourceDefinition) (depth : Nat) : Except BuildFault Schema := do
  let types := mergedTypes definitions
  let names : Names := ⟨types, exclusiveInputs definitions⟩
  checkLeaves definitions
  (directiveDefinitions definitions).forM fun directive =>
    directive.arguments.forM fun argument =>
      discard (inputValue names depth .argumentIsNoInput argument)
  let own ← (types.filter (!Standard.isReserved ·.1)).mapM fun (name, body) => do
    return (⟨name, ← shape names depth name body⟩ : NamedType)
  return {
    types := Standard.permanentTypes ++ (usedScalars definitions).map Standard.scalar ++ own
    root := root definitions }

end Build

def Schema.ofText (text : String) : Except SchemaError Schema :=
  match parseSource text with
  | .error error => .error (.unreadable text error)
  | .ok definitions =>
    match Rules.faults definitions with
    | [] =>
      match Build.schema definitions (4 * text.length + 16) with
      | .ok schema => .ok schema
      | .error fault => .error (.buildFault text fault)
    | faults => .error (.ruleFaults faults)

end DocumentNormalizer
