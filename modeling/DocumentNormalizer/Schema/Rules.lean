import DocumentNormalizer.Language.Printer
import DocumentNormalizer.Schema.Standard
import DocumentNormalizer.Text.Edits

namespace DocumentNormalizer

/-- A way in which definitions break the rules. -/
inductive RuleFault where
  | secondSchema
  | repeatedRoot (kind : OperationKind)
  | repeatedType (name : String)
  | repeatedEnumValue (type value : String)
  | repeatedField (type field : String)
  | repeatedArgumentDefinition (owner argument : String)
  | repeatedDirectiveDefinition (name : String)
  | unknownType (name : String) (near : List String)
  | unknownDirective (name : String)
  | misplacedDirective (name : String) (location : DirectiveLocation)
  | repeatedDirective (name : String)
  | extensionOfOtherKind (kind : TypeKind) (type : String)
  | extensionOfUndefined (type : String) (near : List String)
  | unknownArgument (argument directive : String) (near : List String)
  | repeatedArgument (name : String)
  | repeatedInputField (name : String)
  | missingArgument (directive argument : String) (type : TypeReference)

def TypeKind.adjective : TypeKind → String
  | .input => "input object"
  | kind => kind.text

/-- A question for one of some names, of which the first five count. -/
def meant (names : List String) : String :=
  match (names.take 5).map fun name => "'" ++ name ++ "'" with
  | [] => ""
  | [name] => " Did you mean " ++ name ++ "?"
  | [first, second] => " Did you mean " ++ first ++ " or " ++ second ++ "?"
  | names =>
    " Did you mean " ++ ", ".intercalate names.dropLast ++ ", or " ++ names.getLastD "" ++ "?"

def RuleFault.message : RuleFault → String
  | .secondSchema => "Must provide only one schema definition."
  | .repeatedRoot kind => "There can be only one " ++ kind.text ++ " type in schema."
  | .repeatedType name => "There can be only one type named '" ++ name ++ "'."
  | .repeatedEnumValue type value =>
    "Enum value '" ++ type ++ "." ++ value ++ "' can only be defined once."
  | .repeatedField type field =>
    "Field '" ++ type ++ "." ++ field ++ "' can only be defined once."
  | .repeatedArgumentDefinition owner argument =>
    "Argument '" ++ owner ++ "(" ++ argument ++ ":)' can only be defined once."
  | .repeatedDirectiveDefinition name => "There can be only one directive named '@" ++ name ++ "'."
  | .unknownType name near => "Unknown type '" ++ name ++ "'." ++ meant near
  | .unknownDirective name => "Unknown directive '@" ++ name ++ "'."
  | .misplacedDirective name location =>
    "Directive '@" ++ name ++ "' may not be used on " ++ location.text ++ "."
  | .repeatedDirective name =>
    "The directive '@" ++ name ++ "' can only be used once at this location."
  | .extensionOfOtherKind kind type =>
    "Cannot extend non-" ++ kind.adjective ++ " type '" ++ type ++ "'."
  | .extensionOfUndefined type near =>
    "Cannot extend type '" ++ type ++ "' because it is not defined." ++ meant near
  | .unknownArgument argument directive near =>
    "Unknown argument '" ++ argument ++ "' on directive '@" ++ directive ++ "'." ++ meant near
  | .repeatedArgument name => "There can be only one argument named '" ++ name ++ "'."
  | .repeatedInputField name => "There can be only one input field named '" ++ name ++ "'."
  | .missingArgument directive argument type =>
    "Directive '@" ++ directive ++ "' argument '" ++ argument ++ "' of type '" ++
      Printer.typeReference type ++ "' is required, but it was not provided."

namespace Rules

/-- The members of a list that were there before, in `seen` or earlier in the list itself. -/
def repeated (seen : List String) : List String → List String
  | [] => []
  | name :: names =>
    if seen.contains name then name :: repeated seen names
    else repeated (name :: seen) names

/-- The members of a list that it has more than once, each one time and in the order in which they
come up first. -/
def duplicated (names : List String) : List String :=
  names.eraseDups.filter fun name => names.count name > 1

/-- The part of the definitions that the rules look up. -/
structure Scope where
  typeKinds : List (String × TypeKind)
  directives : List DirectiveDefinition

/-- The last directive with a name: a definition comes before what every schema has. -/
def Scope.directive? (scope : Scope) (name : String) : Option DirectiveDefinition :=
  scope.directives.reverse.find? (·.name = name)

def Scope.typeKind? (scope : Scope) (name : String) : Option TypeKind :=
  (scope.typeKinds.reverse.find? (·.1 = name)).map (·.2)

def Scope.typeNames (scope : Scope) : List String := scope.typeKinds.map (·.1)

def Scope.of (definitions : List SourceDefinition) : Scope where
  typeKinds := definitions.filterMap fun
    | .typeSystem (.type .definition type) => some (type.name, type.body.kind)
    | _ => none
  directives := Standard.directives ++ definitions.filterMap fun
    | .typeSystem (.directive directive) => some directive
    | _ => none

mutual

def valueFaults : Value → List RuleFault
  | .list items => itemFaults items
  | .object fields => entryFaults [] fields
  | _ => []

def itemFaults : List Value → List RuleFault
  | [] => []
  | item :: items => valueFaults item ++ itemFaults items

def entryFaults (seen : List String) : List (String × Value) → List RuleFault
  | [] => []
  | (name, item) :: fields =>
    (if seen.contains name then [.repeatedInputField name] else []) ++
      valueFaults item ++ entryFaults (name :: seen) fields

end

def argumentFaults (arguments : List Argument) : List RuleFault :=
  (duplicated (arguments.map (·.name))).map .repeatedArgument

def argumentValueFaults (arguments : List Argument) : List RuleFault :=
  arguments.flatMap fun argument => valueFaults argument.value

def isRequired (argument : InputDefinition) : Bool :=
  match argument.type with
  | .nonNull _ => argument.default.isNone
  | .named _ | .list _ => false

/-- The arguments that a directive has to be given. Of definitions with one name the last one counts,
at the place of the first. -/
def requiredArguments (definition : DirectiveDefinition) : List InputDefinition :=
  let required := definition.arguments.filter isRequired
  (required.map (·.name)).eraseDups.filterMap fun name =>
    required.reverse.find? (·.name = name)

def directiveFaults (scope : Scope) (location : DirectiveLocation) (directive : Directive) :
    List RuleFault :=
  let given := directive.arguments.map (·.name)
  match scope.directive? directive.name with
  | none =>
    .unknownDirective directive.name :: argumentFaults directive.arguments ++
      argumentValueFaults directive.arguments
  | some definition =>
    let known := definition.arguments.map (·.name)
    (if definition.locations.contains location then []
      else [.misplacedDirective directive.name location]) ++
    ((given.filter (!known.contains ·)).map fun name =>
      .unknownArgument name directive.name (Text.nearWords name known)) ++
    argumentFaults directive.arguments ++
    argumentValueFaults directive.arguments ++
    ((requiredArguments definition).filter (!given.contains ·.name)).map fun argument =>
      .missingArgument directive.name argument.name argument.type

/-- The directives at one place that may not be used again. -/
def singleUse (scope : Scope) (directives : List Directive) : List String :=
  (directives.map (·.name)).filter fun name =>
    (scope.directive? name).any fun definition => !definition.repeatable

def repeatedDirectives (scope : Scope) (before directives : List Directive) : List RuleFault :=
  (repeated (singleUse scope before) (singleUse scope directives)).map .repeatedDirective

def directivesFaults (scope : Scope) (location : DirectiveLocation)
    (directives : List Directive) : List RuleFault :=
  directives.flatMap (directiveFaults scope location)

def typeFaults (scope : Scope) (name : String) : List RuleFault :=
  if (scope.typeKind? name).isSome || Standard.isReserved name then []
  else
    let names := Standard.reservedTypes.map (·.name) ++ scope.typeNames
    [.unknownType name (Text.nearWords name names)]

def inputFaults (scope : Scope) (location : DirectiveLocation) (input : InputDefinition) :
    List RuleFault :=
  repeatedDirectives scope [] input.directives ++
  typeFaults scope input.type.baseName ++
  ((input.default.map valueFaults).getD []) ++
  directivesFaults scope location input.directives

def fieldFaults (scope : Scope) (field : FieldDefinition) : List RuleFault :=
  repeatedDirectives scope [] field.directives ++
  field.arguments.flatMap (inputFaults scope .argumentDefinition) ++
  typeFaults scope field.type.baseName ++
  directivesFaults scope .fieldDefinition field.directives

def enumValueFaults (scope : Scope) (value : EnumValueDefinition) : List RuleFault :=
  repeatedDirectives scope [] value.directives ++
  directivesFaults scope .enumValue value.directives

def fieldNames : TypeBody → List String
  | .object _ fields | .interface _ fields => fields.map (·.name)
  | .input fields => fields.map (·.name)
  | .scalar | .union _ | .enum _ => []

def enumValueNames : TypeBody → List String
  | .enum values => values.map (·.name)
  | _ => []

def argumentDefinitionFaults (owner : String) (arguments : List InputDefinition) :
    List RuleFault :=
  (duplicated (arguments.map (·.name))).map (.repeatedArgumentDefinition owner)

def fieldArgumentFaults (type : String) : TypeBody → List RuleFault
  | .object _ fields | .interface _ fields =>
    fields.flatMap fun field => argumentDefinitionFaults (type ++ "." ++ field.name) field.arguments
  | .scalar | .union _ | .enum _ | .input _ => []

def typeLocation : TypeKind → DirectiveLocation
  | .scalar => .scalar
  | .object => .object
  | .interface => .interface
  | .union => .union
  | .enum => .enum
  | .input => .inputObject

/-- Where the directives of a field of an input object stand. Fields that an extension adds are taken
for arguments. -/
def inputFieldLocation : Role → DirectiveLocation
  | .definition => .inputFieldDefinition
  | .extension => .argumentDefinition

def contentFaults (scope : Scope) (role : Role) (type : TypeDefinition) : List RuleFault :=
  let directives := directivesFaults scope (typeLocation type.body.kind) type.directives
  match type.body with
  | .scalar => directives
  | .object interfaces fields | .interface interfaces fields =>
    interfaces.flatMap (typeFaults scope) ++ directives ++ fields.flatMap (fieldFaults scope)
  | .union members => directives ++ members.flatMap (typeFaults scope)
  | .enum values => directives ++ values.flatMap (enumValueFaults scope)
  | .input fields => directives ++ fields.flatMap (inputFaults scope (inputFieldLocation role))

def extensionFaults (scope : Scope) (type : TypeDefinition) : List RuleFault :=
  match scope.typeKind? type.name with
  | none => [.extensionOfUndefined type.name (Text.nearWords type.name scope.typeNames)]
  | some kind =>
    if kind = type.body.kind then [] else [.extensionOfOtherKind type.body.kind type.name]

def partsOf (name : String) (definitions : List SourceDefinition) : List TypeDefinition :=
  definitions.filterMap fun
    | .typeSystem (.type _ type) => if type.name = name then some type else none
    | _ => none

/-- The faults of the definition or extension of a type that comes after others. -/
def typeDefinitionFaults (scope : Scope) (earlier : List SourceDefinition) (role : Role)
    (type : TypeDefinition) : List RuleFault :=
  let parts := partsOf type.name earlier
  let defined := earlier.any fun
    | .typeSystem (.type .definition other) => other.name = type.name
    | _ => false
  (if role = .definition && defined then [.repeatedType type.name] else []) ++
  (repeated (parts.flatMap fun part => enumValueNames part.body) (enumValueNames type.body)).map
    (.repeatedEnumValue type.name) ++
  (repeated (parts.flatMap fun part => fieldNames part.body) (fieldNames type.body)).map
    (.repeatedField type.name) ++
  fieldArgumentFaults type.name type.body ++
  repeatedDirectives scope (parts.flatMap (·.directives)) type.directives ++
  (if role = .extension then extensionFaults scope type else []) ++
  contentFaults scope role type

def schemaParts (definitions : List SourceDefinition) :
    List (Role × List Directive × List RootDefinition) :=
  definitions.filterMap fun
    | .typeSystem (.schema role directives roots) => some (role, directives, roots)
    | _ => none

def repeatedRoots (seen : List OperationKind) : List RootDefinition → List RuleFault
  | [] => []
  | root :: roots =>
    if seen.contains root.kind then .repeatedRoot root.kind :: repeatedRoots seen roots
    else repeatedRoots (root.kind :: seen) roots

def schemaFaults (scope : Scope) (earlier : List SourceDefinition) (role : Role)
    (directives : List Directive) (roots : List RootDefinition) : List RuleFault :=
  let parts := schemaParts earlier
  (if role = .definition && parts.any (·.1 = .definition) then [.secondSchema] else []) ++
  repeatedRoots (parts.flatMap fun (_, _, roots) => roots.map (·.kind)) roots ++
  repeatedDirectives scope (parts.flatMap fun (_, directives, _) => directives) directives ++
  directivesFaults scope .schema directives ++
  roots.flatMap fun root => typeFaults scope root.type

def directiveDefinitionFaults (scope : Scope) (earlier : List SourceDefinition)
    (directive : DirectiveDefinition) : List RuleFault :=
  let defined := earlier.any fun
    | .typeSystem (.directive other) => other.name = directive.name
    | _ => false
  argumentDefinitionFaults ("@" ++ directive.name) directive.arguments ++
  (if defined then [.repeatedDirectiveDefinition directive.name] else []) ++
  directive.arguments.flatMap (inputFaults scope .argumentDefinition)

/-- A named type in something to run that no definition of the text defines. -/
def usedTypeFaults (scope : Scope) (name : String) : List RuleFault :=
  if (scope.typeKind? name).isSome then []
  else [.unknownType name (Text.nearWords name scope.typeNames)]

def selectedFieldFaults (scope : Scope) (field : Field) : List RuleFault :=
  repeatedDirectives scope [] field.directives ++
  argumentFaults field.arguments ++
  argumentValueFaults field.arguments ++
  directivesFaults scope .field field.directives

mutual

def selectionFaults (scope : Scope) : Selection → List RuleFault
  | .leaf field => selectedFieldFaults scope field
  | .branch field _ selections =>
    selectedFieldFaults scope field ++ selectionsFaults scope selections
  | .inline fragment _ selections =>
    repeatedDirectives scope [] fragment.directives ++
    (fragment.typeCondition.map (usedTypeFaults scope)).getD [] ++
    directivesFaults scope .inlineFragment fragment.directives ++
    selectionsFaults scope selections
  | .spread use =>
    repeatedDirectives scope [] use.directives ++
    directivesFaults scope .fragmentSpread use.directives

def selectionsFaults (scope : Scope) : List Selection → List RuleFault
  | [] => []
  | head :: rest => selectionFaults scope head ++ selectionsFaults scope rest

end

def variableFaults (scope : Scope) (declared : VariableDefinition) : List RuleFault :=
  repeatedDirectives scope [] declared.directives ++
  usedTypeFaults scope declared.type.baseName ++
  ((declared.default.map valueFaults).getD []) ++
  directivesFaults scope .variableDefinition declared.directives

def operationLocation : OperationKind → DirectiveLocation
  | .query => .query
  | .mutation => .mutation
  | .subscription => .subscription

/-- The faults of something to run that stands between the definitions of a type system. -/
def executableFaults (scope : Scope) (definition : Definition) : List RuleFault :=
  repeatedDirectives scope [] definition.directives ++
  (match definition.heading with
    | .operation kind _ declared =>
      declared.flatMap (variableFaults scope) ++
      directivesFaults scope (operationLocation kind) definition.directives
    | .fragment _ typeCondition =>
      usedTypeFaults scope typeCondition ++
      directivesFaults scope .fragmentDefinition definition.directives) ++
  selectionsFaults scope definition.selectionSet.selections

def definitionFaults (scope : Scope) (earlier : List SourceDefinition) :
    SourceDefinition → List RuleFault
  | .executable definition => executableFaults scope definition
  | .typeSystem (.schema role directives roots) =>
    schemaFaults scope earlier role directives roots
  | .typeSystem (.type role type) => typeDefinitionFaults scope earlier role type
  | .typeSystem (.directive directive) => directiveDefinitionFaults scope earlier directive

def faultsAfter (scope : Scope) (earlier : List SourceDefinition) :
    List SourceDefinition → List RuleFault
  | [] => []
  | definition :: rest =>
    definitionFaults scope earlier definition ++
      faultsAfter scope (earlier ++ [definition]) rest

def faults (definitions : List SourceDefinition) : List RuleFault :=
  faultsAfter (Scope.of definitions) [] definitions

end Rules

end DocumentNormalizer
