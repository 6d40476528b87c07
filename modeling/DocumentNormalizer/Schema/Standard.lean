import DocumentNormalizer.Schema.Basic

namespace DocumentNormalizer.Standard

def scalarNames : List String := ["Int", "Float", "String", "Boolean", "ID"]

/-- The scalars that are in every schema; the others are in those that use them. -/
def permanentScalarNames : List String := ["String", "Boolean"]

def scalar (name : String) : NamedType := ⟨name, .scalar⟩

def field (name : String) (type : TypeReference) : OutputField := ⟨name, type, []⟩

/-- A field of which deprecated members are left out unless one asks for them. -/
def filteredField (name : String) (type : TypeReference) : OutputField :=
  ⟨name, type, [⟨"includeDeprecated", .named "Boolean", .present⟩]⟩

def listOf (name : String) : TypeReference := .list (.nonNull (.named name))

def required (name : String) : TypeReference := .nonNull (.named name)

def introspectionTypes : List NamedType := [
  ⟨"__Schema", .object [] [
    field "description" (.named "String"),
    field "types" (.nonNull (listOf "__Type")),
    field "queryType" (required "__Type"),
    field "mutationType" (.named "__Type"),
    field "subscriptionType" (.named "__Type"),
    filteredField "directives" (.nonNull (listOf "__Directive"))]⟩,
  ⟨"__Type", .object [] [
    field "kind" (required "__TypeKind"),
    field "name" (.named "String"),
    field "description" (.named "String"),
    field "specifiedByURL" (.named "String"),
    filteredField "fields" (listOf "__Field"),
    field "interfaces" (listOf "__Type"),
    field "possibleTypes" (listOf "__Type"),
    filteredField "enumValues" (listOf "__EnumValue"),
    filteredField "inputFields" (listOf "__InputValue"),
    field "ofType" (.named "__Type"),
    field "isOneOf" (.named "Boolean")]⟩,
  ⟨"__TypeKind", .enum
    ["SCALAR", "OBJECT", "INTERFACE", "UNION", "ENUM", "INPUT_OBJECT", "LIST", "NON_NULL"]⟩,
  ⟨"__Field", .object [] [
    field "name" (required "String"),
    field "description" (.named "String"),
    filteredField "args" (.nonNull (listOf "__InputValue")),
    field "type" (required "__Type"),
    field "isDeprecated" (required "Boolean"),
    field "deprecationReason" (.named "String")]⟩,
  ⟨"__InputValue", .object [] [
    field "name" (required "String"),
    field "description" (.named "String"),
    field "type" (required "__Type"),
    field "defaultValue" (.named "String"),
    field "isDeprecated" (required "Boolean"),
    field "deprecationReason" (.named "String")]⟩,
  ⟨"__EnumValue", .object [] [
    field "name" (required "String"),
    field "description" (.named "String"),
    field "isDeprecated" (required "Boolean"),
    field "deprecationReason" (.named "String")]⟩,
  ⟨"__Directive", .object [] [
    field "name" (required "String"),
    field "description" (.named "String"),
    field "isRepeatable" (required "Boolean"),
    field "locations" (.nonNull (listOf "__DirectiveLocation")),
    filteredField "args" (.nonNull (listOf "__InputValue")),
    field "isDeprecated" (required "Boolean"),
    field "deprecationReason" (.named "String")]⟩,
  ⟨"__DirectiveLocation", .enum (DirectiveLocation.all.map (·.keyword))⟩]

def permanentTypes : List NamedType :=
  introspectionTypes ++ permanentScalarNames.map scalar

/-- The types whose meaning a definition of the same name does not change. -/
def reservedTypes : List NamedType := introspectionTypes ++ scalarNames.map scalar

def isReserved (name : String) : Bool := reservedTypes.any (·.name = name)

def argument (name : String) (type : TypeReference) (default : Option Value) : InputDefinition :=
  ⟨name, type, default, []⟩

/-- The directive that says that something should not be used any more, and why. -/
def deprecated : DirectiveDefinition :=
  ⟨"deprecated",
    [argument "reason" (.named "String") (some (.string ⟨"No longer supported", false⟩))], false,
    [.fieldDefinition, .argumentDefinition, .inputFieldDefinition, .enumValue,
      .directiveDefinition]⟩

def specifiedBy : DirectiveDefinition :=
  ⟨"specifiedBy", [argument "url" (required "String") none], false, [.scalar]⟩

def oneOf : DirectiveDefinition := ⟨"oneOf", [], false, [.inputObject]⟩

def directives : List DirectiveDefinition := [
  ⟨"include", [argument "if" (required "Boolean") none], false,
    [.field, .fragmentSpread, .inlineFragment]⟩,
  ⟨"skip", [argument "if" (required "Boolean") none], false,
    [.field, .fragmentSpread, .inlineFragment]⟩,
  deprecated,
  specifiedBy,
  oneOf]

end DocumentNormalizer.Standard
