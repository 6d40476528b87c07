import DocumentNormalizer.Language.Parser
import DocumentNormalizer.Language.TypeSystem

namespace DocumentNormalizer

namespace Parser

def inputDefinition (depth : Nat) : Parser InputDefinition := do
  let _ ← description
  let inputName ← name
  let _ ← expect .colon
  let type ← typeReference depth
  let default ← defaultValue depth
  return ⟨inputName, type, default, ← directives true depth⟩

def argumentDefinitions (depth : Nat) : Parser (List InputDefinition) :=
  enclosedIfOpen .parenOpen (inputDefinition depth) .parenClose

def fieldDefinition (depth : Nat) : Parser FieldDefinition := do
  let _ ← description
  let fieldName ← name
  let taken ← argumentDefinitions depth
  let _ ← expect .colon
  let type ← typeReference depth
  return ⟨fieldName, taken, type, ← directives true depth⟩

def fieldDefinitions (depth : Nat) : Parser (List FieldDefinition) :=
  enclosedIfOpen .braceOpen (fieldDefinition depth) .braceClose

/-- Items with a separator between them, at most `rounds` more after the first. -/
def separatedUpTo {α : Type} (separator : Punctuator) (item : Parser α) :
    (rounds : Nat) → Parser (List α)
  | 0 => return [← item]
  | rounds + 1 => do
    let first ← item
    if ← accept separator then return first :: (← separatedUpTo separator item rounds)
    else return [first]

/-- At least one item, with a separator between them and perhaps one before the first. -/
def separated {α : Type} (separator : Punctuator) (item : Parser α) : Parser (List α) := do
  let _ ← accept separator
  separatedUpTo separator item (← remaining)

def interfaces : Parser (List String) := do
  if ← acceptKeyword "implements" then separated .ampersand name else return []

def unionMembers : Parser (List String) := do
  if ← accept .equals then separated .pipe name else return []

/-- The name of an enum value, which is none of the words for values of other types. -/
def enumValueName : Parser String := do
  let token ← current
  match token.lexeme.value? with
  | some "true" | some "false" | some "null" =>
    throw ⟨.reservedEnumValue token.lexeme, token.position⟩
  | _ => name

def enumValueDefinition (depth : Nat) : Parser EnumValueDefinition := do
  let _ ← description
  let valueName ← enumValueName
  return ⟨valueName, ← directives true depth⟩

def rootDefinition : Parser RootDefinition := do
  let kind ← operationKind
  let _ ← expect .colon
  return ⟨kind, ← name⟩

def typeKeyword : TypeKind → String
  | .scalar => "scalar"
  | .object => "type"
  | .interface => "interface"
  | .union => "union"
  | .enum => "enum"
  | .input => "input"

/-- A type definition from its keyword on, or an extension behind its first word. -/
def typeDefinition (kind : TypeKind) (depth : Nat) : Parser TypeDefinition := do
  expectKeyword (typeKeyword kind)
  let typeName ← name
  match kind with
  | .scalar => return ⟨typeName, ← directives true depth, .scalar⟩
  | .object =>
    let implemented ← interfaces
    let given ← directives true depth
    return ⟨typeName, given, .object implemented (← fieldDefinitions depth)⟩
  | .interface =>
    let implemented ← interfaces
    let given ← directives true depth
    return ⟨typeName, given, .interface implemented (← fieldDefinitions depth)⟩
  | .union =>
    let given ← directives true depth
    return ⟨typeName, given, .union (← unionMembers)⟩
  | .enum =>
    let given ← directives true depth
    let values ← enclosedIfOpen .braceOpen (enumValueDefinition depth) .braceClose
    return ⟨typeName, given, .enum values⟩
  | .input =>
    let given ← directives true depth
    let fields ← enclosedIfOpen .braceOpen (inputDefinition depth) .braceClose
    return ⟨typeName, given, .input fields⟩

def addsNothing (definition : TypeDefinition) : Bool :=
  definition.directives.isEmpty &&
    match definition.body with
    | .scalar => true
    | .object implemented fields | .interface implemented fields =>
      implemented.isEmpty && fields.isEmpty
    | .union members => members.isEmpty
    | .enum values => values.isEmpty
    | .input fields => fields.isEmpty

def directiveLocation : Parser DirectiveLocation := nameFor DirectiveLocation.ofKeyword?

def directiveDefinition (depth : Nat) : Parser DirectiveDefinition := do
  expectKeyword "directive"
  let _ ← expect .atSign
  let directiveName ← name
  let taken ← argumentDefinitions depth
  let repeatable ← acceptKeyword "repeatable"
  expectKeyword "on"
  return ⟨directiveName, taken, repeatable, ← separated .pipe directiveLocation⟩

def typeKind? (word : String) : Option TypeKind :=
  [TypeKind.scalar, .object, .interface, .union, .enum, .input].find? (typeKeyword · = word)

def extension (depth : Nat) : Parser TypeSystemDefinition := do
  let announced ← lookahead
  match announced.lexeme with
  | .name "schema" =>
    advance
    advance
    let given ← directives true depth
    let roots ← enclosedIfOpen .braceOpen rootDefinition .braceClose
    if given.isEmpty && roots.isEmpty then unexpected (← current)
    return .schema .extension given roots
  | .name word =>
    match typeKind? word with
    | none => unexpected announced
    | some kind =>
      advance
      let added ← typeDefinition kind depth
      if addsNothing added then unexpected (← current)
      return .type .extension added
  | _ => unexpected announced

def schemaDefinition (depth : Nat) : Parser TypeSystemDefinition := do
  expectKeyword "schema"
  let given ← directives true depth
  return .schema .definition given (← enclosedSome .braceOpen rootDefinition .braceClose)

/-- The definition that a word announces; a description may come before it. -/
def definitionAt (word : String) (depth : Nat) : Option (Parser SourceDefinition) :=
  match word with
  | "schema" =>
    some do
      let _ ← description
      return .typeSystem (← schemaDefinition depth)
  | "directive" =>
    some do
      let _ ← description
      return .typeSystem (.directive (← directiveDefinition depth))
  | "query" | "mutation" | "subscription" => some (.executable <$> operation depth)
  | "fragment" => some (.executable <$> fragment depth)
  | _ =>
    (typeKind? word).map fun kind => do
      let _ ← description
      return .typeSystem (.type .definition (← typeDefinition kind depth))

/-- The definition that a token announces. The first token is that one or a description before it. -/
def announcedDefinition (first announced : Token) (described : Bool) (depth : Nat) :
    Parser SourceDefinition :=
  match announced.lexeme with
  | .punctuator .braceOpen =>
    if described then throw ⟨.descriptionBeforeShorthand, first.position⟩
    else .executable <$> operation depth
  | .name word =>
    match definitionAt word depth with
    | some definition => definition
    | none =>
      if described then throw ⟨.descriptionBeforeOther, first.position⟩
      else if word = "extend" then .typeSystem <$> extension depth
      else unexpected announced
  | _ => unexpected announced

def sourceDefinition (depth : Nat) : Parser SourceDefinition := do
  let first ← current
  match first.lexeme with
  | .string _ _ => announcedDefinition first (← lookahead) true depth
  | _ => announcedDefinition first first false depth

/-- Definitions up to the end of the text, at least one and at most `rounds`. -/
def sourceDefinitions (depth : Nat) : (rounds : Nat) → Parser (List SourceDefinition)
  | 0 => return []
  | rounds + 1 => do
    let first ← sourceDefinition depth
    match (← current).lexeme with
    | .endOfText => return [first]
    | _ => return first :: (← sourceDefinitions depth rounds)

end Parser

def parseSource (text : String) : Except SyntaxError (List SourceDefinition) :=
  let tokens := Tokens.ofText text
  let bound := tokens.following.length + 1
  (Parser.sourceDefinitions bound bound).run' tokens

end DocumentNormalizer
