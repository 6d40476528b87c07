import DocumentNormalizer.Language.Lexer
import DocumentNormalizer.Language.Syntax
import DocumentNormalizer.Language.SyntaxError

namespace DocumentNormalizer

abbrev Parser := StateT Tokens (Except SyntaxError)

namespace Parser

/-- The token at hand. A fault in it counts from the moment it is looked at. -/
def current : Parser Token := do
  let token := (← get).current
  match token.lexeme with
  | .fault cause => throw ⟨.lexical cause, token.position⟩
  | _ => return token

def lookahead : Parser Token := do
  match (← get).following with
  | [] => current
  | token :: _ =>
    match token.lexeme with
    | .fault cause => throw ⟨.lexical cause, token.position⟩
    | _ => return token

/-- Goes on to the next token. The last one stays. -/
def advance : Parser Unit :=
  modify fun tokens =>
    match tokens.following with
    | [] => tokens
    | next :: rest => ⟨next, rest⟩

/-- Refuses a token where nothing in particular is asked for. -/
def unexpected {α : Type} (token : Token) : Parser α :=
  throw ⟨.unexpected token.lexeme, token.position⟩

/-- Refuses a token where something else is asked for. -/
def expected {α : Type} (wanted : Expectation) (token : Token) : Parser α :=
  throw ⟨.expected wanted token.lexeme, token.position⟩

def isMark (mark : Punctuator) (token : Token) : Bool :=
  match token.lexeme with
  | .punctuator found => found = mark
  | _ => false

def isName (token : Token) : Bool :=
  match token.lexeme with
  | .name _ => true
  | _ => false

def peek (mark : Punctuator) : Parser Bool := return isMark mark (← current)

def expect (mark : Punctuator) : Parser Token := do
  let token ← current
  if isMark mark token then
    advance
    return token
  else expected (.punctuator mark) token

def accept (mark : Punctuator) : Parser Bool := do
  if ← peek mark then
    advance
    return true
  else return false

def name : Parser String := do
  let token ← current
  match token.lexeme with
  | .name text =>
    advance
    return text
  | _ => expected .name token

/-- Reads a name that stands for something. The token behind a name is looked at before the name is
refused, so a fault in it counts first. -/
def nameFor {α : Type} (meaning : String → Option α) : Parser α := do
  let token ← current
  match meaning (← name) with
  | some found => return found
  | none =>
    let _ ← current
    unexpected token

def isKeyword (word : String) (token : Token) : Bool :=
  match token.lexeme with
  | .name text => text = word
  | _ => false

def expectKeyword (word : String) : Parser Unit := do
  let token ← current
  if isKeyword word token then advance else expected (.keyword word) token

def acceptKeyword (word : String) : Parser Bool := do
  if isKeyword word (← current) then
    advance
    return true
  else return false

def itemsUntil {α : Type} (item : Parser α) (closing : Punctuator) : (rounds : Nat) → Parser (List α)
  | 0 => do unexpected (← current)
  | rounds + 1 => do
    if ← accept closing then return []
    else
      let first ← item
      return first :: (← itemsUntil item closing rounds)

def remaining : Parser Nat := return (← get).following.length + 1

def enclosed {α : Type} (opening : Punctuator) (item : Parser α) (closing : Punctuator) :
    Parser (List α) := do
  let _ ← expect opening
  itemsUntil item closing (← remaining)

def enclosedSome {α : Type} (opening : Punctuator) (item : Parser α) (closing : Punctuator) :
    Parser (List α) := do
  let _ ← expect opening
  let first ← item
  return first :: (← itemsUntil item closing (← remaining))

/-- Nothing, or at least one item between two punctuators. -/
def enclosedIfOpen {α : Type} (opening : Punctuator) (item : Parser α) (closing : Punctuator) :
    Parser (List α) := do
  if ← peek opening then enclosedSome opening item closing else return []

def description : Parser (Option StringLiteral) := do
  match (← current).lexeme with
  | .string text block =>
    advance
    return some ⟨text, block⟩
  | _ => return none

def typeReference : (depth : Nat) → Parser TypeReference
  | 0 => do unexpected (← current)
  | depth + 1 => do
    let type ←
      if ← accept .bracketOpen then
        let item ← typeReference depth
        let _ ← expect .bracketClose
        pure (TypeReference.list item)
      else TypeReference.named <$> name
    if ← accept .bang then return .nonNull type else return type

def namedValue : String → Value
  | "true" => .boolean true
  | "false" => .boolean false
  | "null" => .null
  | name => .enum name

def value (constant : Bool) : (depth : Nat) → Parser Value
  | 0 => do unexpected (← current)
  | depth + 1 => do
    let token ← current
    match token.lexeme with
    | .punctuator .bracketOpen =>
      return .list (← enclosed .bracketOpen (value constant depth) .bracketClose)
    | .punctuator .braceOpen =>
      let entry : Parser (String × Value) := do
        let key ← name
        let _ ← expect .colon
        return (key, ← value constant depth)
      return .object (← enclosed .braceOpen entry .braceClose)
    | .int text =>
      advance
      return .int text
    | .float text =>
      advance
      return .float text
    | .string text block =>
      advance
      return .string ⟨text, block⟩
    | .name text =>
      advance
      return namedValue text
    | .punctuator .dollar =>
      advance
      if constant then
        match (← current).lexeme with
        | .name text => throw ⟨.variableInConstant text, token.position⟩
        | _ => unexpected token
      else return .variable (← name)
    | _ => unexpected token

def argument (constant : Bool) (depth : Nat) : Parser Argument := do
  let argumentName ← name
  let _ ← expect .colon
  let position := (← current).position
  return ⟨argumentName, ← value constant depth, position⟩

def arguments (constant : Bool) (depth : Nat) : Parser (List Argument) :=
  enclosedIfOpen .parenOpen (argument constant depth) .parenClose

def directivesUpTo (constant : Bool) (depth : Nat) : (rounds : Nat) → Parser (List Directive)
  | 0 => return []
  | rounds + 1 => do
    let position := (← current).position
    if ← accept .atSign then
      let directiveName ← name
      let given ← arguments constant depth
      return ⟨directiveName, given, position⟩ :: (← directivesUpTo constant depth rounds)
    else return []

def directives (constant : Bool) (depth : Nat) : Parser (List Directive) := do
  directivesUpTo constant depth (← remaining)

/-- The name of a fragment, which is any name but the word that starts a type condition. -/
def fragmentName : Parser String := do
  let token ← current
  if token.lexeme.value? = some "on" then unexpected token else name

def setOf (selection : Parser Selection) : Parser SelectionSet := do
  let position := (← current).position
  return ⟨some position, ← enclosedSome .braceOpen selection .braceClose⟩

def selection : (depth : Nat) → Parser Selection
  | 0 => do unexpected (← current)
  | depth + 1 => do
    let start := (← current).position
    if ← accept .spread then
      if ← acceptKeyword "on" then
        inlineBody start (some (← name)) (selection depth) depth
      else if isName (← current) then
        let fragment ← fragmentName
        return .spread ⟨fragment, ← directives false depth, some start⟩
      else inlineBody start none (selection depth) depth
    else
      let first ← name
      if ← accept .colon then fieldBody start (some first) (← name) (selection depth) depth
      else fieldBody start none first (selection depth) depth
where
  /-- The rest of a field behind its name. -/
  fieldBody (start : Position) (label : Option String) (fieldName : String)
      (inner : Parser Selection) (depth : Nat) : Parser Selection := do
    let given ← arguments false depth
    let field : Field := ⟨label, fieldName, given, ← directives false depth, some start⟩
    if ← peek .braceOpen then
      let set ← setOf inner
      return .branch field set.position set.selections
    else return .leaf field
  /-- The rest of an inline fragment behind its type condition. -/
  inlineBody (start : Position) (typeCondition : Option String) (inner : Parser Selection)
      (depth : Nat) : Parser Selection := do
    let given ← directives false depth
    let set ← setOf inner
    return .inline ⟨typeCondition, given, some start⟩ set.position set.selections

def selectionSet (depth : Nat) : Parser SelectionSet := setOf (selection depth)

def operationKind : Parser OperationKind := nameFor OperationKind.ofText?

def defaultValue (depth : Nat) : Parser (Option Value) := do
  if ← accept .equals then return some (← value true depth) else return none

def variableDefinition (depth : Nat) : Parser VariableDefinition := do
  let text ← description
  let _ ← expect .dollar
  let variableName ← name
  let _ ← expect .colon
  let type ← typeReference depth
  let default ← defaultValue depth
  return ⟨text, variableName, type, default, ← directives true depth⟩

/-- An operation. A query with nothing else to say may start with its selections. -/
def operation (depth : Nat) : Parser Definition := do
  let start := (← current).position
  if ← peek .braceOpen then
    return ⟨none, .operation .query none [], [], some start, ← selectionSet depth⟩
  else
    let text ← description
    let kind ← operationKind
    let operationName ← if isName (← current) then some <$> name else pure none
    let declared ← enclosedIfOpen .parenOpen (variableDefinition depth) .parenClose
    let given ← directives false depth
    return ⟨text, .operation kind operationName declared, given, some start,
      ← selectionSet depth⟩

def fragment (depth : Nat) : Parser Definition := do
  let start := (← current).position
  let text ← description
  expectKeyword "fragment"
  let fragmentName ← fragmentName
  expectKeyword "on"
  let typeCondition ← name
  let given ← directives false depth
  return ⟨text, .fragment fragmentName typeCondition, given, some start, ← selectionSet depth⟩

end Parser

end DocumentNormalizer
