import DocumentNormalizer.Console.Handler.Token
import DocumentNormalizer.Text.Blank
import DocumentNormalizer.Text.Quoted

namespace DocumentNormalizer

inductive ExpressionSort where
  | number (imaginary signed : Bool)
  | constant (name : String)
  | tuple
  | mapping
  | set
  | name
  | attribute
  | call
  | arithmetic
  | formatted
  | lambda
  | other
deriving DecidableEq

def ExpressionSort.text : ExpressionSort → String
  | .number _ false => "literal"
  | .number _ true | .arithmetic => "expression"
  | .constant word => word
  | .tuple => "tuple"
  | .mapping => "dict literal"
  | .set => "set display"
  | .name => "name"
  | .attribute => "attribute"
  | .call => "function call"
  | .formatted => "f-string expression"
  | .lambda => "lambda"
  | .other => "expression"

/-- An expression, why it has no value, and the sort of what it holds that cannot be a key. -/
structure LiteralPart where
  sort : ExpressionSort
  fault : Option LiteralFault
  noKey : Option String

/-- The tokens that are left, what is wrong behind them, and how many brackets are open behind the token
taken last. `guesses` tells whether to look for what may be meant. -/
structure LiteralReader where
  tokens : List (LiteralToken × Nat)
  stop : Option LiteralFault
  depth : Nat
  guesses : Bool

/-- How an expression stands between others. -/
inductive ElementSort where
  | plain | named | starred
deriving DecidableEq

abbrev ReadLiteral := StateT LiteralReader (Except LiteralFault)

namespace ReadLiteral

/-- The token at hand. What is wrong behind the last token comes to light where one more is asked for. -/
def peek? : ReadLiteral (Option LiteralToken) := do
  let reader ← get
  match reader.tokens, reader.stop with
  | [], some fault => throw fault
  | tokens, _ => return tokens.head?.map (·.1)

def isAt (mark : String) : ReadLiteral Bool := return (← peek?) = some (.mark mark)

def isAtWord (word : String) : ReadLiteral Bool := return (← peek?) = some (.word word)

def advance : ReadLiteral Unit :=
  modify fun reader =>
    match reader.tokens with
    | [] => reader
    | (_, depth) :: tokens => { reader with tokens, depth }

def accept (mark : String) : ReadLiteral Bool := do
  if ← isAt mark then
    advance
    return true
  else return false

def expect (mark : String) : ReadLiteral Unit := do
  if !(← accept mark) then throw .other

/-- Breaks off at what may be meant, if that is looked for. -/
def guess (fault : LiteralFault) : ReadLiteral Unit := do
  if (← get).guesses then throw fault

def attempt? {α : Type} (read : ReadLiteral α) : ReadLiteral (Option α) := do
  let reader ← get
  match read.run reader with
  | .ok (value, reader) =>
    set reader
    return some value
  | .error .other => return none
  | .error fault => throw fault

/-- What comes of reading ahead without a guess, if something does. -/
def ahead? {α : Type} (read : ReadLiteral α) : ReadLiteral (Option α) := do
  let reader ← get
  set { reader with guesses := false }
  let value ← attempt? read
  set reader
  return value

def guessAhead {α : Type} (read : ReadLiteral α) : ReadLiteral Bool := do
  let reader ← get
  if !reader.guesses then return false
  let value ← attempt? read
  set reader
  return value.isSome

def isReserved (word : String) : Bool :=
  ["False", "None", "True", "and", "as", "assert", "async", "await", "break", "class", "continue",
    "def", "del", "elif", "else", "except", "finally", "for", "from", "global", "if", "import", "in",
    "is", "lambda", "nonlocal", "not", "or", "pass", "raise", "return", "try", "while", "with",
    "yield"].contains word

def isName : LiteralToken → Bool
  | .word word => !isReserved word
  | _ => false

def startsExpression : LiteralToken → Bool
  | .word word =>
    !isReserved word || ["False", "None", "True", "not", "lambda", "await"].contains word
  | .number _ | .quoted _ => true
  | .mark mark => ["\x7b", "~", "..."].contains mark

/-- Whether a token may follow an expression in brackets or braces. -/
def isBehindElement : LiteralToken → Bool
  | .word word => word = "for"
  | .mark mark => [",", ")", "\x7d"].contains mark
  | .number _ | .quoted _ => false

/-- Whether tokens start in a way that what follows is not taken for a forgotten comma. -/
def startsOddly : List (LiteralToken × Nat) → Bool
  | (first, _) :: (.quoted _, _) :: _ => isName first
  | (.word word, _) :: _ => ["_", "case", "match"].contains word
  | _ => false

def isArithmetic (mark : String) : Bool :=
  ["+", "-", "*", "/", "//", "%", "@", "<<", ">>", "&", "|", "^", "**"].contains mark

/-- Takes what compares two operands. -/
def acceptComparison : ReadLiteral Bool := do
  match ← peek? with
  | some (.mark mark) =>
    if ["==", "!=", "<", ">", "<=", ">="].contains mark then
      advance
      return true
    else return false
  | some (.word "in") =>
    advance
    return true
  | some (.word "is") =>
    advance
    if ← isAtWord "not" then advance
    return true
  | some (.word "not") =>
    match (← get).tokens with
    | _ :: (.word "in", _) :: _ =>
      advance
      advance
      return true
    | _ => return false
  | _ => return false

def noLiteral (sort : ExpressionSort) : LiteralPart := ⟨sort, some .malformed, none⟩

def signed (mark : String) (part : LiteralPart) : LiteralPart :=
  match part.sort with
  | .number imaginary false =>
    if mark = "~" then noLiteral .arithmetic else { part with sort := .number imaginary true }
  | _ => noLiteral .arithmetic

/-- Two expressions with a mark between them. Only the sum of a number and an imaginary one is a
literal. -/
def combined (mark : String) (first second : LiteralPart) : LiteralPart :=
  match first.sort, second.sort with
  | .number false _, .number true false =>
    if mark = "+" || mark = "-" then ⟨.arithmetic, none, none⟩ else noLiteral .arithmetic
  | _, _ => noLiteral .arithmetic

def tupleOf (parts : List LiteralPart) : LiteralPart :=
  ⟨.tuple, (parts.filterMap (·.fault)).head?, (parts.filterMap (·.noKey)).head?⟩

/-- What keeps an expression from being a member of a set or a key. -/
def keyFault? (part : LiteralPart) : Option LiteralFault := part.fault.or (part.noKey.map .noKey)

def setOf (parts : List LiteralPart) : LiteralPart :=
  ⟨.set, (parts.filterMap keyFault?).head?, some "set"⟩

def mappingOf (pairs : List (LiteralPart × LiteralPart)) : LiteralPart :=
  let faults := pairs.filterMap fun (key, value) =>
    key.fault.or (value.fault.or (keyFault? key))
  ⟨.mapping, faults.head?, some "dict"⟩

def texts : Nat → ReadLiteral (List QuotedText)
  | 0 => throw .other
  | bound + 1 => do
    match ← peek? with
    | some (.quoted text) =>
      advance
      return text :: (← texts bound)
    | _ => return []

def throwAny (fault? : Option LiteralFault) : ReadLiteral Unit :=
  match fault? with
  | some fault => throw fault
  | none => return

def take {α : Type} : Except LiteralFault α → ReadLiteral α
  | .ok value => return value
  | .error fault => throw fault

/-- Takes the result of a step on a formatted text. -/
def takeFormat {α : Type} (result : Except FormatFault α) : ReadLiteral α :=
  take (result.mapError .format)

mutual

def expression : Nat → ReadLiteral LiteralPart
  | 0 => throw .other
  | bound + 1 => do
    let start := (← get).tokens
    let first ← if ← isAtWord "lambda" then
        advance
        lambdaTail bound
        pure (noLiteral .lambda)
      else junction bound
    let behind ← get
    if (← get).guesses && !startsOddly start && (← peek?).any startsExpression then
      if let some reader ← ahead? (expression bound *> get) then
        if reader.depth ≠ 0 then throw .missingComma
    let isConditional ← if ← isAtWord "if" then
        advance
        pure (← attempt? (junction bound)).isSome
      else pure false
    if isConditional && (← isAtWord "else") then
      advance
      let _ ← expression bound
      return noLiteral .other
    if isConditional && !(← isAt ":") then guess .missingElse
    if let (word, _) :: others := start then
      if isName word && others.head?.map (·.1) ≠ some (.mark "(") then
        modify fun reader => { reader with tokens := others }
        let _ ← guessAhead (forgotten word bound)
    set behind
    return first

/-- The parameters of a function without a name, and its value. -/
def lambdaTail : Nat → ReadLiteral Unit
  | 0 => throw .other
  | bound + 1 => do
    if ← accept ":" then
      let _ ← expression bound
      return
    if !(← accept "/") then
      let isMarked ← if ← accept "**" then pure false else accept "*"
      if (← peek?).any isName then
        advance
        if ← accept "=" then
          let _ ← expression bound
      else if !isMarked then throw .other
    if (← accept ",") || (← isAt ":") then lambdaTail bound else throw .other

/-- What stands behind a word that may be a call without its brackets. -/
def forgotten (word : LiteralToken) : Nat → ReadLiteral Unit
  | 0 => throw .other
  | bound + 1 => do
    let _ ← accept "*"
    let _ ← expression bound
    match word with
    | .word "print" => throw (.forgottenBrackets "print")
    | .word "exec" => throw (.forgottenBrackets "exec")
    | _ => pure ()

def junction : Nat → ReadLiteral LiteralPart
  | 0 => throw .other
  | bound + 1 => do
    let first ← if ← isAtWord "not" then
        advance
        let _ ← junction bound
        pure (noLiteral .other)
      else comparison bound
    if (← isAtWord "and") || (← isAtWord "or") then
      let more ← attempt? (advance *> junction bound)
      return if more.isSome then noLiteral .other else first
    else return first

def comparison : Nat → ReadLiteral LiteralPart
  | 0 => throw .other
  | bound + 1 => do
    let first ← arithmetic bound
    let more ← attempt? do
      if !(← acceptComparison) then throw .other
      comparison bound
    return if more.isSome then noLiteral .other else first

def arithmetic : Nat → ReadLiteral LiteralPart
  | 0 => throw .other
  | bound + 1 => do arithmeticBehind (← operand bound) bound

def arithmeticBehind (first : LiteralPart) : Nat → ReadLiteral LiteralPart
  | 0 => throw .other
  | bound + 1 => do
    match ← peek? with
    | some (.mark mark) =>
      if !isArithmetic mark then return first
      match ← attempt? (advance *> operand bound) with
      | some second => arithmeticBehind (combined mark first second) bound
      | none => return first
    | _ => return first

def operand : Nat → ReadLiteral LiteralPart
  | 0 => throw .other
  | bound + 1 => do
    match ← peek? with
    | some (.mark mark) =>
      if ["+", "-", "~"].contains mark then
        advance
        return signed mark (← operand bound)
      else trailers (← atom bound) bound
    | _ => trailers (← atom bound) bound

/-- Attributes and calls behind an expression. -/
def trailers (first : LiteralPart) : Nat → ReadLiteral LiteralPart
  | 0 => throw .other
  | bound + 1 => do
    match ← attempt? (trailer first bound) with
    | some part => trailers part bound
    | none => return first

/-- An attribute or a call behind an expression. -/
def trailer (first : LiteralPart) : Nat → ReadLiteral LiteralPart
  | 0 => throw .other
  | bound + 1 => do
    if ← accept "." then
      if !(← peek?).any isName then throw .other
      advance
      return noLiteral .attribute
    else
      expect "("
      let isSet := first.noKey = some "set" && first.sort = .name && (← isAt ")")
      arguments bound
      return if isSet then ⟨.call, none, some "set"⟩ else noLiteral .call

def arguments : Nat → ReadLiteral Unit
  | 0 => throw .other
  | bound + 1 => do
    if ← accept ")" then return
    let start := (← get).tokens
    let starred ← if ← accept "**" then pure false else accept "*"
    let argument ← attempt? (expression bound)
    if argument.isNone then throw (if starred then .starAlone else .other)
    let alone := start.length = (← get).tokens.length + 1
    if ← isAt "=" then
      match start with
      | (.word word, _) :: _ =>
        if alone && ["True", "False", "None"].contains word then guess (.fixed word)
        else if !alone then guess .assignedArgument
      | _ => guess .assignedArgument
    if ← isAt ":=" then
      if !(alone && start.head?.any (isName ·.1)) then throw .other
    if (← isAt "=") || (← isAt ":=") then
      advance
      let _ ← expression bound
    clauses bound
    if ← accept "," then arguments bound
    else expect ")"

def clauses : Nat → ReadLiteral Unit
  | 0 => throw .other
  | bound + 1 => do
    if ← isAtWord "for" then
      advance
      targets bound
      let _ ← junction bound
      conditions bound
      clauses bound

/-- What a clause goes over, up to the word behind it. -/
def targets : Nat → ReadLiteral Unit
  | 0 => throw .other
  | bound + 1 => do
    let _ ← accept "*"
    let _ ← arithmetic bound
    if ← isAtWord "in" then advance
    else
      expect ","
      if ← isAtWord "in" then advance else targets bound

def conditions : Nat → ReadLiteral Unit
  | 0 => throw .other
  | bound + 1 => do
    if ← isAtWord "if" then
      advance
      let _ ← junction bound
      conditions bound

/-- A name, a constant, a number, a text, or something in brackets. -/
def atom : Nat → ReadLiteral LiteralPart
  | 0 => throw .other
  | bound + 1 => do
    let some token ← peek? | throw .other
    advance
    match token with
    | .number imaginary => return ⟨.number imaginary false, none, none⟩
    | .quoted text =>
      let texts := text :: (← texts bound)
      quotedTexts text.bytes texts bound
      return if texts.any (·.formatted) then noLiteral .formatted
        else ⟨.constant "literal", none, none⟩
    | .word word =>
      if ["True", "False", "None"].contains word then return ⟨.constant word, none, none⟩
      else if isReserved word then throw .other
      else return { noLiteral .name with noKey := if word = "set" then some "set" else none }
    | .mark "..." => return ⟨.constant "ellipsis", none, none⟩
    | .mark "(" => inBrackets bound
    | .mark "\x7b" => inBraces bound
    | .mark _ => throw .other

def quotedTexts (bytes : Bool) : List QuotedText → Nat → ReadLiteral Unit
  | [], _ => return
  | _, 0 => throw .other
  | text :: others, bound + 1 => do
    throwAny text.fault
    if text.bytes ≠ bytes then throw .mixedTexts
    if text.formatted then
      let _ ← formatted text.raw 0 text.content bound
    quotedTexts bytes others bound

/-- Checks a formatted text, or the shape of an expression in one, up to its end. -/
def formatted (raw : Bool) (level : Nat) (content : List Char) : Nat → ReadLiteral (List Char)
  | 0 => throw .other
  | bound + 1 => do
    let part ← takeFormat (Format.plainPart raw (level ≠ 0) false content)
    if !raw then throwAny (LiteralToken.wrongEscape? 0 part.text)
    if part.doubled then formatted raw level part.rest bound
    else
      match part.rest with
      | '\x7b' :: rest => formatted raw level (← braced raw level rest bound) bound
      | rest =>
        if level ≠ 0 && rest.isEmpty then throw (.format .unclosed)
        return rest

/-- Checks what stands in braces in a formatted text. -/
def braced (raw : Bool) (level : Nat) (content : List Char) : Nat → ReadLiteral (List Char)
  | 0 => throw .other
  | bound + 1 => do
    if 2 ≤ level then throw (.format .tooDeep)
    let (text, rest) ← takeFormat (Format.expressionPart [] none content)
    if text.all fun c => c = ' ' || c = '\t' || c = '\n' || c = '\x0c' then
      match rest.head? with
      | some '\x7d' | none => throw (.format .empty)
      | some mark => throw (.format (.missingBefore mark))
    let reader ← get
    let read ← take ((LiteralToken.ofText ('(' :: text ++ [')'])).mapError (·.ofPart))
    match (expression bound).run ⟨read.tokens, read.stop, 0, true⟩ with
    | .error fault => throw fault.ofPart
    | .ok _ => set reader
    let rest ← takeFormat (Format.passMarks rest)
    let rest ← match rest with
      | ':' :: [] => throw (.format .unclosed)
      | ':' :: shape => formatted raw (level + 1) shape bound
      | rest => pure rest
    match rest with
    | '\x7d' :: rest => return rest
    | _ => throw (.format .unclosed)

/-- An expression that may have a name or a star before it. For the first one in brackets, which end with
`closing?`, guesses are looked for where nothing that may follow comes after a star and an operand. -/
def element (closing? : Option String) : Nat → ReadLiteral (ElementSort × LiteralPart)
  | 0 => throw .other
  | bound + 1 => do
    if ← accept "*" then
      let reader ← get
      let part ← attempt? (arithmetic bound)
      let goesOn := part.isSome && (← peek?).any isBehindElement
      if goesOn then return (.starred, noLiteral .other)
      if closing?.isSome && reader.guesses then
        set reader
        if (← attempt? (expression bound)).isNone then throw .starAlone
        if closing? = some ")" && (← isAt ")") then throw .starred
      throw .other
    let start := (← get).tokens
    let first ← expression bound
    let alone := start.head?.any (isName ·.1) && start.length = (← get).tokens.length + 1
    if ← isAt ":=" then
      if alone then
        advance
        let _ ← expression bound
        return (.named, noLiteral .other)
      if ← guessAhead (advance *> expression bound) then throw (.walrus first.sort.text)
    else if ← isAt "=" then
      let fixed := start.head?.any fun (token, _) =>
        [LiteralToken.word "True", .word "False", .word "None"].contains token
      if !fixed then
        let isAssigned ← guessAhead do
          advance
          let _ ← arithmetic bound
          if (← isAt "=") || (← isAt ":=") then throw .other
        if isAssigned then
          if alone then throw .assignedName
          else if first.sort ≠ .tuple && first.sort ≠ .other then throw (.assigned first.sort.text)
    return (.plain, first)

def inBrackets : Nat → ReadLiteral LiteralPart
  | 0 => throw .other
  | bound + 1 => do
    if ← accept ")" then return tupleOf []
    if ← accept "**" then
      let _ ← expression bound
      expect ")"
      guess .doubleStarred
      throw .other
    let (sort, first) ← element (some ")") bound
    if ← accept ")" then
      if sort = .starred then
        guess .starred
        throw .other
      return first
    if ← isAtWord "for" then
      clauses bound
      expect ")"
      return noLiteral .other
    expect ","
    return tupleOf (first :: (← elements ")" bound))

def elements (closing : String) : Nat → ReadLiteral (List LiteralPart)
  | 0 => throw .other
  | bound + 1 => do
    if ← accept closing then return []
    let (_, first) ← element none bound
    if ← accept closing then return [first]
    expect ","
    return first :: (← elements closing bound)

/-- What stands in braces, up to the closing one: the members of a set, or keys and values. -/
def inBraces : Nat → ReadLiteral LiteralPart
  | 0 => throw .other
  | bound + 1 => do
    if ← accept "\x7d" then return mappingOf []
    if ← isAt "**" then return mappingOf (← entries bound)
    let (sort, first) ← element (some "\x7d") bound
    if ← isAt ":" then
      if sort ≠ .plain then throw .other
      return mappingOf (← entriesFrom first bound)
    if ← accept "\x7d" then return setOf [first]
    if ← isAtWord "for" then
      clauses bound
      expect "\x7d"
      return noLiteral .other
    expect ","
    return setOf (first :: (← elements "\x7d" bound))

/-- Keys and values, up to the closing brace. -/
def entries : Nat → ReadLiteral (List (LiteralPart × LiteralPart))
  | 0 => throw .other
  | bound + 1 => do
    if ← accept "**" then
      let _ ← arithmetic bound
      entriesBehind (noLiteral .other, noLiteral .other) bound
    else entriesFrom (← expression bound) bound

def entriesFrom (key : LiteralPart) : Nat → ReadLiteral (List (LiteralPart × LiteralPart))
  | 0 => throw .other
  | bound + 1 => do
    if !(← accept ":") then throw .missingColon
    entriesBehind (key, ← value bound) bound

/-- Keys and values behind others, of which a comprehension has only one pair. -/
def entriesBehind (entry : LiteralPart × LiteralPart) :
    Nat → ReadLiteral (List (LiteralPart × LiteralPart))
  | 0 => throw .other
  | bound + 1 => do
    if ← isAtWord "for" then
      clauses bound
      expect "\x7d"
      return [(noLiteral .other, noLiteral .other)]
    if ← accept "\x7d" then return [entry]
    expect ","
    if ← accept "\x7d" then return [entry]
    return entry :: (← entries bound)

def value : Nat → ReadLiteral LiteralPart
  | 0 => throw .other
  | bound + 1 => do
    if (← isAt "\x7d") || (← isAt ",") then throw .missingValue
    if ← accept "*" then
      let _ ← arithmetic bound
      throw .starredValue
    expression bound

end

/-- Expressions with commas between them, up to the end. -/
def whole : Nat → ReadLiteral (List LiteralPart)
  | 0 => throw .other
  | bound + 1 => do
    let first ← expression bound
    match ← peek? with
    | none => return [first]
    | some (.mark ",") =>
      advance
      if (← peek?).isNone then return [first, tupleOf []]
      return first :: (← whole bound)
    | some _ => throw .other

end ReadLiteral

/-- A fault in what a tag hands to its handler, and the text with the fault if it is no expression. -/
structure HandlerFault where
  parameters : String
  literal : String
  fault : LiteralFault

namespace HandlerFault

def message (fault : HandlerFault) : String :=
  let place := match fault.fault with
    | .malformed | .noKey _ => Text.quote fault.parameters
    | _ => Text.quote fault.literal ++ " in " ++ Text.quote fault.parameters
  "error parsing " ++ place ++ "; " ++ fault.fault.message

end HandlerFault

namespace Handler

def checkLiteral (text : List Char) : Except LiteralFault Unit := do
  let read ← LiteralToken.ofText text
  let reader : LiteralReader := ⟨read.tokens, read.stop, 0, true⟩
  let (parts, _) ← (ReadLiteral.whole (16 * text.length + 16)).run reader
  match (parts.filterMap (·.fault)).head? with
  | some fault => throw fault
  | none => return

def isNameChar (c : Char) : Bool := Text.isWord c || c = '.'

def literalText (text : List Char) : List Char :=
  let behind := text.dropWhile isNameChar
  let closes := behind.head? = some '(' && behind.getLast? = some ')' && !behind.contains '\n'
  if behind.isEmpty then "()".toList else if closes then behind else text

def check (parameters : String) : Except HandlerFault Unit :=
  let literal := literalText (Text.trim parameters.toList)
  (checkLiteral literal).mapError fun fault => ⟨parameters, String.ofList literal, fault⟩

end Handler

end DocumentNormalizer
