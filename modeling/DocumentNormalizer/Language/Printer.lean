import DocumentNormalizer.Language.BlockText
import DocumentNormalizer.Language.Syntax
import DocumentNormalizer.Text.Hexadecimal

namespace DocumentNormalizer.Printer

def join (separator : String) (texts : List String) : String :=
  separator.intercalate (texts.filter (· ≠ ""))

/-- A text between two others, or nothing when the text is empty. -/
def wrap (opening text closing : String) : String :=
  if text = "" then "" else opening ++ text ++ closing

/-- Two blanks in front of every line. -/
def indent (text : String) : String :=
  let blanks (c : Char) : List Char := if c = '\n' then [c, ' ', ' '] else [c]
  wrap "  " (String.ofList (text.toList.flatMap blanks)) ""

def block (lines : List String) : String :=
  wrap "\x7b\n" (indent (join "\n" lines)) "\n\x7d"

def stringChar (c : Char) : String :=
  if c = '"' then "\\\""
  else if c = '\\' then "\\\\"
  else if c = '\x08' then "\\b"
  else if c = '\t' then "\\t"
  else if c = '\n' then "\\n"
  else if c = '\x0c' then "\\f"
  else if c = '\r' then "\\r"
  else if c.toNat < 0x20 ∨ (0x7F ≤ c.toNat ∧ c.toNat ≤ 0x9F) then
    "\\u" ++ Text.upperHexadecimal 4 c.toNat
  else c.toString

def string (text : String) : String :=
  "\"" ++ String.join (text.toList.map stringChar) ++ "\""

/-- The body of a block string, with a backslash before three quotes. -/
def escapeQuotes : List Char → List Char
  | '"' :: '"' :: '"' :: rest => '\\' :: '"' :: '"' :: '"' :: escapeQuotes rest
  | c :: rest => c :: escapeQuotes rest
  | [] => []

/-- A block string. Its quotes stand on lines of their own when the text has more than one line or
is long, and when it ends in a character that would run into the closing quotes. -/
def blockString (text : String) : String :=
  let chars := text.toList
  let escaped := escapeQuotes chars
  let endsInQuotes := ['\\', '"', '"', '"'].isSuffixOf escaped
  let runsIntoQuotes := (chars.getLast? = some '"' && !endsInQuotes) || chars.getLast? = some '\\'
  let spansLines := chars.contains '\n' || chars.contains '\r'
  let ownLines := spansLines || chars.length > 70 || runsIntoQuotes || endsInQuotes
  let startsIndented := !spansLines && chars.head?.any BlockText.isIndentation
  let opening := if ownLines && !startsIndented then "\n" else ""
  let closing := if ownLines then "\n" else ""
  "\"\"\"" ++ opening ++ String.ofList escaped ++ closing ++ "\"\"\""

def literal (literal : StringLiteral) : String :=
  if literal.block then blockString literal.text else string literal.text

mutual

def value : Value → String
  | .variable name => "$" ++ name
  | .int text | .float text | .enum text => text
  | .string text => literal text
  | .boolean true => "true"
  | .boolean false => "false"
  | .null => "null"
  | .list items => "[" ++ join ", " (values items) ++ "]"
  | .object fields => "\x7b" ++ join ", " (entries fields) ++ "\x7d"

def values : List Value → List String
  | [] => []
  | item :: items => value item :: values items

def entries : List (String × Value) → List String
  | [] => []
  | (name, item) :: fields => (name ++ ": " ++ value item) :: entries fields

end

def typeReference : TypeReference → String
  | .named name => name
  | .list item => "[" ++ typeReference item ++ "]"
  | .nonNull type => typeReference type ++ "!"

def argument (argument : Argument) : String :=
  argument.name ++ ": " ++ value argument.value

def directive (directive : Directive) : String :=
  "@" ++ directive.name ++ wrap "(" (join ", " (directive.arguments.map argument)) ")"

def directives (directives : List Directive) : String :=
  join " " (directives.map directive)

/-- How wide a field may be with its arguments on one line. -/
def lineWidth : Nat := 80

def fieldHead (field : Field) : String :=
  let name := wrap "" (field.label.getD "") ": " ++ field.name
  let arguments := field.arguments.map argument
  let line := name ++ wrap "(" (join ", " arguments) ")"
  if line.length ≤ lineWidth then line
  else name ++ wrap "(\n" (indent (join "\n" arguments)) "\n)"

mutual

def selection : Selection → String
  | .leaf field => join " " [fieldHead field, directives field.directives]
  | .branch field _ children =>
    join " " [fieldHead field, directives field.directives, block (selections children)]
  | .inline fragment _ children =>
    join " " ["...", wrap "on " (fragment.typeCondition.getD "") "",
      directives fragment.directives, block (selections children)]
  | .spread use => "..." ++ use.name ++ wrap " " (directives use.directives) ""

def selections : List Selection → List String
  | [] => []
  | head :: rest => selection head :: selections rest

end

def description (text : Option StringLiteral) : String :=
  wrap "" ((text.map literal).getD "") "\n"

def variableDefinition (declared : VariableDefinition) : String :=
  description declared.description ++ "$" ++ declared.name ++ ": " ++
    typeReference declared.type ++ wrap " = " ((declared.default.map value).getD "") "" ++
    wrap " " (directives declared.directives) ""

/-- The variables of an operation, one a line as soon as one of them takes more than a line. -/
def variableDefinitions (declared : List VariableDefinition) : String :=
  let texts := declared.map variableDefinition
  if texts.any (·.contains '\n') then wrap "(\n" (join "\n" texts) "\n)"
  else wrap "(" (join ", " texts) ")"

def heading (definition : Definition) : String :=
  match definition.heading with
  | .operation kind name declared =>
    join " " [kind.text, name.getD "" ++ variableDefinitions declared,
      directives definition.directives] ++ " "
  | .fragment name typeCondition =>
    "fragment " ++ name ++ " on " ++ typeCondition ++ " " ++
      wrap "" (directives definition.directives) " "

/-- An operation or a fragment. A query with nothing before its selections is written in short. -/
def definition (definition : Definition) : String :=
  let start := description definition.description ++ heading definition
  (if start = "query " then "" else start) ++
    block (selections definition.selectionSet.selections)

end DocumentNormalizer.Printer
