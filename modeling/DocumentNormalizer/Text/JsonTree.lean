import DocumentNormalizer.Text.Hexadecimal

namespace DocumentNormalizer

inductive JsonTree where
  | null
  | truth (value : Bool)
  | text (text : String)
  | list (items : List JsonTree)
  | object (members : List (String × JsonTree))

namespace JsonTree

/-- How a character is written between quotes. Only quotes, backslashes and control characters below
the blank are escaped. -/
def escapeChar (c : Char) : List Char :=
  match c with
  | '"' => ['\\', '"']
  | '\\' => ['\\', '\\']
  | '\x08' => ['\\', 'b']
  | '\t' => ['\\', 't']
  | '\n' => ['\\', 'n']
  | '\x0c' => ['\\', 'f']
  | '\r' => ['\\', 'r']
  | c => if c < ' ' then '\\' :: 'u' :: (Text.hexadecimal 4 c.toNat).toList else [c]

def quoted (text : String) : String :=
  "\"" ++ String.ofList (text.toList.flatMap escapeChar) ++ "\""

def truthWord (value : Bool) : String := if value then "true" else "false"

mutual

def compact : JsonTree → String
  | .null => "null"
  | .truth value => truthWord value
  | .text value => quoted value
  | .list items => "[" ++ ",".intercalate (compactItems items) ++ "]"
  | .object members => "\x7b" ++ ",".intercalate (compactMembers members) ++ "\x7d"

def compactItems : List JsonTree → List String
  | [] => []
  | item :: rest => compact item :: compactItems rest

def compactMembers : List (String × JsonTree) → List String
  | [] => []
  | (name, value) :: rest => (quoted name ++ ":" ++ compact value) :: compactMembers rest

end

def lineStart (depth : Nat) : String := "\n" ++ String.ofList (List.replicate (2 * depth) ' ')

/-- Parts on lines of their own between brackets that are at a depth. Without parts there are no
lines. -/
def block (depth : Nat) (opening closing : String) (parts : List String) : String :=
  if parts.isEmpty then opening ++ closing
  else
    opening ++ ",".intercalate (parts.map (lineStart (depth + 1) ++ ·)) ++ lineStart depth ++ closing

mutual

def indentedAt (depth : Nat) : JsonTree → String
  | .null => "null"
  | .truth value => truthWord value
  | .text value => quoted value
  | .list items => block depth "[" "]" (indentedItems (depth + 1) items)
  | .object members => block depth "\x7b" "\x7d" (indentedMembers (depth + 1) members)

def indentedItems (depth : Nat) : List JsonTree → List String
  | [] => []
  | item :: rest => indentedAt depth item :: indentedItems depth rest

def indentedMembers (depth : Nat) : List (String × JsonTree) → List String
  | [] => []
  | (name, value) :: rest =>
    (quoted name ++ ": " ++ indentedAt depth value) :: indentedMembers depth rest

end

def indented (tree : JsonTree) : String := tree.indentedAt 0

end JsonTree

end DocumentNormalizer
