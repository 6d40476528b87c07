import DocumentNormalizer.Language.Position
import DocumentNormalizer.Text.Hexadecimal

namespace DocumentNormalizer

/-- The marks that the grammar gives a meaning. -/
inductive Punctuator where
  | bang | dollar | ampersand | parenOpen | parenClose | spread | colon | equals | atSign
  | bracketOpen | bracketClose | braceOpen | pipe | braceClose
deriving DecidableEq

def Punctuator.text : Punctuator → String
  | .bang => "!"
  | .dollar => "$"
  | .ampersand => "&"
  | .parenOpen => "("
  | .parenClose => ")"
  | .spread => "..."
  | .colon => ":"
  | .equals => "="
  | .atSign => "@"
  | .bracketOpen => "["
  | .bracketClose => "]"
  | .braceOpen => "\x7b"
  | .pipe => "|"
  | .braceClose => "\x7d"

def Punctuator.ofChar? : Char → Option Punctuator
  | '!' => some .bang
  | '$' => some .dollar
  | '&' => some .ampersand
  | '(' => some .parenOpen
  | ')' => some .parenClose
  | ':' => some .colon
  | '=' => some .equals
  | '@' => some .atSign
  | '[' => some .bracketOpen
  | ']' => some .bracketClose
  | '{' => some .braceOpen
  | '|' => some .pipe
  | '}' => some .braceClose
  | _ => none

/-- Why no token starts or ends where one should. -/
inductive LexicalFault where
  | unexpectedCharacter (found : Char)
  | singleQuote
  | digitExpected (found : Option Char)
  | digitAfterZero (found : Char)
  | unterminatedString
  | unicodeEscape (text : String)
  | characterEscape (text : String)

/-- A character as fault messages show it: itself between quotes when it is visible in ASCII, its
code point otherwise. -/
def LexicalFault.showCharacter : Option Char → String
  | none => "<EOF>"
  | some c =>
    if ' ' ≤ c ∧ c ≤ '~' then
      if c = '"' then "'\"'" else "'" ++ c.toString ++ "'"
    else "U+" ++ Text.upperHexadecimal 4 c.toNat

def LexicalFault.message : LexicalFault → String
  | .unexpectedCharacter found => "Unexpected character: " ++ showCharacter (some found) ++ "."
  | .singleQuote =>
    "Unexpected single quote character ('), did you mean to use a double quote (\")?"
  | .digitExpected found =>
    "Invalid number, expected digit but got: " ++ showCharacter found ++ "."
  | .digitAfterZero found =>
    "Invalid number, unexpected digit after 0: " ++ showCharacter (some found) ++ "."
  | .unterminatedString => "Unterminated string."
  | .unicodeEscape text => "Invalid Unicode escape sequence: '" ++ text ++ "'."
  | .characterEscape text => "Invalid character escape sequence: '" ++ text ++ "'."

/-- What a token is. Numbers keep the text they were written as; strings hold the text they stand
for. A fault is a token too, so that it surfaces only when the grammar gets that far. -/
inductive Lexeme where
  | endOfText
  | punctuator (mark : Punctuator)
  | name (text : String)
  | int (text : String)
  | float (text : String)
  | string (text : String) (block : Bool)
  | fault (cause : LexicalFault)

def Lexeme.value? : Lexeme → Option String
  | .name text | .int text | .float text | .string text _ => some text
  | .endOfText | .punctuator _ | .fault _ => none

def Lexeme.describe : Lexeme → String
  | .endOfText => "<EOF>"
  | .punctuator mark => "'" ++ mark.text ++ "'"
  | .name text => "Name '" ++ text ++ "'"
  | .int text => "Int '" ++ text ++ "'"
  | .float text => "Float '" ++ text ++ "'"
  | .string text false => "String '" ++ text ++ "'"
  | .string text true => "BlockString '" ++ text ++ "'"
  | .fault cause => cause.message

/-- A token and where it starts. A fault stands where it was noticed. -/
structure Token where
  lexeme : Lexeme
  position : Position

end DocumentNormalizer
