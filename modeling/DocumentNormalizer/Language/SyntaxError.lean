import DocumentNormalizer.Language.Token
import DocumentNormalizer.Text.Lines

namespace DocumentNormalizer

/-- What the grammar may ask for. -/
inductive Expectation where
  | punctuator (mark : Punctuator)
  | keyword (text : String)
  | name

def Expectation.text : Expectation → String
  | .punctuator mark => "'" ++ mark.text ++ "'"
  | .keyword text => "'" ++ text ++ "'"
  | .name => "Name"

/-- Why a source text does not follow the grammar. -/
inductive SyntaxFault where
  | lexical (fault : LexicalFault)
  | expected (wanted : Expectation) (found : Lexeme)
  | unexpected (found : Lexeme)
  | variableInConstant (name : String)
  | reservedEnumValue (found : Lexeme)
  | descriptionBeforeShorthand
  | descriptionBeforeOther

def SyntaxFault.message : SyntaxFault → String
  | .lexical fault => fault.message
  | .expected wanted found => "Expected " ++ wanted.text ++ ", found " ++ found.describe ++ "."
  | .unexpected found => "Unexpected " ++ found.describe ++ "."
  | .variableInConstant name => "Unexpected variable '$" ++ name ++ "' in constant value."
  | .reservedEnumValue found =>
    found.describe ++ " is reserved and cannot be used for an enum value."
  | .descriptionBeforeShorthand =>
    "Unexpected description, descriptions are not supported on shorthand queries."
  | .descriptionBeforeOther =>
    "Unexpected description, only GraphQL definitions support descriptions."

structure SyntaxError where
  fault : SyntaxFault
  position : Position

namespace SyntaxError

def message (error : SyntaxError) : String := "Syntax Error: " ++ error.fault.message

/-- Numbered lines of an excerpt, their numbers aligned on the right. A line that is missing is left
out, and an empty one ends right after its bar. -/
def numbered (rows : List (String × Option (List Char))) : String :=
  let present := rows.filterMap fun (number, row) => row.map (number, ·)
  let width := ((present.map fun (number, _) => number.length).max?).getD 0
  "\n".intercalate <| present.map fun (number, row) =>
    Text.padLeft width number ++ if row.isEmpty then "" else " " ++ String.ofList row

/-- Pieces of `size` characters; the last one may be shorter. `rounds` bounds their number. -/
def pieces (size : Nat) : (rounds : Nat) → List Char → List (List Char)
  | 0, _ => []
  | rounds + 1, row =>
    if row.isEmpty then [] else row.take size :: pieces size rounds (row.drop size)

/-- A line above which an excerpt shows pieces of it. -/
def longLine : Nat := 120

def pieceLength : Nat := 80

/-- The line of a position with a mark below it, between its neighbours. Of a long line only the
pieces around the position are shown, and no neighbours. -/
def excerpt (source : String) (position : Position) : String :=
  let lines := Text.lines source.toList
  let index := position.line - 1
  let row := (lines[index]?).getD []
  let mark (column : Nat) : String × Option (List Char) :=
    ("|", some (Text.padLeft column "^").toList)
  let place := s!"GraphQL request:{position.text}\n"
  let number (line : Nat) : String := s!"{line} |"
  if row.length ≤ longLine then
    place ++ numbered [
      (number (position.line - 1), if index = 0 then none else lines[index - 1]?),
      (number position.line, some row),
      mark position.column,
      (number (position.line + 1), lines[index + 1]?)]
  else
    let parts := pieces pieceLength (row.length + 1) row
    let part := position.column / pieceLength
    place ++ numbered (
      [(number position.line, parts.head?)] ++
      ((parts.drop 1).take part).map (fun piece => ("|", some piece)) ++
      [mark (position.column % pieceLength), ("|", parts[part + 1]?)])

def report (error : SyntaxError) (source : String) : String :=
  error.message ++ "\n\n" ++ excerpt source error.position

end SyntaxError

end DocumentNormalizer
