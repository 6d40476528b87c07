import DocumentNormalizer.Text.Lines
import DocumentNormalizer.Yaml.Timestamp

namespace DocumentNormalizer.Yaml

/-- What a node stands for. -/
inductive Tag where
  | null
  | truth
  | integer
  | number
  | timestamp
  | binary
  | text
  | list
  | mapping
  | set
  | pairs
  | orderedPairs
  | merge
  | value
  | other (name : String)
deriving DecidableEq

namespace Tag

def common : String := "tag:yaml.org,2002:"

def name : Tag → String
  | .null => common ++ "null"
  | .truth => common ++ "bool"
  | .integer => common ++ "int"
  | .number => common ++ "float"
  | .timestamp => common ++ "timestamp"
  | .binary => common ++ "binary"
  | .text => common ++ "str"
  | .list => common ++ "seq"
  | .mapping => common ++ "map"
  | .set => common ++ "set"
  | .pairs => common ++ "pairs"
  | .orderedPairs => common ++ "omap"
  | .merge => common ++ "merge"
  | .value => common ++ "value"
  | .other name => name

def ofName (name : String) : Tag :=
  let known : List Tag := [.null, .truth, .integer, .number, .timestamp, .binary, .text, .list,
    .mapping, .set, .pairs, .orderedPairs, .merge, .value]
  (known.find? (·.name = name)).getD (.other name)

end Tag

namespace Spelling

def isNull (text : String) : Bool := ["", "~", "null", "Null", "NULL"].contains text

def isTruth (text : String) : Bool :=
  ["yes", "Yes", "YES", "no", "No", "NO", "true", "True", "TRUE", "false", "False", "FALSE", "on",
    "On", "ON", "off", "Off", "OFF"].contains text

def isRun (wanted : Char → Bool) (text : List Char) : Bool := !text.isEmpty && text.all wanted

def isDigitOrGap (c : Char) : Bool := c.isDigit || c = '_'

def isDigits (text : List Char) : Bool :=
  text.head?.any Char.isDigit && text.all isDigitOrGap

def unsigned : List Char → List Char
  | '+' :: rest | '-' :: rest => rest
  | text => text

def isSixtieth : List Char → Bool
  | [c] => c.isDigit
  | [tens, ones] => '0' ≤ tens && tens ≤ '5' && ones.isDigit
  | _ => false

/-- Parts between colons: a first one, and at least one more, all of these below sixty. -/
def isSexagesimal (isFirst : List Char → Bool) (text : List Char) : Bool :=
  match Text.parts ':' text with
  | first :: second :: others => isFirst first && (second :: others).all isSixtieth
  | _ => false

/-- Spellings of integers in base two, eight, ten and sixteen, and of sums of sixtieths. -/
def isInteger (text : List Char) : Bool :=
  let startsHigh (digits : List Char) : Bool := isDigits digits && digits.head? ≠ some '0'
  match unsigned text with
  | ['0'] => true
  | '0' :: 'b' :: rest => isRun (fun c => c = '0' || c = '1' || c = '_') rest
  | '0' :: 'x' :: rest => isRun (fun c => (Text.hexDigit? c).isSome || c = '_') rest
  | '0' :: rest => rest.all fun c => ('0' ≤ c && c ≤ '7') || c = '_'
  | text => startsHigh text || isSexagesimal startsHigh text

/-- What follows the point of a decimal: digits and perhaps a signed exponent. -/
def isFraction (text : List Char) : Bool :=
  match text.dropWhile isDigitOrGap with
  | [] => true
  | e :: sign :: digits =>
    (e = 'e' || e = 'E') && (sign = '+' || sign = '-') && isRun Char.isDigit digits
  | _ => false

/-- Spellings of other numbers. They have a point, and so have infinity and what is no number. -/
def isNumber (text : List Char) : Bool :=
  let infinities := [".inf", ".Inf", ".INF"].map String.toList
  let none := [".nan", ".NaN", ".NAN"].map String.toList
  let body := unsigned text
  let whole := body.takeWhile (· ≠ '.')
  match body.dropWhile (· ≠ '.') with
  | [] => false
  | _ :: behind =>
    (isDigits whole && isFraction behind) ||
      (isSexagesimal isDigits whole && behind.all isDigitOrGap) ||
      (text.head? = some '.' && behind.head?.any Char.isDigit && isFraction behind) ||
      infinities.contains body || none.contains text

def withoutLineEnd (text : List Char) : List Char :=
  if text.getLast? = some '\n' then text.dropLast else text

end Spelling

/-- The tag that a plain scalar has by its spelling. A line end behind it does not matter; one that stands
alone is a text. -/
def Tag.ofSpelling (text : List CodePoint) : Tag :=
  match Text.ofPoints? text with
  | none => .text
  | some "\n" => .text
  | some whole =>
    let spelling := Spelling.withoutLineEnd whole.toList
    let word := String.ofList spelling
    if Spelling.isTruth word then .truth
    else if Spelling.isNumber spelling then .number
    else if Spelling.isInteger spelling then .integer
    else if word = "<<" then .merge
    else if Spelling.isNull word then .null
    else if Timestamp.isSpelling spelling then .timestamp
    else if word = "=" then .value
    else if ["!", "&", "*"].contains word then .other (Tag.common ++ "yaml")
    else .text

end DocumentNormalizer.Yaml
