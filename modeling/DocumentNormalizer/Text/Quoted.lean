import DocumentNormalizer.Text.CodePoint
import DocumentNormalizer.Text.Hexadecimal
import DocumentNormalizer.Text.Printable

namespace DocumentNormalizer.Text

/-- The mark that goes around a text: a single quote, or a double one when the text holds single
quotes and no double quote. -/
def quoteMark (text : List CodePoint) : Char :=
  if text.contains (.char '\'') && !text.contains (.char '"') then '"' else '\''

/-- How one character is written between two marks. -/
def quoteChar (mark c : Char) : String :=
  if c = mark ∨ c = '\\' then String.ofList ['\\', c]
  else if c = '\n' then "\\n"
  else if c = '\r' then "\\r"
  else if c = '\t' then "\\t"
  else if isPrintable c then c.toString
  else if c.toNat < 0x100 then "\\x" ++ hexadecimal 2 c.toNat
  else if c.toNat < 0x10000 then "\\u" ++ hexadecimal 4 c.toNat
  else "\\U" ++ hexadecimal 8 c.toNat

def quotePoint (mark : Char) : CodePoint → String
  | .char c => quoteChar mark c
  | .surrogate n => "\\u" ++ hexadecimal 4 n

def quotePoints (text : List CodePoint) : String :=
  let mark := quoteMark text
  mark.toString ++ String.join (text.map (quotePoint mark)) ++ mark.toString

def quote (text : String) : String := quotePoints (points text.toList)

end DocumentNormalizer.Text
