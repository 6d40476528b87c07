namespace DocumentNormalizer.BlockText

def isIndentation (c : Char) : Bool := c = ' ' || c = '\t'

def indentation (line : List Char) : Nat := (line.takeWhile isIndentation).length

def isBlank (line : List Char) : Bool := line.all isIndentation

def commonIndentation? (lines : List (List Char)) : Option Nat :=
  ((lines.filter (!isBlank ·)).map indentation).min?

/-- The lines without the blank ones at both ends. -/
def trimBlankLines (lines : List (List Char)) : List (List Char) :=
  ((lines.dropWhile isBlank).reverse.dropWhile isBlank).reverse

/-- Takes the shared indentation off all lines but the first, then the blank lines off both ends. -/
def dedent : List (List Char) → List (List Char)
  | [] => []
  | first :: rest =>
    let shared := (commonIndentation? rest).getD 0
    trimBlankLines (first :: rest.map (·.drop shared))

end DocumentNormalizer.BlockText
