namespace DocumentNormalizer.Text

/-- Writes every line end as a single line feed. -/
def unifyLineEnds : List Char → List Char
  | [] => []
  | '\r' :: '\n' :: rest => '\n' :: unifyLineEnds rest
  | '\r' :: rest => '\n' :: unifyLineEnds rest
  | c :: rest => c :: unifyLineEnds rest

/-- The parts of a text between the places where a character stands. There is always one part more
than there are such places. -/
def parts (separator : Char) : List Char → List (List Char)
  | [] => [[]]
  | c :: rest =>
    if c = separator then [] :: parts separator rest
    else
      match parts separator rest with
      | [] => [[c]]
      | part :: others => (c :: part) :: others

/-- The parts of a string between the places where a character stands. -/
def splitAt (separator : Char) (text : String) : List String :=
  (parts separator text.toList).map String.ofList

def lines (text : List Char) : List (List Char) :=
  parts '\n' (unifyLineEnds text)

/-- `text` filled up on the left with blanks to at least `width` characters. -/
def padLeft (width : Nat) (text : String) : String :=
  String.ofList (text.toList.leftpad width ' ')

/-- A text of at most `limit` characters. A longer one loses its end, and three dots tell so. They
count among the characters; a limit below three leaves off as many characters as it is short of
three. -/
def truncate (limit : Int) (text : String) : String :=
  if (text.length : Int) ≤ limit then text
  else
    let kept := if limit < 3 then (text.length + (limit - 3)).toNat else (limit - 3).toNat
    String.ofList (text.toList.take kept) ++ "..."

end DocumentNormalizer.Text
