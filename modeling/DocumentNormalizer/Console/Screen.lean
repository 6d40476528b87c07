import DocumentNormalizer.Console.Table
import DocumentNormalizer.Console.Wrap

namespace DocumentNormalizer

/-- Something that is shown: a text as it is, a line that the console breaks if it has to, or a table. -/
inductive Shown where
  | text (text : String)
  | line (text : String)
  | table (table : Table)

namespace Screen

def isLeftOut (c : Char) : Bool := ['\x07', '\x08', '\x0b', '\x0c', '\r'].contains c

def visible (text : String) : String :=
  String.ofList (Text.expandTabs (text.toList.filter (!isLeftOut ·)))

/-- A text as a line of the console. Names of pictographs stand for them in it. -/
def plain (text : String) : String := visible (String.ofList (Pictograph.expand text.toList))

def marked (text : String) : Except MarkupFault String := visible <$> Markup.plain text

/-- A text on as many lines as it takes on a console with the given number of columns. -/
def wrapped (columns : Nat) (text : String) : String :=
  String.ofList (['\n'].intercalate ((Text.parts '\n' text.toList).flatMap (Wrap.lines columns)))

/-- A line as a console with the given number of columns draws it. Without columns it draws nothing. -/
def drawn (columns : Nat) (line : String) : String :=
  if columns = 0 then "" else wrapped columns line ++ "\n"

/-- Characters of a sequence that sets a colour, between its bracket and its letter. -/
def isParameter (c : Char) : Bool := c = ';' || c = '?' || c.isDigit

/-- A text without sequences that set colours. `held` may be the start of one, the last character first. -/
def withoutColours (held : List Char) : List Char → List Char
  | [] => held.reverse
  | c :: rest =>
    if held.isEmpty then if c = '\x1b' then withoutColours [c] rest else c :: withoutColours [] rest
    else if held = ['\x1b'] && c = '[' then withoutColours (c :: held) rest
    else if 1 < held.length && isParameter c then withoutColours (c :: held) rest
    else if 1 < held.length && c.isAlpha then withoutColours [] rest
    else
      held.reverse ++
        if c = '\x1b' then withoutColours [c] rest else c :: withoutColours [] rest

/-- An error message as it is shown: on as many columns as it takes, but without colours. -/
def told (message : String) : String := String.ofList (withoutColours [] message.toList)

def width (text : String) : Nat := Text.width text.toList

def copies (count : Nat) (c : Char) : String := String.ofList (List.replicate count c)

/-- A text in a cell of a given width, with a blank on either side. -/
def cell (size : Nat) (text : String) : String :=
  " " ++ text ++ copies (size - width text) ' ' ++ " "

def cellLine (bar : String) (sizes : List Nat) (cells : List String) : String :=
  bar ++ bar.intercalate (List.zipWith cell sizes cells) ++ bar

def rule (left between right : String) (stroke : Char) (sizes : List Nat) : String :=
  left ++ between.intercalate (sizes.map fun size => copies (size + 2) stroke) ++ right

/-- A title in the middle above a given number of columns. -/
def titleLine (size : Nat) (title : String) : String := copies ((size - width title) / 2) ' ' ++ title

def rowLines (cells : List String) : List (List String) :=
  let columns := cells.map fun cell => (Text.parts '\n' cell.toList).map String.ofList
  let height := (columns.map List.length).foldl max 0
  (List.range height).map fun line => columns.map fun column => column[line]?.getD ""

def columnSizes (heads : List String) (rows : List (List String)) : List Nat :=
  rows.foldl (fun sizes row => List.zipWith max sizes (row.map width)) (heads.map width)

/-- The lines of a table in its frame, on a console with room for it. -/
def tableLines (table : Table) : Except MarkupFault (List String) := do
  let rows := (← table.rows.mapM (·.mapM marked)).flatMap rowLines
  let sizes := columnSizes table.columns rows
  return [titleLine (sizes.foldl (fun total size => total + size + 3) 1) table.title,
      rule "┏" "┳" "┓" '━' sizes, cellLine "┃" sizes table.columns,
      rule "┡" "╇" "┩" '━' sizes] ++
    rows.map (cellLine "│" sizes) ++ [rule "└" "┴" "┘" '─' sizes]

end Screen

end DocumentNormalizer
