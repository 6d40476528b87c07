import DocumentNormalizer.Text.Hexadecimal
import DocumentNormalizer.Yaml.Misfit

namespace DocumentNormalizer.Yaml.Scalar

def folded (lineEnd emptyLines : List Char) : List Char :=
  if lineEnd ≠ ['\n'] then lineEnd ++ emptyLines
  else if emptyLines.isEmpty then [' ']
  else emptyLines

/-- Brackets and commas end plain scalars inside brackets. -/
def isFlowMark (c : Char) : Bool := c = ',' || c = '[' || c = ']' || c = '\x7b' || c = '\x7d'

def plainRun (inFlow : Bool) : List Char → List Char
  | [] => []
  | c :: rest =>
    let colonEnds := c = ':' && (endsWord rest.head? || (inFlow && rest.head?.any isFlowMark))
    if endsWord (some c) || colonEnds || (inFlow && (isFlowMark c || c = '?')) then []
    else c :: plainRun inFlow rest

/-- Passes blanks and empty lines, and tells the line ends among them; none if a document ends. -/
def emptyLines (mark : Mark) : List Char → Option (List Char) × Reader
  | [] => (some [], ⟨[], mark⟩)
  | c :: rest =>
    let next := mark.after c
    if c = ' ' then emptyLines next rest
    else if isBreak c then
      if startsDocument rest then (none, ⟨rest, next⟩)
      else
        let (more, reader) := emptyLines next rest
        (more.map (unifiedBreak c :: ·), reader)
    else (some [], ⟨c :: rest, mark⟩)

/-- Passes what separates two runs of a plain scalar and tells what it reads as. Nothing is told where
the scalar cannot go on. Also tells whether a line end was passed. -/
def plainGap (reader : Reader) : Option (List Char) × Bool × Reader :=
  let (blanks, reader) := reader.span (· = ' ')
  match reader.takeBreak with
  | ([], _) => (if blanks.isEmpty then none else some blanks, false, reader)
  | (lineEnd, reader) =>
    if startsDocument reader.rest then (none, true, reader)
    else
      let (more, reader) := emptyLines reader.mark reader.rest
      (more.map (folded lineEnd), true, reader)

/-- A plain scalar whose lines stand to the right of `indent`. Also tells whether line ends were passed
behind a run of it. -/
def plain (inFlow : Bool) (indent : Option Nat) : Nat → Reader → List Char × Bool × Reader
  | 0, reader => ([], false, reader)
  | bound + 1, reader =>
    match if reader.head? = some '#' then [] else plainRun inFlow reader.rest with
    | [] => ([], false, reader)
    | run =>
      let (gap, newLine, reader) := plainGap (reader.advance run.length)
      let outside := !inFlow && indent.any (reader.mark.column ≤ ·)
      match gap with
      | none => (run, newLine, reader)
      | some gap =>
        if reader.head? = some '#' || outside then (run, newLine, reader)
        else
          match plain inFlow indent bound reader with
          | ([], _, reader) => (run, newLine, reader)
          | (more, laterLine, reader) => (run ++ gap ++ more, laterLine, reader)

/-- Passes blanks and empty lines inside quotes and tells the line ends among them. -/
def quotedLines (atStart : Bool) (mark : Mark) : List Char → Load (List Char × Reader)
  | [] => .ok ([], ⟨[], mark⟩)
  | c :: rest =>
    let next := mark.after c
    if atStart && startsDocument (c :: rest) then malformed .separatorInQuote
    else if c = ' ' || c = '\t' then quotedLines false next rest
    else if isBreak c then
      (quotedLines true next rest).map fun (more, reader) => (unifiedBreak c :: more, reader)
    else .ok ([], ⟨c :: rest, mark⟩)

/-- Passes blanks and line ends inside quotes and tells what they read as. -/
def quotedGap (reader : Reader) : Load (List Char × Reader) :=
  let (blanks, reader) := reader.span fun c => c = ' ' || c = '\t'
  match reader.rest with
  | [] => malformed .unclosedQuote
  | _ =>
    match reader.takeBreak with
    | ([], _) => .ok (blanks, reader)
    | (lineEnd, reader) =>
      (quotedLines true reader.mark reader.rest).map fun (more, reader) =>
        (folded lineEnd more, reader)

/-- The character that a letter behind a backslash stands for. -/
def escaped? : Char → Option Char
  | '0' => some '\x00'
  | 'a' => some '\x07'
  | 'b' => some '\x08'
  | 't' | '\t' => some '\t'
  | 'n' => some '\n'
  | 'v' => some '\x0b'
  | 'f' => some '\x0c'
  | 'r' => some '\r'
  | 'e' => some '\x1b'
  | ' ' => some ' '
  | '"' => some '"'
  | '\\' => some '\\'
  | '/' => some '/'
  | 'N' => some '\x85'
  | '_' => some '\xa0'
  | 'L' => some '\u2028'
  | 'P' => some '\u2029'
  | _ => none

/-- How many digits of a code point follow a letter behind a backslash. -/
def digitCount? : Char → Option Nat
  | 'x' => some 2
  | 'u' => some 4
  | 'U' => some 8
  | _ => none

def codePoint (n : Nat) : Load CodePoint :=
  if n < 0x110000 then .ok (.ofNat n)
  else if n < 0x80000000 then unfit .noCodePoint
  else unfit .hugeCodePoint

/-- What an escape stands for. The reader is behind its backslash. -/
def escape (reader : Reader) : Load (List CodePoint × Reader) :=
  match reader.rest with
  | [] => malformed .unknownEscape
  | c :: rest =>
    match escaped? c, digitCount? c with
    | some plain, _ => .ok ([.char plain], reader.advance 1)
    | none, some count =>
      let digits := rest.take count
      match Text.ofHexDigits? digits with
      | some n =>
        if digits.length < count then malformed .unknownEscape
        else (codePoint n).map fun point => ([point], reader.advance (count + 1))
      | none => malformed .unknownEscape
    | none, none =>
      if isBreak c then
        let reader := reader.advance 1
        (quotedLines true reader.mark reader.rest).map fun (text, reader) =>
          (Text.points text, reader)
      else malformed .unknownEscape

/-- A quoted scalar behind its opening mark. -/
def quoted (double : Bool) : Nat → Reader → Load (List CodePoint × Reader)
  | 0, _ => malformed .unclosedQuote
  | bound + 1, reader =>
    let goOn (text : List CodePoint) (reader : Reader) : Load (List CodePoint × Reader) :=
      (quoted double bound reader).map fun (more, reader) => (text ++ more, reader)
    match reader.rest with
    | [] => malformed .unclosedQuote
    | c :: _ =>
      if c = (if double then '"' else '\'') then
        if !double && reader.second? = some '\'' then goOn [.char '\''] (reader.advance 2)
        else .ok ([], reader.advance 1)
      else if double && c = '\\' then do
        let (text, reader) ← escape (reader.advance 1)
        goOn text reader
      else if endsWord (some c) then do
        let (text, reader) ← quotedGap reader
        goOn (Text.points text) reader
      else goOn [.char c] (reader.advance 1)

/-- What becomes of the line ends behind a block scalar: one is kept, none, or all. -/
inductive Chomping where
  | clip
  | strip
  | keep
deriving DecidableEq

def chomping? : Option Char → Option Chomping
  | some '+' => some .keep
  | some '-' => some .strip
  | _ => none

def indentation? : Option Char → Option Nat
  | some c => if c.isDigit then some (c.toNat - '0'.toNat) else none
  | none => none

/-- The header of a block scalar: a sign and a digit in either order, each of which may be missing. -/
def blockHeader (reader : Reader) : Load (Chomping × Option Nat × Reader) := do
  let (chomping, digit, reader) := match chomping? reader.head? with
    | some chomping =>
      match indentation? reader.second? with
      | some digit => (chomping, some digit, reader.advance 2)
      | none => (chomping, none, reader.advance 1)
    | none =>
      match indentation? reader.head? with
      | some digit =>
        match chomping? reader.second? with
        | some chomping => (chomping, some digit, reader.advance 2)
        | none => (.clip, some digit, reader.advance 1)
      | none => (.clip, none, reader)
  if digit = some 0 || !endsPart reader.head? then malformed .blockHeader
  let reader := reader.skip (· = ' ')
  let reader := if reader.head? = some '#' then reader.skip (!isBreak ·) else reader
  if !endsLine reader.head? then malformed .blockHeader
  return (chomping, digit, reader.takeBreak.2)

/-- Passes blanks and empty lines before a block scalar's text, and tells the line ends among them and
the rightmost column. -/
def leadingLines (mark : Mark) (rightmost : Nat) : List Char → List Char × Nat × Reader
  | [] => ([], rightmost, ⟨[], mark⟩)
  | c :: rest =>
    let next := mark.after c
    if c = ' ' then leadingLines next (max rightmost next.column) rest
    else if isBreak c then
      let (lines, rightmost, reader) := leadingLines next rightmost rest
      (unifiedBreak c :: lines, rightmost, reader)
    else ([], rightmost, ⟨c :: rest, mark⟩)

/-- Passes empty lines inside a block scalar, and blanks up to its indentation; tells the line ends. -/
def innerLines (indent : Nat) (mark : Mark) : List Char → List Char × Reader
  | [] => ([], ⟨[], mark⟩)
  | c :: rest =>
    let next := mark.after c
    if c = ' ' && mark.column < indent then innerLines indent next rest
    else if isBreak c then
      let (lines, reader) := innerLines indent next rest
      (unifiedBreak c :: lines, reader)
    else ([], ⟨c :: rest, mark⟩)

def startsBlank (reader : Reader) : Bool := reader.head?.any fun c => c = ' ' || c = '\t'

/-- The lines of a block scalar, the line end behind the last one, and those behind that. `before` are
line ends that have been passed. -/
def blockLines (fold : Bool) (indent : Nat) :
    Nat → List Char → Reader → List Char × List Char × List Char × Reader
  | 0, before, reader => ([], [], before, reader)
  | bound + 1, before, reader =>
    if reader.mark.column ≠ indent || reader.rest.isEmpty then ([], [], before, reader)
    else
      let (line, afterLine) := reader.span (!isBreak ·)
      let (lineEnd, next) := afterLine.takeBreak
      let (behind, next) := innerLines indent next.mark next.rest
      if next.mark.column = indent && !next.rest.isEmpty then
        let joint :=
          if fold && lineEnd = ['\n'] && !startsBlank reader && !startsBlank next then
            if behind.isEmpty then [' '] else []
          else lineEnd
        let (text, lineEnd, last, reader) := blockLines fold indent bound behind next
        (before ++ line ++ joint ++ text, lineEnd, last, reader)
      else (before ++ line, lineEnd, behind, next)

/-- A block scalar behind its indicator, inside a block with an indentation. -/
def block (fold : Bool) (outer : Option Nat) (reader : Reader) : Load (List Char × Reader) := do
  let (chomping, digit, reader) ← blockHeader reader
  let least := max 1 (outer.elim 0 (· + 1))
  let (before, indent, reader) := match digit with
    | none =>
      let (lines, rightmost, reader) := leadingLines reader.mark 0 reader.rest
      (lines, max least rightmost, reader)
    | some digit =>
      let indent := least + digit - 1
      let (lines, reader) := innerLines indent reader.mark reader.rest
      (lines, indent, reader)
  let (text, lineEnd, last, reader) := blockLines fold indent (reader.rest.length + 1) before reader
  let ending := match chomping with
    | .strip => []
    | .clip => lineEnd
    | .keep => lineEnd ++ last
  return (text ++ ending, reader)

end DocumentNormalizer.Yaml.Scalar
