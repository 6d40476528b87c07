namespace DocumentNormalizer.Yaml

/-- Characters that a text may hold. -/
def isAllowed (c : Char) : Bool :=
  let n := c.toNat
  c = '\t' || c = '\n' || c = '\r' || (0x20 ≤ n && n ≤ 0x7E) || c = '\x85' ||
    (0xA0 ≤ n && n ≤ 0xFFFD) || 0x10000 ≤ n

def isBreak (c : Char) : Bool := c = '\n' || c = '\x85' || c = '\u2028' || c = '\u2029'

/-- The line end that a line end is read as. -/
def unifiedBreak (c : Char) : Char := if c = '\x85' then '\n' else c

def endsLine (next : Option Char) : Bool := next.all isBreak

/-- Whether a line goes on with a blank or ends here. -/
def endsPart (next : Option Char) : Bool := next.all fun c => c = ' ' || isBreak c

def endsWord (next : Option Char) : Bool := next.all fun c => c = ' ' || c = '\t' || isBreak c

/-- Letters, digits, hyphens and underscores. -/
def isWordChar (c : Char) : Bool := c.isAlphanum || c = '-' || c = '_'

/-- Three hyphens or three dots that stand alone separate documents at the start of a line. -/
def startsDocument : List Char → Bool
  | '-' :: '-' :: '-' :: rest | '.' :: '.' :: '.' :: rest => endsWord rest.head?
  | _ => false

/-- A place in a text, counted from zero. -/
structure Mark where
  line : Nat
  column : Nat
  index : Nat
deriving DecidableEq

/-- The place behind a character. A byte order mark takes no column. -/
def Mark.after (mark : Mark) (c : Char) : Mark :=
  if isBreak c then ⟨mark.line + 1, 0, mark.index + 1⟩
  else if c = '\uFEFF' then ⟨mark.line, mark.column, mark.index + 1⟩
  else ⟨mark.line, mark.column + 1, mark.index + 1⟩

/-- What is left of a text, and where it starts. -/
structure Reader where
  rest : List Char
  mark : Mark

namespace Reader

def head? (reader : Reader) : Option Char := reader.rest.head?

def second? (reader : Reader) : Option Char := reader.rest[1]?

def advance (reader : Reader) : Nat → Reader
  | 0 => reader
  | n + 1 =>
    match reader.rest with
    | [] => reader
    | c :: rest => advance ⟨rest, reader.mark.after c⟩ n

def span (wanted : Char → Bool) (reader : Reader) : List Char × Reader :=
  let run := reader.rest.takeWhile wanted
  (run, reader.advance run.length)

def skip (wanted : Char → Bool) (reader : Reader) : Reader := (reader.span wanted).2

/-- Takes a line end if one is at hand. -/
def takeBreak (reader : Reader) : List Char × Reader :=
  match reader.rest with
  | c :: _ => if isBreak c then ([unifiedBreak c], reader.advance 1) else ([], reader)
  | [] => ([], reader)

end Reader

end DocumentNormalizer.Yaml
