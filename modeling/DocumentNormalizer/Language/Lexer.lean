import DocumentNormalizer.Language.BlockText
import DocumentNormalizer.Language.Token

namespace DocumentNormalizer

/-- What is left of a source text, and where it starts. -/
structure Cursor where
  position : Position
  rest : List Char

namespace Cursor

/-- Moves on by some characters of the same line. -/
def advance (cursor : Cursor) (count : Nat) : Cursor :=
  ⟨cursor.position.advance count, cursor.rest.drop count⟩

end Cursor

namespace Lexer

/-- What a piece of source text gives, or a fault and its place. -/
abbrev Scan := Except (LexicalFault × Position)

def isNameStart (c : Char) : Bool := c.isAlpha || c = '_'

/-- Letters, digits and the underscore go on in a name. -/
def isNameContinue (c : Char) : Bool := c.isAlphanum || c = '_'

/-- Characters that separate tokens without ending a line. -/
def isSeparator (c : Char) : Bool := c = ' ' || c = '\t' || c = ',' || c = '\uFEFF'

/-- Skips what separates tokens. A comment runs up to the end of its line. -/
def skipIgnored (inComment : Bool) (position : Position) : List Char → Cursor
  | [] => ⟨position, []⟩
  | '\r' :: '\n' :: rest => skipIgnored false position.nextLine rest
  | '\r' :: rest => skipIgnored false position.nextLine rest
  | '\n' :: rest => skipIgnored false position.nextLine rest
  | c :: rest =>
    if inComment || isSeparator c then skipIgnored inComment (position.advance 1) rest
    else if c = '#' then skipIgnored true (position.advance 1) rest
    else ⟨position, c :: rest⟩

def digits (cursor : Cursor) : Scan (List Char × Cursor) :=
  match cursor.rest.takeWhile Char.isDigit with
  | [] => .error (.digitExpected cursor.rest.head?, cursor.position)
  | run => .ok (run, cursor.advance run.length)

/-- The part of a number before any point: a single zero, or digits. -/
def wholePart (cursor : Cursor) : Scan (List Char × Cursor) :=
  match cursor.rest with
  | '0' :: c :: _ =>
    if c.isDigit then .error (.digitAfterZero c, cursor.position.advance 1)
    else .ok (['0'], cursor.advance 1)
  | ['0'] => .ok (['0'], cursor.advance 1)
  | _ => digits cursor

/-- A point and the digits after it, if there is a point. -/
def fractionPart (cursor : Cursor) : Scan (List Char × Cursor) :=
  match cursor.rest with
  | '.' :: _ => do
    let (run, next) ← digits (cursor.advance 1)
    return ('.' :: run, next)
  | _ => return ([], cursor)

def exponentPart (cursor : Cursor) : Scan (List Char × Cursor) :=
  match cursor.rest with
  | e :: rest =>
    if e = 'e' || e = 'E' then do
      let sign := (rest.take 1).filter fun c => c = '+' || c = '-'
      let (run, next) ← digits (cursor.advance (1 + sign.length))
      return (e :: sign ++ run, next)
    else return ([], cursor)
  | [] => return ([], cursor)

/-- A number, kept as it is written. No name, point or digit may follow it directly. -/
def number (cursor : Cursor) : Scan (Lexeme × Cursor) := do
  let sign := (cursor.rest.take 1).filter (· = '-')
  let (whole, cursor) ← wholePart (cursor.advance sign.length)
  let (fraction, cursor) ← fractionPart cursor
  let (exponent, cursor) ← exponentPart cursor
  match cursor.rest with
  | c :: _ =>
    if c = '.' || isNameStart c then
      throw (.digitExpected (some c), cursor.position)
  | [] => pure ()
  let text := String.ofList (sign ++ whole ++ fraction ++ exponent)
  if fraction.isEmpty && exponent.isEmpty then return (.int text, cursor)
  else return (.float text, cursor)

/-- The characters that a backslash turns into something else. -/
def shortEscape? : Char → Option Char
  | '"' => some '"'
  | '\\' => some '\\'
  | '/' => some '/'
  | 'b' => some '\x08'
  | 'f' => some '\x0c'
  | 'n' => some '\n'
  | 'r' => some '\r'
  | 't' => some '\t'
  | _ => none

def charOfPoint? (point : Nat) : Option Char :=
  if point.isValidChar then some (Char.ofNat point) else none

/-- The escape with a code point in braces: at most eight digits, and the braces. `rest` is what
follows the opening brace. -/
def bracedEscape (rest : List Char) : Except LexicalFault (Char × Nat) :=
  let window := rest.take 9
  let run := window.takeWhile fun c => (Text.hexDigit? c).isSome
  let fault := .unicodeEscape (String.ofList ('\\' :: 'u' :: '{' :: window.take (run.length + 1)))
  if window[run.length]? = some '}' && !run.isEmpty then
    match Text.ofHexDigits? run >>= charOfPoint? with
    | some c => .ok (c, run.length + 4)
    | none => .error fault
  else .error fault

/-- The escape with four digits. Two of them may write one character as a pair of surrogates.
`rest` is what follows the letter. -/
def fixedEscape (rest : List Char) : Except LexicalFault (Char × Nat) :=
  let fault := .unicodeEscape (String.ofList ('\\' :: 'u' :: rest.take 4))
  let code? (digits : List Char) : Option Nat :=
    if digits.length = 4 then Text.ofHexDigits? digits else none
  match code? (rest.take 4) with
  | none => .error fault
  | some code =>
    match charOfPoint? code with
    | some c => .ok (c, 6)
    | none =>
      match (rest.drop 4).take 2, code? ((rest.drop 6).take 4) with
      | ['\\', 'u'], some low =>
        if code < 0xDC00 ∧ 0xDC00 ≤ low ∧ low ≤ 0xDFFF then
          .ok (Char.ofNat (0x10000 + (code - 0xD800) * 0x400 + (low - 0xDC00)), 12)
        else .error fault
      | _, _ => .error fault

/-- The character that an escape stands for, and how many characters the escape takes, its
backslash among them. `rest` is what follows the backslash. -/
def escape (rest : List Char) : Except LexicalFault (Char × Nat) :=
  match rest with
  | 'u' :: '{' :: rest => bracedEscape rest
  | 'u' :: rest => fixedEscape rest
  | _ =>
    match rest.head? >>= shortEscape? with
    | some c => .ok (c, 2)
    | none => .error (.characterEscape (String.ofList ('\\' :: rest.take 1)))

/-- The text of a string up to its closing quote; `cursor` is behind the opening one. Each round
reads a character or an escape, so `steps` need not exceed what is left of the source. -/
def stringText : (steps : Nat) → Cursor → Scan (List Char × Cursor)
  | 0, cursor => .error (.unterminatedString, cursor.position)
  | steps + 1, cursor =>
    match cursor.rest with
    | [] => .error (.unterminatedString, cursor.position)
    | c :: rest =>
      if c = '"' then .ok ([], cursor.advance 1)
      else if c = '\n' || c = '\r' then .error (.unterminatedString, cursor.position)
      else if c = '\\' then
        match escape rest with
        | .error fault => .error (fault, cursor.position)
        | .ok (written, size) => do
          let (text, next) ← stringText steps (cursor.advance size)
          return (written :: text, next)
      else do
        let (text, next) ← stringText steps (cursor.advance 1)
        return (c :: text, next)

/-- Puts a character in front of the first line. -/
def consLine (c : Char) : List (List Char) → List (List Char)
  | [] => [[c]]
  | line :: lines => (c :: line) :: lines

/-- The lines of a block string up to its closing quotes, behind the opening ones. A backslash
takes away the meaning of three quotes and of nothing else. -/
def blockLines (position : Position) : List Char → Scan (List (List Char) × Cursor)
  | [] => .error (.unterminatedString, position)
  | '"' :: '"' :: '"' :: rest => .ok ([[]], ⟨position.advance 3, rest⟩)
  | '\\' :: '"' :: '"' :: '"' :: rest => do
    let (lines, next) ← blockLines (position.advance 4) rest
    return (consLine '"' (consLine '"' (consLine '"' lines)), next)
  | '\r' :: '\n' :: rest => do
    let (lines, next) ← blockLines position.nextLine rest
    return ([] :: lines, next)
  | '\r' :: rest => do
    let (lines, next) ← blockLines position.nextLine rest
    return ([] :: lines, next)
  | '\n' :: rest => do
    let (lines, next) ← blockLines position.nextLine rest
    return ([] :: lines, next)
  | c :: rest => do
    let (lines, next) ← blockLines (position.advance 1) rest
    return (consLine c lines, next)

/-- The token that starts at a character, which is neither the first of three points nor a quote:
a mark, a number or a name. -/
def word (cursor : Cursor) (c : Char) (rest : List Char) : Scan (Lexeme × Cursor) :=
  match Punctuator.ofChar? c with
  | some mark => .ok (.punctuator mark, cursor.advance 1)
  | none =>
    if c.isDigit || c = '-' then number cursor
    else if isNameStart c then
      let name := c :: rest.takeWhile isNameContinue
      .ok (.name (String.ofList name), cursor.advance name.length)
    else if c = '\'' then .error (.singleQuote, cursor.position)
    else .error (.unexpectedCharacter c, cursor.position)

/-- The token that starts at a character which separates nothing. -/
def lexeme (cursor : Cursor) : Scan (Lexeme × Cursor) :=
  match cursor.rest with
  | [] => .ok (.endOfText, cursor)
  | '.' :: '.' :: '.' :: _ => .ok (.punctuator .spread, cursor.advance 3)
  | '"' :: '"' :: '"' :: rest => do
    let (lines, next) ← blockLines (cursor.position.advance 3) rest
    let text := List.intercalate ['\n'] (BlockText.dedent lines)
    return (.string (String.ofList text) true, next)
  | '"' :: rest => do
    let (text, next) ← stringText (rest.length + 1) (cursor.advance 1)
    return (.string (String.ofList text) false, next)
  | c :: rest => word cursor c rest

/-- The tokens from a cursor on, up to the end of the text or the first fault. A token takes at
least one character, so `steps` need not exceed what is left of the source. -/
def tokensFrom : (steps : Nat) → Cursor → List Token
  | 0, _ => []
  | steps + 1, cursor =>
    let cursor := skipIgnored false cursor.position cursor.rest
    match lexeme cursor with
    | .error (fault, position) => [⟨.fault fault, position⟩]
    | .ok (.endOfText, _) => [⟨.endOfText, cursor.position⟩]
    | .ok (found, next) => ⟨found, cursor.position⟩ :: tokensFrom steps next

end Lexer

/-- The tokens that are still to be read: the one at hand and those behind it. The last of them is
the end of the text or a fault. -/
structure Tokens where
  current : Token
  following : List Token

def Tokens.ofText (text : String) : Tokens :=
  let chars := text.toList
  match Lexer.tokensFrom (chars.length + 1) ⟨Position.start, chars⟩ with
  | [] => ⟨⟨.endOfText, Position.start⟩, []⟩
  | first :: rest => ⟨first, rest⟩

end DocumentNormalizer
