import DocumentNormalizer.Console.Handler.Format
import DocumentNormalizer.Text.Hexadecimal
import DocumentNormalizer.Text.Word

namespace DocumentNormalizer

inductive LiteralFault where
  | unclosed (opening : Char)
  | unmatched (closing : Char)
  | crossed (closing opening : Char)
  | unclosedText (line : Nat)
  | unclosedLongText (line : Nat)
  | strayBackslash
  | foreignCharacter (c : Char)
  | hiddenCharacter (c : Char)
  | digit (c : Char) (base : String)
  | number (base : String)
  | leadingZero
  | foreignBytes
  | escape (first last : Nat) (reason : String)
  | byteEscape (place : Nat)
  | mixedTexts
  | format (fault : FormatFault)
  | inFormat (fault : LiteralFault)
  | missingComma
  | missingElse
  | missingColon
  | missingValue
  | starredValue
  | starred
  | doubleStarred
  | starAlone
  | assignedName
  | assigned (sort : String)
  | walrus (sort : String)
  | fixed (word : String)
  | assignedArgument
  | forgottenBrackets (word : String)
  | malformed
  | noKey (sort : String)
  | other
deriving DecidableEq

def LiteralFault.message : LiteralFault → String
  | .unclosed opening => "'" ++ opening.toString ++ "' was never closed"
  | .unmatched closing => "unmatched '" ++ closing.toString ++ "'"
  | .crossed closing opening =>
    "closing parenthesis '" ++ closing.toString ++ "' does not match opening parenthesis '" ++
      opening.toString ++ "'"
  | .unclosedText line => "unterminated string literal (detected at line " ++ toString line ++ ")"
  | .unclosedLongText line =>
    "unterminated triple-quoted string literal (detected at line " ++ toString line ++ ")"
  | .strayBackslash => "unexpected character after line continuation character"
  | .foreignCharacter c =>
    "invalid character '" ++ c.toString ++ "' (U+" ++ Text.upperHexadecimal 4 c.toNat ++ ")"
  | .hiddenCharacter c => "invalid non-printable character U+" ++ Text.upperHexadecimal 4 c.toNat
  | .digit c base => "invalid digit '" ++ c.toString ++ "' in " ++ base ++ " literal"
  | .number base => "invalid " ++ base ++ " literal"
  | .leadingZero =>
    "leading zeros in decimal integer literals are not permitted; " ++
      "use an 0o prefix for octal integers"
  | .foreignBytes => "bytes can only contain ASCII literal characters"
  | .escape first last reason =>
    "(unicode error) 'unicodeescape' codec can't decode bytes in position " ++ toString first ++
      "-" ++ toString last ++ ": " ++ reason
  | .byteEscape place => "(value error) invalid \\x escape at position " ++ toString place
  | .mixedTexts => "cannot mix bytes and nonbytes literals"
  | .format fault => fault.message
  | .inFormat fault => "f-string: " ++ fault.message
  | .missingComma => "invalid syntax. Perhaps you forgot a comma?"
  | .missingElse => "expected 'else' after 'if' expression"
  | .missingColon => "':' expected after dictionary key"
  | .missingValue => "expression expected after dictionary key and ':'"
  | .starredValue => "cannot use a starred expression in a dictionary value"
  | .starred => "cannot use starred expression here"
  | .doubleStarred => "cannot use double starred expression here"
  | .starAlone => "Invalid star expression"
  | .assignedName => "invalid syntax. Maybe you meant '==' or ':=' instead of '='?"
  | .assigned sort =>
    "cannot assign to " ++ sort ++ " here. Maybe you meant '==' instead of '='?"
  | .walrus sort => "cannot use assignment expressions with " ++ sort
  | .fixed word => "cannot assign to " ++ word
  | .assignedArgument => "expression cannot contain assignment, perhaps you meant \"==\"?"
  | .forgottenBrackets word =>
    "Missing parentheses in call to '" ++ word ++ "'. Did you mean " ++ word ++ "(...)?"
  | .malformed => "malformed node or string"
  | .noKey sort => "unhashable type: '" ++ sort ++ "'"
  | .other => "invalid syntax"

/-- A fault as it is told of an expression in a text. Those of tokens are told as ever. -/
def LiteralFault.ofPart : LiteralFault → LiteralFault
  | .inFormat fault => .inFormat fault
  | .digit c base => .digit c base
  | .number base => .number base
  | .leadingZero => .leadingZero
  | .foreignCharacter c => .foreignCharacter c
  | .hiddenCharacter c => .hiddenCharacter c
  | .unclosedText line => .unclosedText line
  | .unclosedLongText line => .unclosedLongText line
  | fault => .inFormat fault

/-- A quoted text, with what is wrong in it as far as that does not depend on expressions in it. -/
structure QuotedText where
  bytes : Bool
  raw : Bool
  formatted : Bool
  content : List Char
  fault : Option LiteralFault
deriving DecidableEq

inductive LiteralToken where
  | word (text : String)
  | number (imaginary : Bool)
  | quoted (text : QuotedText)
  | mark (text : String)
deriving DecidableEq

/-- Tokens, each with how many brackets are open behind it, and what is wrong behind the last one. -/
structure LiteralTokens where
  tokens : List (LiteralToken × Nat)
  stop : Option LiteralFault

namespace LiteralToken

/-- Characters that words start with. Those that are not plain are looked at once the word is read. -/
def startsWord (c : Char) : Bool := c.isAlpha || c = '_' || 128 ≤ c.toNat

def isWordChar (c : Char) : Bool := startsWord c || c.isDigit

/-- Whether a word comes next that may follow a number without a blank. -/
def mayFollow (rest : List Char) : Bool :=
  ["if", "in", "is"].any (·.toList.isPrefixOf rest) ||
    ["and", "else", "for", "or", "not"].contains (String.ofList (rest.takeWhile isWordChar))

def behindNumber (base : String) (rest : List Char) : Except LiteralFault (List Char) :=
  let isWordStart := rest.head?.any fun c => isWordChar c && c.toNat < 128
  if mayFollow rest || !isWordStart then .ok rest else .error (.number base)

/-- Takes digits, between which single underscores may stand. -/
def digits (isDigit : Char → Bool) (base : String) : Nat → List Char →
    Except LiteralFault (List Char)
  | 0, rest => .ok rest
  | bound + 1, rest =>
    match rest.dropWhile isDigit with
    | '_' :: behind =>
      if behind.head?.any isDigit then digits isDigit base bound behind
      else
        match behind.head?.filter Char.isDigit with
        | some c => .error (if base = "decimal" then .number base else .digit c base)
        | none => .error (.number base)
    | behind => .ok behind

def basedNumber (isDigit : Char → Bool) (base : String) (rest : List Char) :
    Except LiteralFault (LiteralToken × List Char) := do
  let start := if rest.head? = some '_' then rest.tail else rest
  if !start.head?.any isDigit then
    match start.head?.filter Char.isDigit with
    | some c => throw (.digit c base)
    | none => throw (.number base)
  let rest ← digits isDigit base rest.length start
  match rest.head?.filter Char.isDigit with
  | some c => throw (.digit c base)
  | none => return (.number false, ← behindNumber base rest)

/-- Takes the digits behind a point, if there are some. -/
def fraction (rest : List Char) : Except LiteralFault (List Char) :=
  if rest.head?.any Char.isDigit then digits Char.isDigit "decimal" rest.length rest else .ok rest

def exponent (rest : List Char) : Except LiteralFault (List Char) :=
  match rest with
  | e :: behind =>
    let unsigned := match behind with
      | '+' :: rest | '-' :: rest => rest
      | _ => behind
    if (e = 'e' || e = 'E') && unsigned.head?.any Char.isDigit then
      digits Char.isDigit "decimal" unsigned.length unsigned
    else .ok rest
  | [] => .ok rest

def readNumber (text : List Char) : Except LiteralFault (LiteralToken × List Char) := do
  match text with
  | '0' :: 'x' :: rest | '0' :: 'X' :: rest =>
    basedNumber (fun c => (Text.hexDigit? c).isSome) "hexadecimal" rest
  | '0' :: 'o' :: rest | '0' :: 'O' :: rest =>
    basedNumber (fun c => '0' ≤ c && c ≤ '7') "octal" rest
  | '0' :: 'b' :: rest | '0' :: 'B' :: rest =>
    basedNumber (fun c => c = '0' || c = '1') "binary" rest
  | _ =>
    let whole ← if text.head? = some '.' then pure text
      else digits Char.isDigit "decimal" text.length text
    let pointed ← match whole with
      | '.' :: rest => fraction rest
      | _ => pure whole
    let behind ← exponent pointed
    match behind with
    | 'j' :: rest | 'J' :: rest => return (.number true, ← behindNumber "imaginary" rest)
    | _ =>
      let digits := (text.take (text.length - behind.length)).filter (· ≠ '_')
      if digits.length = text.length - whole.length && behind.length = whole.length &&
          digits.head? = some '0' && digits.any (· ≠ '0') then
        throw .leadingZero
      return (.number false, ← behindNumber "decimal" behind)

/-- What is behind a quoted text, and the text. Backslashes keep quotes from ending it, and line ends end
only short ones. -/
def readText (quote : Char) (long : Bool) (line : Nat) :
    List Char → Except LiteralFault (List Char × List Char)
  | [] => .error (if long then .unclosedLongText line else .unclosedText line)
  | '\\' :: c :: rest =>
    (readText quote long (if c = '\n' then line + 1 else line) rest).map fun (content, rest) =>
      ('\\' :: c :: content, rest)
  | c :: rest =>
    if c = '\n' && !long then .error (.unclosedText line)
    else if c = quote && !long then .ok ([], rest)
    else if c = quote && rest.take 2 = [quote, quote] then .ok ([], rest.drop 2)
    else
      (readText quote long (if c = '\n' then line + 1 else line) rest).map fun (content, rest) =>
        (c :: content, rest)

/-- The escapes with digits in base sixteen: what stands behind the backslash, and how many digits. -/
def escapeLengths : List (Char × Nat) := [('x', 2), ('u', 4), ('U', 8)]

/-- The length of a text whose characters that are not plain are written as escapes. -/
def escapedLength (text : List Char) : Nat :=
  text.foldl (fun length c => length + if 128 ≤ c.toNat then 10 else 1) 0

/-- What is wrong with an escape whose backslash is at a place, given what is behind it. Capital letters are
taken for the name of a character. -/
def escapeFault? (place : Nat) : List Char → Option LiteralFault
  | 'N' :: '\x7b' :: rest =>
    let name := rest.takeWhile (· ≠ '\x7d')
    if name.length = rest.length || name.isEmpty then
      some (.escape place (place + 2 + escapedLength name) "malformed \\N character escape")
    else if name.head?.any Char.isUpper &&
        name.all fun c => c.isUpper || c.isDigit || c = ' ' || c = '-' then
      none
    else some (.escape place (place + 3 + escapedLength name) "unknown Unicode character name")
  | 'N' :: _ => some (.escape place (place + 1) "malformed \\N character escape")
  | letter :: rest =>
    match escapeLengths.lookup letter with
    | none => none
    | some length =>
      let digits := (rest.take length).takeWhile fun c => (Text.hexDigit? c).isSome
      let last := place + 1 + digits.length
      if digits.length < length then
        let shape := String.ofList (letter :: List.replicate length 'X')
        some (.escape place last ("truncated \\" ++ shape ++ " escape"))
      else if (Text.ofHexDigits? digits).any (0x10ffff < ·) then
        some (.escape place last "illegal Unicode character")
      else none
  | [] => none

/-- The first escape that is wrong. Characters that are not plain are counted as the escapes that stand for
them, and so is a backslash before one. -/
def wrongEscape? (place : Nat) : List Char → Option LiteralFault
  | [] => none
  | '\\' :: c :: rest =>
    if 128 ≤ c.toNat then wrongEscape? (place + 16) rest
    else (escapeFault? place (c :: rest)).or (wrongEscape? (place + 2) rest)
  | c :: rest => wrongEscape? (place + escapedLength [c]) rest

def wrongByteEscape? (place : Nat) : List Char → Option LiteralFault
  | [] => none
  | '\\' :: 'x' :: rest =>
    let digits := (rest.take 2).takeWhile fun c => (Text.hexDigit? c).isSome
    if digits.length < 2 then some (.byteEscape place)
    else wrongByteEscape? (place + 2) rest
  | '\\' :: _ :: rest => wrongByteEscape? (place + 2) rest
  | _ :: rest => wrongByteEscape? (place + 1) rest

/-- Takes a quoted text behind letters that tell its sort. -/
def readQuoted (letters : List Char) (quote : Char) (line : Nat) (rest : List Char) :
    Except LiteralFault (LiteralToken × List Char) := do
  let long := rest.take 2 = [quote, quote]
  let (content, rest) ← readText quote long line (if long then rest.drop 2 else rest)
  let has (c : Char) : Bool := letters.any (·.toLower = c)
  let fault :=
    if has 'b' && content.any (128 ≤ ·.toNat) then some .foreignBytes
    else if has 'r' || has 'f' then none
    else if has 'b' then wrongByteEscape? 0 content
    else wrongEscape? 0 content
  return (.quoted ⟨has 'b', has 'r', has 'f', content, fault⟩, rest)

/-- Whether letters can tell the sort of a quoted text. -/
def areTextLetters (letters : List Char) : Bool :=
  ["", "r", "b", "u", "f", "rb", "br", "fr", "rf"].contains
    (String.ofList (letters.map Char.toLower))

/-- Marks of more than one character, the longest first. -/
def longMarks : List String :=
  ["...", "**=", "//=", ">>=", "<<=", "==", "!=", "<=", ">=", "->", ":=", "**", "//", "<<", ">>", "+=",
    "-=", "*=", "/=", "%=", "&=", "|=", "^=", "@=", "<>"]

def readMark (text : List Char) : LiteralToken × List Char :=
  match longMarks.find? fun mark => mark.toList.isPrefixOf text with
  | some found => (.mark found, text.drop found.length)
  | none => (.mark (String.ofList (text.take 1)), text.drop 1)

def nest (c : Char) (opened : List Char) : Except LiteralFault (List Char) :=
  if c = '(' || c = '\x7b' then .ok (c :: opened)
  else if c = ')' || c = '\x7d' then
    match opened with
    | [] => .error (.unmatched c)
    | opening :: outer =>
      if (opening = '(') = (c = ')') then .ok outer else .error (.crossed c opening)
  else .ok opened

/-- The first character that keeps a word from being an identifier. -/
def misplaced? : List Char → Option Char
  | [] => none
  | c :: rest =>
    if Text.isIdentifierStart c then rest.find? (!Text.isIdentifierPart ·) else some c

def readWord (word rest : List Char) : Except LiteralFault (LiteralToken × List Char) :=
  match misplaced? word with
  | none => .ok (.word (String.ofList word), rest)
  | some c => .error (if Text.isPrintable c then .foreignCharacter c else .hiddenCharacter c)

/-- Takes the token that starts with a character which is no blank. -/
def read (line : Nat) (c : Char) (rest : List Char) :
    Except LiteralFault (LiteralToken × List Char) :=
  let text := c :: rest
  let word := text.takeWhile isWordChar
  let behind := text.dropWhile isWordChar
  let quote := behind.head?.filter fun c => c = '\'' || c = '"'
  if c.isDigit || (c = '.' && rest.head?.any Char.isDigit) then readNumber text
  else
    match quote with
    | some quote =>
      if areTextLetters word then readQuoted word quote line behind.tail
      else readWord word behind
    | none =>
      if startsWord c then readWord word behind
      else if !Text.isPrintable c then .error (.hiddenCharacter c)
      else .ok (readMark text)

/-- The tokens from a place on. Line ends count outside of brackets. Each step takes a character, so the
length of the text is a sufficient bound. -/
def readAll (line : Nat) (opened : List Char) : Nat → List Char →
    Except LiteralFault LiteralTokens
  | 0, _ => .ok ⟨[], none⟩
  | _, [] => .ok ⟨[], opened.head?.map .unclosed⟩
  | bound + 1, c :: rest =>
    let keep (token : LiteralToken) (opened : List Char) (line : Nat) (rest : List Char) :
        Except LiteralFault LiteralTokens :=
      (readAll line opened bound rest).map fun more =>
        { more with tokens := (token, opened.length) :: more.tokens }
    if c = ' ' || c = '\t' || c = '\x0c' then readAll line opened bound rest
    else if c = '#' then readAll line opened bound (rest.dropWhile (· ≠ '\n'))
    else if c = '\n' then
      if opened.isEmpty then keep (.mark "\n") opened (line + 1) rest
      else readAll (line + 1) opened bound rest
    else if c = '\\' then
      match rest with
      | '\n' :: rest => readAll (line + 1) opened bound rest
      | _ => .ok ⟨[], some .strayBackslash⟩
    else do
      let opened ← nest c opened
      let (token, behind) ← read line c rest
      let passed := (rest.take (rest.length - behind.length)).countP (· = '\n')
      keep token opened (line + passed) behind

def ofText (text : List Char) : Except LiteralFault LiteralTokens :=
  readAll 1 [] (text.length + 1) text

end LiteralToken

end DocumentNormalizer
