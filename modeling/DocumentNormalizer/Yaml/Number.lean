import DocumentNormalizer.Text.Blank
import DocumentNormalizer.Text.Hexadecimal
import DocumentNormalizer.Text.Lowercase
import DocumentNormalizer.Yaml.Misfit

namespace DocumentNormalizer.Yaml

/-- A number. One that is whole is the same number in all spellings; of others the bits in double precision
are kept. What is no number is undefined, either by a common name or on its own. -/
inductive Number where
  | whole (n : Int)
  | double (bits : UInt64)
  | undefined (common : Bool)
deriving DecidableEq

namespace Number

/-- Blanks that may stand around a numeral. -/
def isPad (c : Char) : Bool := c = ' ' || ('\t' ≤ c && c ≤ '\r')

/-- A text with plain blanks and plain digits. Nothing counts behind a character that is neither of them nor
plain itself. -/
def plainText : List CodePoint → List Char
  | [] => []
  | .surrogate _ :: _ => ['?']
  | .char c :: rest =>
    if c.toNat < 128 then c :: plainText rest
    else if Text.isBlank c then ' ' :: plainText rest
    else if (Text.decimalDigit? c).isSome then Text.plainDigit c :: plainText rest
    else ['?']

def unpadded (text : List Char) : List Char :=
  ((text.dropWhile isPad).reverse.dropWhile isPad).reverse

def signed : List Char → Bool × List Char
  | '-' :: rest => (true, rest)
  | '+' :: rest => (false, rest)
  | text => (false, text)

def unmarked (base : Nat) : List Char → List Char
  | '0' :: mark :: rest =>
    if [(2, 'b'), (2, 'B'), (8, 'o'), (8, 'O'), (16, 'x'), (16, 'X')].contains (base, mark) then rest
    else '0' :: mark :: rest
  | text => text

def ofDigits (base : Nat) (digits : List Char) : Nat :=
  digits.foldl (fun value c => base * value + (Text.hexDigit? c).getD 0) 0

/-- The integer that a numeral in a base stands for. In base ten, too many digits are refused whatever
stands behind them. -/
def integer (base : Nat) (text : List CodePoint) : Load Int :=
  let (negative, body) := signed (unpadded (plainText text))
  let body := unmarked base body
  let run := body.takeWhile fun c => (Text.hexDigit? c).any (· < base)
  if base = 10 && Text.digitLimit < run.length then unfit (.tooManyDigits run.length)
  else if run.isEmpty || run.length < body.length then unfit (.numeral base text)
  else
    let n : Int := ofDigits base run
    .ok (if negative then -n else n)

/-- The number in double precision that is nearest to a decimal: digits, of which the last ones are behind the
point, and an exponent. -/
def nearest (digits : List Char) (places : Nat) (exponent : Int) : Float :=
  let digits := digits.dropWhile (· = '0')
  let size : Int := digits.length - places + exponent
  let shift : Int := exponent - places
  if digits.isEmpty || size < -400 then 0
  else if 400 < size then 1 / 0
  else .ofScientific (ofDigits 10 digits) (shift < 0) shift.natAbs

def exponent? : List Char → Option Int
  | [] => some 0
  | e :: rest =>
    let (negative, digits) := signed rest
    if e ≠ 'e' || digits.isEmpty || !digits.all Char.isDigit then none
    else
      let n : Int := ofDigits 10 digits
      some (if negative then -n else n)

/-- A decimal without a sign, or one of the words for infinity and for what is no number. -/
def decimal? (text : List Char) : Option Float :=
  if ["inf".toList, "infinity".toList].contains text then some (1 / 0)
  else if text = "nan".toList then some (0 / 0)
  else
    let (front, behind) := text.span Char.isDigit
    let (fraction, behind) := match behind with
      | '.' :: rest => rest.span Char.isDigit
      | _ => ([], behind)
    if front.isEmpty && fraction.isEmpty then none
    else (exponent? behind).map (nearest (front ++ fraction) fraction.length)

/-- The number in double precision that a numeral in small letters stands for. -/
def decimal (text : List CodePoint) : Load Float :=
  let (negative, body) := signed (unpadded (plainText text))
  match decimal? body with
  | some value => .ok (if negative then -value else value)
  | none => unfit (.decimal text)

/-- Takes the sign of a scalar, and tells whether it is a minus. There must be something to look at. -/
def signedScalar : List CodePoint → Load (Bool × List CodePoint)
  | [] => unfit .nothing
  | .char '-' :: rest => .ok (true, rest)
  | .char '+' :: rest => .ok (false, rest)
  | text => .ok (false, text)

/-- A scalar without the underscores that part its digits. -/
def withoutGaps (text : List CodePoint) : List CodePoint := text.filter (· ≠ .char '_')

/-- The integer that a scalar stands for. Its base is told by what it starts with. -/
def ofInteger (text : List CodePoint) : Load Number := do
  let (negative, body) ← signedScalar (withoutGaps text)
  let n ← match body with
    | [] => unfit .nothing
    | .char '0' :: .char 'b' :: rest => integer 2 rest
    | .char '0' :: .char 'x' :: rest => integer 16 rest
    | .char '0' :: _ => integer 8 body
    | _ => do
      let parts ← (body.splitOnP (· = .char ':')).mapM (integer 10)
      pure (parts.foldl (fun sum part => 60 * sum + part) 0)
  return .whole (if negative then -n else n)

/-- A number in double precision as it is told apart from others. -/
def ofDouble (value : Float) : Number :=
  let bits := value.toBits
  let raised := (bits >>> 52).toNat % 2048
  let low := bits.toNat % Nat.pow 2 52
  if raised = 2047 then if low = 0 then .double bits else .undefined false
  else
    let mantissa := if raised = 0 then low else Nat.pow 2 52 + low
    let scaled := mantissa * Nat.pow 2 (raised - 1)
    if scaled % Nat.pow 2 1074 ≠ 0 then .double bits
    else
      let n : Nat := scaled / Nat.pow 2 1074
      .whole (if bits < 0x8000000000000000 then n else -n)

/-- How many parts between colons a number in double precision can have. The first of more parts would
count for more than there is. -/
def partLimit : Nat := 174

def ofScalar (text : List CodePoint) : Load Number := do
  let (negative, body) ← signedScalar (Text.lowercase (withoutGaps text))
  let sign (value : Float) : Number := ofDouble (if negative then -value else value)
  if body = Text.points ".inf".toList then return sign (1 / 0)
  else if body = Text.points ".nan".toList then return .undefined true
  else if !body.contains (.char ':') then return sign (← decimal body)
  else
    let parts ← (body.splitOnP (· = .char ':')).mapM decimal
    if partLimit < parts.length then unfit .tooLarge
    else
      let summands := parts.reverse.mapIdx fun place part => part * Float.ofNat (Nat.pow 60 place)
      return sign (summands.foldl (· + ·) 0)

end Number

end DocumentNormalizer.Yaml
