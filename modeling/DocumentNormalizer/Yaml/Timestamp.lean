import DocumentNormalizer.Text.Hexadecimal
import DocumentNormalizer.Yaml.Misfit

namespace DocumentNormalizer.Yaml

structure TimeOfDay where
  hour : Nat
  minute : Nat
  second : Nat
  microsecond : Nat

/-- The parts of a timestamp. A time of day may have an offset from universal time in minutes. -/
structure Timestamp where
  year : Nat
  month : Nat
  day : Nat
  time : Option (TimeOfDay × Option Int)

namespace Timestamp

/-- Takes a number of one of some lengths, the longest that is there. -/
def digits? (least most : Nat) (text : List Char) : Option (Nat × List Char) :=
  let run := (text.take most).takeWhile Char.isDigit
  if run.length < least then none
  else (String.ofList run).toNat?.map fun n => (n, text.drop run.length)

def mark? (mark : Char) : List Char → Option (List Char)
  | c :: rest => if c = mark then some rest else none
  | [] => none

/-- An offset: none, `Z`, or a signed distance in hours and minutes. -/
def offset? (text : List Char) : Option (Option Int) :=
  match text.dropWhile fun c => c = ' ' || c = '\t' with
  | [] => if text.isEmpty then some none else none
  | ['Z'] => some (some 0)
  | sign :: rest => do
    if sign ≠ '+' && sign ≠ '-' then failure
    let (hours, rest) ← digits? 1 2 rest
    let minutes ←
      if rest.isEmpty then some 0
      else do
        let (minutes, rest) ← digits? 2 2 (← mark? ':' rest)
        if rest.isEmpty then some minutes else none
    let distance : Nat := 60 * hours + minutes
    return some (if sign = '-' then -distance else distance)

/-- Takes a fraction of a second, of which six digits count. -/
def fraction (text : List Char) : Nat × List Char :=
  match text with
  | '.' :: rest =>
    let digits := rest.takeWhile Char.isDigit
    let counted := (digits.take 6).rightpad 6 '0'
    ((String.ofList counted).toNat?.getD 0, rest.drop digits.length)
  | _ => (0, text)

def time? (text : List Char) : Option (TimeOfDay × Option Int) := do
  let rest ← match text with
    | 'T' :: rest | 't' :: rest => some rest
    | _ =>
      let rest := text.dropWhile fun c => c = ' ' || c = '\t'
      if rest.length = text.length then none else some rest
  let (hour, rest) ← digits? 1 2 rest
  let (minute, rest) ← digits? 2 2 (← mark? ':' rest)
  let (second, rest) ← digits? 2 2 (← mark? ':' rest)
  let (microsecond, rest) := fraction rest
  return (⟨hour, minute, second, microsecond⟩, ← offset? rest)

def ofText? (text : List Char) : Option Timestamp := do
  let (year, rest) ← digits? 4 4 text
  let (month, rest) ← digits? 1 2 (← mark? '-' rest)
  let (day, rest) ← digits? 1 2 (← mark? '-' rest)
  if rest.isEmpty then return ⟨year, month, day, none⟩
  else return ⟨year, month, day, ← time? rest⟩

/-- Whether a plain scalar is a timestamp by its spelling: a date of full width, or one with a time of
day. -/
def isSpelling (text : List Char) : Bool :=
  (ofText? text).any fun timestamp => timestamp.time.isSome || text.length = 10

def isLeap (year : Nat) : Bool := year % 4 = 0 && (year % 100 ≠ 0 || year % 400 = 0)

def daysIn (year month : Nat) : Nat :=
  if month = 2 then if isLeap year then 29 else 28
  else if [4, 6, 9, 11].contains month then 30
  else 31

/-- What is wrong with an offset, which must be shorter than a day. -/
def offsetMisfit? (offset : Option Int) : Option Misfit :=
  offset.bind fun minutes => if minutes.natAbs < 1440 then none else some (.offset minutes)

def dateMisfit? (timestamp : Timestamp) : Option Misfit :=
  if timestamp.year = 0 then some .year
  else if timestamp.month < 1 || 12 < timestamp.month then some .month
  else if timestamp.day < 1 || daysIn timestamp.year timestamp.month < timestamp.day then some .day
  else none

def timeMisfit? (time : TimeOfDay) : Option Misfit :=
  if 23 < time.hour then some .hour
  else if 59 < time.minute then some .minute
  else if 59 < time.second then some .second
  else none

/-- What is wrong with a timestamp. Its offset comes first. -/
def misfit? (timestamp : Timestamp) : Option Misfit :=
  match timestamp.time with
  | none => timestamp.dateMisfit?
  | some (time, offset) => (offsetMisfit? offset).or (timestamp.dateMisfit?.or (timeMisfit? time))

def dayCount (timestamp : Timestamp) : Nat :=
  let years := timestamp.year - 1
  let months := (List.range (timestamp.month - 1)).map fun n => daysIn timestamp.year (n + 1)
  365 * years + years / 4 - years / 100 + years / 400 + months.foldl (· + ·) 0 + (timestamp.day - 1)

/-- The number of microseconds from the first day of the first year, in universal time if the offset is
known. -/
def microseconds (timestamp : Timestamp) (time : TimeOfDay) (offset : Option Int) : Int :=
  let minutes : Int := 60 * (24 * timestamp.dayCount + time.hour) + time.minute - offset.getD 0
  1000000 * (60 * minutes + time.second) + time.microsecond

end Timestamp

end DocumentNormalizer.Yaml
