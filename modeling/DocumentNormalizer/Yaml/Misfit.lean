import DocumentNormalizer.Text.Digits
import DocumentNormalizer.Text.Quoted
import DocumentNormalizer.Yaml.Fault

namespace DocumentNormalizer.Yaml

/-- Why a scalar does not fit its tag, or a number has no meaning where it stands. -/
inductive Misfit where
  | noCodePoint
  | hugeCodePoint
  | tooManyDigits (count : Nat)
  | nothing
  | numeral (base : Nat) (text : List CodePoint)
  | decimal (text : List CodePoint)
  | tooLarge
  | truth (text : List CodePoint)
  | timestamp
  | collectionAsTimestamp
  | endless
  | offset (minutes : Int)
  | year
  | month
  | day
  | hour
  | minute
  | second
deriving DecidableEq

/-- How many characters of a quoted text a message about a numeral shows. -/
def shownLimit : Nat := 200

/-- A number of days that may be negative and a number of minutes of one day, in words that leave out
what is zero. -/
def durationText (minutes : Int) : String :=
  let days := minutes.fdiv 1440
  let seconds := 60 * minutes.fmod 1440
  let parts := (if days = 0 then [] else ["days=" ++ toString days]) ++
    (if seconds = 0 then [] else ["seconds=" ++ toString seconds])
  "datetime.timedelta(" ++ ", ".intercalate parts ++ ")"

def Misfit.message : Misfit → String
  | .noCodePoint => "chr() arg not in range(0x110000)"
  | .hugeCodePoint => "Python int too large to convert to C int"
  | .tooManyDigits count =>
    "Exceeds the limit (" ++ toString Text.digitLimit ++
      " digits) for integer string conversion: value has " ++ toString count ++
      " digits; use sys.set_int_max_str_digits() to increase the limit"
  | .nothing => "string index out of range"
  | .numeral base text =>
    "invalid literal for int() with base " ++ toString base ++ ": " ++
      String.ofList ((Text.quotePoints text).toList.take shownLimit)
  | .decimal text => "could not convert string to float: " ++ Text.quotePoints text
  | .tooLarge => "int too large to convert to float"
  | .truth text => Text.quotePoints text
  | .timestamp => "'NoneType' object has no attribute 'groupdict'"
  | .collectionAsTimestamp => "expected string or bytes-like object, got 'list'"
  | .endless => "maximum recursion depth exceeded"
  | .offset minutes =>
    "offset must be a timedelta strictly between -timedelta(hours=24) and timedelta(hours=24), not " ++
      durationText minutes ++ "."
  | .year => "year 0 is out of range"
  | .month => "month must be in 1..12"
  | .day => "day is out of range for month"
  | .hour => "hour must be in 0..23"
  | .minute => "minute must be in 0..59"
  | .second => "second must be in 0..59"

/-- Why a text has no value. -/
inductive LoadFault where
  | malformed (fault : Fault)
  | misfit (misfit : Misfit)

/-- Something read from a YAML text, or why there is nothing. -/
abbrev Load := Except LoadFault

def malformed {α : Type} (fault : Fault) : Load α := .error (.malformed fault)

def unfit {α : Type} (misfit : Misfit) : Load α := .error (.misfit misfit)

end DocumentNormalizer.Yaml
