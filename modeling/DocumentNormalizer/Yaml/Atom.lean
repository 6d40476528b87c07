import DocumentNormalizer.Text.Base64
import DocumentNormalizer.Yaml.Number
import DocumentNormalizer.Yaml.Tag

namespace DocumentNormalizer.Yaml

/-- What a scalar stands for. Truth values are the numbers zero and one. Moments are counted in microseconds,
and they are universal or not. -/
inductive Atom where
  | null
  | text (text : List CodePoint)
  | bytes (content : List UInt8)
  | number (number : Number)
  | date (days : Nat)
  | moment (microseconds : Int) (universal : Bool)
deriving DecidableEq

namespace Atom

/-- Whether two atoms of different nodes are the same. What is undefined on its own is not even the same
as another such thing. -/
def isSame (first second : Atom) : Bool :=
  first = second && first ≠ .number (.undefined false)

/-- The truth value that a word stands for, in letters of any case. -/
def ofTruth (text : List CodePoint) : Load Atom :=
  let word := Text.lowercase text
  let isOne (words : List String) : Bool := words.any fun each => word = Text.points each.toList
  if isOne ["yes", "true", "on"] then .ok (.number (.whole 1))
  else if isOne ["no", "false", "off"] then .ok (.number (.whole 0))
  else unfit (.truth word)

/-- The bytes that a text stands for. It must be plain. -/
def ofBinary (text : List CodePoint) : Load Atom :=
  let plain := (text.mapM CodePoint.char?).filter (·.all (·.toNat < 128))
  match plain.bind (Text.base64Bytes? [] 0) with
  | some content => .ok (.bytes content)
  | none => malformed (.unfitTag Tag.binary.name)

/-- The date or moment that a text stands for. A line end behind it does not matter. -/
def ofTimestamp (text : List CodePoint) : Load Atom :=
  match (text.mapM CodePoint.char?).bind fun text =>
      Timestamp.ofText? (Spelling.withoutLineEnd text) with
  | none => unfit .timestamp
  | some timestamp =>
    match timestamp.misfit?, timestamp.time with
    | some misfit, _ => unfit misfit
    | none, none => .ok (.date timestamp.dayCount)
    | none, some (time, offset) =>
      .ok (.moment (timestamp.microseconds time offset) offset.isSome)

def ofText (tag : Tag) (text : List CodePoint) : Load Atom :=
  match tag with
  | .null => .ok .null
  | .truth => ofTruth text
  | .integer => .number <$> Number.ofInteger text
  | .number => .number <$> Number.ofScalar text
  | .timestamp => ofTimestamp text
  | .binary => ofBinary text
  | .text => .ok (.text text)
  | .list | .mapping | .set | .pairs | .orderedPairs => malformed (.unfitTag tag.name)
  | .merge | .value | .other _ => malformed (.unknownTag tag.name)

end Atom

end DocumentNormalizer.Yaml
