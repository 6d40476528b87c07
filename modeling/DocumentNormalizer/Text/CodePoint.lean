namespace DocumentNormalizer

/-- A code point: a character, or half of a surrogate pair on its own. -/
inductive CodePoint where
  | char (c : Char)
  | surrogate (number : Nat)
deriving DecidableEq

namespace CodePoint

def ofNat (n : Nat) : CodePoint := if n.isValidChar then .char (Char.ofNat n) else .surrogate n

def char? : CodePoint → Option Char
  | .char c => some c
  | .surrogate _ => none

end CodePoint

namespace Text

def points (text : List Char) : List CodePoint := text.map .char

def ofPoints? (points : List CodePoint) : Option String :=
  String.ofList <$> points.mapM CodePoint.char?

end Text

end DocumentNormalizer
