namespace DocumentNormalizer

/-- What a class lists: a character, or all from one to another. -/
inductive ClassItem where
  | single (c : Char)
  | range (low high : Char)

/-- A part of a pattern. All but a run stand for one character. -/
inductive NamePiece where
  | character (c : Char)
  | any
  | run
  | oneOf (negated : Bool) (items : List ClassItem)

def ClassItem.contains (c : Char) : ClassItem → Bool
  | .single listed => c = listed
  | .range low high => low ≤ c && c ≤ high

def NamePiece.accepts (c : Char) : NamePiece → Bool
  | .character expected => c = expected
  | .any | .run => true
  | .oneOf negated items => items.any (·.contains c) != negated

namespace NamePattern

/-- What the inside of a class lists. A hyphen between two characters makes a range; one in reverse
lists nothing. -/
def classItems : List Char → List ClassItem
  | low :: '-' :: high :: rest => .range low high :: classItems rest
  | c :: rest => .single c :: classItems rest
  | [] => []

/-- The inside of a class up to its closing bracket. A closing bracket in front belongs to the
inside. -/
def classBody? (rest : List Char) : Option (List Char) :=
  let front := rest.take (if rest.head? = some ']' then 1 else 0)
  let body := front ++ (rest.drop front.length).takeWhile (· ≠ ']')
  if rest[body.length]? = some ']' then some body else none

def pieces : List Char → List NamePiece
  | [] => []
  | c :: rest =>
    if c = '*' then .run :: pieces rest
    else if c = '?' then .any :: pieces rest
    else if c = '[' then
      let negated := rest.head? = some '!'
      let inner := rest.drop (if negated then 1 else 0)
      match classBody? inner with
      | some body => .oneOf negated (classItems body) :: pieces (inner.drop (body.length + 1))
      | none => .character '[' :: pieces rest
    else .character c :: pieces rest
termination_by text => text.length
decreasing_by all_goals simp only [List.length_cons, List.length_drop]; omega

def accepts : List NamePiece → List Char → Bool
  | [], [] => true
  | [], _ :: _ => false
  | .run :: pieces, [] => accepts pieces []
  | _ :: _, [] => false
  | .run :: pieces, c :: rest => accepts pieces (c :: rest) || accepts (.run :: pieces) rest
  | piece :: pieces, c :: rest => piece.accepts c && accepts pieces rest
termination_by pieces text => pieces.length + text.length

/-- Whether a text holds characters with a meaning in patterns. -/
def isWild (text : String) : Bool := text.toList.any fun c => c = '*' || c = '?' || c = '['

end NamePattern

end DocumentNormalizer
