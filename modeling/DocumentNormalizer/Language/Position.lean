namespace DocumentNormalizer

structure Position where
  line : Nat
  column : Nat
deriving DecidableEq

namespace Position

def start : Position := ⟨1, 1⟩

/-- `count` characters further on the same line. -/
def advance (position : Position) (count : Nat) : Position :=
  { position with column := position.column + count }

def nextLine (position : Position) : Position := ⟨position.line + 1, 1⟩

def text (position : Position) : String := s!"{position.line}:{position.column}"

end Position

end DocumentNormalizer
