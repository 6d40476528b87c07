import DocumentNormalizer.Language.Position

namespace DocumentNormalizer

/-- A way through selections and a place in a source. Nodes that no source holds have no place. -/
structure Location where
  path : List String
  position : Option Position
deriving DecidableEq

namespace Location

def nowhere : Location := ⟨[], none⟩

def ofText (text : String) : Location := ⟨[text], none⟩

def text (location : Location) : String :=
  let way := ".".intercalate location.path
  match location.position with
  | none => way
  | some position => if way = "" then position.text else way ++ " (" ++ position.text ++ ")"

end Location

end DocumentNormalizer
