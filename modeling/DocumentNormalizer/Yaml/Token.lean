import DocumentNormalizer.Text.CodePoint

namespace DocumentNormalizer.Yaml

inductive TagText where
  | full (text : String)
  | handle (handle suffix : String)
deriving DecidableEq

/-- A directive. Those with other names have no effect. -/
inductive Directive where
  | version (major : Nat)
  | handle (handle expansion : String)
  | other
deriving DecidableEq

inductive Token where
  | directive (directive : Directive)
  | documentStart
  | documentEnd
  | blockSequence
  | blockMapping
  | blockEnd
  | openSequence
  | closeSequence
  | openMapping
  | closeMapping
  | entry
  | comma
  | key
  | value
  | anchor (name : String)
  | reference (name : String)
  | tag (text : TagText)
  | scalar (text : List CodePoint) (plain : Bool)
deriving DecidableEq

end DocumentNormalizer.Yaml
