import DocumentNormalizer.Pass.Basic

namespace DocumentNormalizer

def Selection.isTypedInline : Selection → Bool
  | .inline fragment _ _ => fragment.typeCondition.isSome
  | .leaf _ | .branch _ _ _ | .spread _ => false

def Selection.selects (name : String) (selection : Selection) : Bool :=
  selection.field?.any fun field => field.name = name && field.label.isNone

def SelectionSet.hasTypedInline (set : SelectionSet) : Bool :=
  set.selections.any Selection.isTypedInline

/-- Whether a set selects a field directly and under its own name. -/
def SelectionSet.selects (set : SelectionSet) (name : String) : Bool :=
  set.selections.any (·.selects name)

namespace Typename

def isMissing (type : NamedType) (set : SelectionSet) : Bool :=
  type.isAbstract && set.hasTypedInline && !set.selects typenameField

def visitor : Visitor Unit := fun visit _ =>
  (if isMissing visit.scope.type visit.set then [.bare typenameField] else [], ())

def run (schema : Schema) (store : Store) : PassOutcome :=
  let progress := Walk.documents schema visitor () store
  match progress.fault with
  | some fault => ⟨progress.store, .error (.walk fault)⟩
  | none => ⟨progress.store, .ok progress.diagnostics⟩

end Typename

/-- Gives a `__typename` to each set on an abstract type that narrows it, unless it selects one. -/
def Pass.addTypename : Pass := ⟨some "add_typename", "AddTypename", Typename.run⟩

end DocumentNormalizer
