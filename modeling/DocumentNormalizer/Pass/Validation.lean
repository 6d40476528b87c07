import DocumentNormalizer.Pass.Basic
import DocumentNormalizer.Pass.Cycles

namespace DocumentNormalizer

mutual

/-- The spreads below a selection, itself among them, in the order of the text. -/
def Selection.spreads : Selection → List Spread
  | .leaf _ => []
  | .branch _ _ selections | .inline _ _ selections => Selection.spreadsOfAll selections
  | .spread use => [use]

def Selection.spreadsOfAll : List Selection → List Spread
  | [] => []
  | head :: rest => head.spreads ++ Selection.spreadsOfAll rest

end

def Document.spreads (document : Document) : List Spread :=
  Selection.spreadsOfAll document.definition.selectionSet.selections

namespace Validation

def rootIssue? (schema : Schema) (document : Document) : Option Issue :=
  match document.kind with
  | .operation kind => if (schema.rootType? kind).isSome then none else some (.missingRoot kind)
  | .fragment =>
    let condition := document.definition.typeCondition.getD ""
    match schema.type? condition with
    | none => some (.unknownCondition condition)
    | some type => if type.isComposite then none else some (.leafCondition type.kind condition)

def unknownSpreads (store : Store) (document : Document) :
    Except Mislabelled (List Diagnostic) := do
  let unknown ← document.spreads.filterM fun use => do
    return (← store.fragment? use.name).isNone
  return unknown.map fun use =>
    .unsigned (.unknownFragment use.name) document.name ⟨[], use.position⟩

def checkDocument (schema : Schema) (store : Store) (document : Document) :
    Except Mislabelled (List Diagnostic) := do
  let root := ((rootIssue? schema document).map fun issue =>
    Diagnostic.unsigned issue document.name document.location).toList
  return root ++ (← unknownSpreads store document)

def dependencies (store : Store) : Dependencies :=
  store.fragments.foldl
    (fun found document => found.set document.name (document.spreads.map (·.name))) []

def fragmentLocation (store : Store) (name : String) : Except Mislabelled Location := do
  match ← store.fragment? name, store.get? name with
  | some _, some document => return document.location
  | _, _ => return .nowhere

def cycleReport (store : Store) (cycle : List String) : Except Mislabelled Diagnostic := do
  let name := cycle.headD ""
  return .unsigned (.fragmentCycle cycle) name (← fragmentLocation store name)

def spreadNames (store : Store) : List String :=
  store.documents.flatMap fun document => document.spreads.map (·.name)

def unusedFragments (store : Store) : List Diagnostic :=
  (store.fragments.filter fun document => !(spreadNames store).contains document.name).map
    fun document => .unsigned (.unusedFragment document.name) document.name document.location

def reports (schema : Schema) (store : Store) : Except Mislabelled (List Diagnostic) := do
  let documents ← store.documents.mapM (checkDocument schema store)
  let cycles ← (dependencies store).cycles.mapM (cycleReport store)
  return documents.flatten ++ cycles ++ unusedFragments store

def run (schema : Schema) (store : Store) : PassOutcome :=
  match reports schema store with
  | .ok reports => ⟨store, .ok reports⟩
  | .error document => ⟨store, .error (.walk (.mislabelled document))⟩

end Validation

/-- Reports what has to be right before documents are rewritten, and changes nothing. -/
def Pass.validateDocuments : Pass :=
  ⟨some "validate_documents", "ValidateDocuments", Validation.run⟩

end DocumentNormalizer
