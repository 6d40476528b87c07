import DocumentNormalizer.Pass.Typename

namespace DocumentNormalizer

namespace KeyFields

/-- Whether entities of a type are identified by the keys: it declares all of them, and operations
do not start from it. -/
def isEntity (schema : Schema) (keys : List String) (type : NamedType) : Bool :=
  !schema.isRootType type && type.hasFields keys

/-- The keys that cannot be selected by their name alone. -/
def unusable (schema : Schema) (keys : List String) (type : NamedType) : List String :=
  keys.filter (!schema.isBareSelectable type ·)

def missing (keys : List String) (set : SelectionSet) : List String :=
  (keys.filter (!set.selects ·)).eraseDups

/-- What is remembered from visit to visit: the types and keys that were reported, and the reports
of the walk in progress. -/
structure Memory where
  rejected : List (String × String)
  reports : List Diagnostic

/-- Reports a key of a type unless that was done before. -/
def reject (visit : Visit) (memory : Memory) (key : String) : Memory :=
  let type := visit.scope.type.name
  if memory.rejected.contains (type, key) then memory
  else
    ⟨memory.rejected ++ [(type, key)],
      memory.reports ++
        [.unsigned (.unusableKey key type) visit.document ⟨[], visit.set.position⟩]⟩

/-- Puts the missing keys into the sets of entities. -/
def visitor (schema : Schema) (keys : List String) : Visitor Memory := fun visit memory =>
  if visit.scope.entrance = .inline || !isEntity schema keys visit.scope.type then ([], memory)
  else
    match unusable schema keys visit.scope.type with
    | [] => ((missing keys visit.set).map .bare, memory)
    | unusable => ([], unusable.foldl (reject visit) memory)

/-- Walks a document and puts the reports of its visits before those of its walk. -/
def document (schema : Schema) (keys : List String) (depth : Nat) (key : String)
    (progress : Progress Memory) : Progress Memory :=
  let walked := Walk.document schema (visitor schema keys) depth key
    { progress with diagnostics := [] }
  { walked with
    memory := { walked.memory with reports := [] }
    diagnostics := progress.diagnostics ++ walked.memory.reports ++ walked.diagnostics }

def run (keys : List String) (schema : Schema) (store : Store) : PassOutcome :=
  if keys.isEmpty then ⟨store, .ok []⟩
  else
    let progress := store.keys.foldl (fun progress key =>
      if progress.fault.isSome then progress
      else document schema keys store.walkDepth key progress)
      (⟨store, ⟨[], []⟩, [], none⟩ : Progress Memory)
    match progress.fault with
    | some fault => ⟨progress.store, .error (.walk fault)⟩
    | none => ⟨progress.store, .ok progress.diagnostics⟩

end KeyFields

/-- Gives the keys that they lack to sets that fields and spreads lead to, if their types declare all keys. -/
def Pass.addKeyFields (keys : List String) : Pass :=
  ⟨some "add_key_fields", "AddKeyFields", KeyFields.run keys⟩

end DocumentNormalizer
