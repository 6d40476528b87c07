import DocumentNormalizer.Diagnostic
import DocumentNormalizer.Document.Store

namespace DocumentNormalizer

/-- How a walk got into a selection set. -/
inductive Entrance where
  | root | field | inline | spread
deriving DecidableEq

/-- A selection set on a walk: where it is, what it selects from, and how the walk got there. -/
structure Scope where
  place : Place
  type : NamedType
  path : List String
  openFragments : List String
  entrance : Entrance

/-- A selection set at the moment of its visit, in a walk on behalf of a document. -/
structure Visit where
  document : String
  scope : Scope
  set : SelectionSet

/-- What is done at each visit: selections to put at the end of the set, which the walk then goes into as
well, and what to remember. -/
abbrev Visitor (σ : Type) := Visit → σ → List Selection × σ

/-- Why a walk ends early. -/
inductive WalkFault where
  | mislabelled (document : Mislabelled)
  | tooDeep

/-- How far a walk has come. -/
structure Progress (σ : Type) where
  store : Store
  memory : σ
  diagnostics : List Diagnostic
  fault : Option WalkFault

namespace Walk

/-- What a selection does to a walk: it may report something, and it may lead into a set. -/
structure Step where
  reports : List Diagnostic
  next : Option Scope

def below (scope : Scope) (index : Nat) : Place :=
  ⟨scope.place.key, scope.place.path ++ [index]⟩

def followField (schema : Schema) (document : String) (scope : Scope) (index : Nat)
    (field : Field) : Step :=
  let path := scope.path ++ [field.responseKey]
  match schema.fieldType? scope.type field.name with
  | some type => ⟨[], some ⟨below scope index, type, path, scope.openFragments, .field⟩⟩
  | none =>
    ⟨[.unsigned (.unknownField field.name scope.type.name) document ⟨path, field.position⟩],
      some ⟨below scope index, scope.type, path, scope.openFragments, .field⟩⟩

def followInline (schema : Schema) (document : String) (scope : Scope) (index : Nat)
    (fragment : InlineFragment) : Step :=
  let enter (path : List String) (type : NamedType) : Option Scope :=
    some ⟨below scope index, type, path, scope.openFragments, .inline⟩
  match fragment.typeCondition with
  | none => ⟨[], enter (scope.path ++ ["..."]) scope.type⟩
  | some name =>
    let path := scope.path ++ ["... on " ++ name]
    match schema.type? name with
    | some type => ⟨[], enter path type⟩
    | none =>
      ⟨[.unsigned (.unknownInlineCondition name) document ⟨path, fragment.position⟩],
        enter path scope.type⟩

def followSpread (schema : Schema) (store : Store) (document : String) (scope : Scope)
    (use : Spread) : Except WalkFault Step :=
  let path := scope.path ++ ["..." ++ use.name]
  let report (issue : Issue) : Diagnostic := .unsigned issue document ⟨path, use.position⟩
  let enter (type : NamedType) : Option Scope :=
    some ⟨⟨use.name, []⟩, type, path, scope.openFragments ++ [use.name], .spread⟩
  if scope.openFragments.contains use.name then
    .ok ⟨[report (.fragmentCycle (scope.openFragments ++ [use.name]))], none⟩
  else
    match store.fragment? use.name with
    | .error document => .error (.mislabelled document)
    | .ok none => .ok ⟨[report (.unknownFragment use.name)], none⟩
    | .ok (some condition) =>
      match schema.type? condition with
      | some type => .ok ⟨[], enter type⟩
      | none =>
        .ok ⟨[report (.unknownFragmentCondition condition use.name)], enter scope.type⟩

def follow (schema : Schema) (store : Store) (document : String) (scope : Scope) (index : Nat) :
    Selection → Except WalkFault Step
  | .leaf _ => .ok ⟨[], none⟩
  | .branch field _ _ => .ok (followField schema document scope index field)
  | .inline fragment _ _ => .ok (followInline schema document scope index fragment)
  | .spread use => followSpread schema store document scope use

/-- Visits the set of a scope and everything below it. A set has at most `depth` sets on the way
down to any other. The children of a set are the selections that it has right after its visit. -/
def into {σ : Type} (schema : Schema) (visitor : Visitor σ) (document : String) :
    (depth : Nat) → Scope → Progress σ → Progress σ
  | 0, _, progress => { progress with fault := some .tooDeep }
  | depth + 1, scope, progress =>
    let set := (progress.store.set? scope.place).getD ⟨none, []⟩
    let (added, memory) := visitor ⟨document, scope, set⟩ progress.memory
    let visited := { progress with store := progress.store.append scope.place added, memory }
    (set.selections ++ added).zipIdx.foldl (fun progress (selection, index) =>
      if progress.fault.isSome then progress
      else
        match follow schema progress.store document scope index selection with
        | .error fault => { progress with fault := some fault }
        | .ok step =>
          let reported := { progress with diagnostics := progress.diagnostics ++ step.reports }
          match step.next with
          | none => reported
          | some next => into schema visitor document depth next reported) visited

def start? (schema : Schema) (key : String) (document : Document) : Except Issue Scope :=
  let enter (type : NamedType) : Scope := ⟨⟨key, []⟩, type, [], [], .root⟩
  match document.kind with
  | .operation kind =>
    match schema.rootType? kind with
    | some type => .ok (enter type)
    | none => .error (.skippedForRoot kind)
  | .fragment =>
    let condition := document.definition.typeCondition.getD ""
    match schema.type? condition with
    | some type => .ok (enter type)
    | none => .error (.skippedForCondition condition)

/-- Walks the document that was collected under a name. -/
def document {σ : Type} (schema : Schema) (visitor : Visitor σ) (depth : Nat) (key : String)
    (progress : Progress σ) : Progress σ :=
  match progress.store.get? key with
  | none => progress
  | some document =>
    match start? schema key document with
    | .ok scope => into schema visitor document.name depth scope progress
    | .error issue =>
      { progress with
        diagnostics :=
          progress.diagnostics ++ [.unsigned issue document.name document.location] }

end Walk

mutual

/-- How many sets lie inside each other below a selection. -/
def Selection.depth : Selection → Nat
  | .leaf _ | .spread _ => 0
  | .branch _ _ selections | .inline _ _ selections => Selection.depthOfAll selections + 1

/-- How many sets lie inside each other below the selections of a set. -/
def Selection.depthOfAll : List Selection → Nat
  | [] => 0
  | head :: rest => max head.depth (Selection.depthOfAll rest)

end

/-- How many sets can be on the way of a walk at once: no fragment is entered inside itself, and in
each document the way leads straight down. -/
def Store.walkDepth (store : Store) : Nat :=
  let deepest := (store.documents.map fun document =>
    Selection.depthOfAll document.definition.selectionSet.selections + 1).max?.getD 0
  (store.entries.length + 1) * deepest

end DocumentNormalizer
