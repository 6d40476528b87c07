import DocumentNormalizer.Proofs.Collected
import Mathlib.Data.List.Perm.Subperm

namespace DocumentNormalizer

def Store.setAt (store : Store) (place : Place) : SelectionSet :=
  (store.set? place).getD ⟨none, []⟩

/-- How many sets lie inside each other in the document where they are most. -/
def Store.deepest (store : Store) : Nat :=
  (store.documents.map fun document =>
    Selection.depthOfAll document.definition.selectionSet.selections + 1).max?.getD 0

/-- The type that the set below a selection selects from, in a set on a type. -/
def Selection.innerType (schema : Schema) (type : NamedType) : Selection → NamedType
  | .branch field _ _ => (schema.fieldType? type field.name).getD type
  | .inline fragment _ _ => (fragment.typeCondition >>= schema.type?).getD type
  | .leaf _ | .spread _ => type

/-- What a selection puts at the end of the path of a walk. -/
def Selection.label : Selection → String
  | .leaf field | .branch field _ _ => field.responseKey
  | .inline fragment _ _ => fragment.typeCondition.elim "..." ("... on " ++ ·)
  | .spread use => "..." ++ use.name

/-- How a walk gets into the set that a selection leads to. -/
def Selection.entrance : Selection → Entrance
  | .leaf _ | .branch _ _ _ => .field
  | .inline _ _ _ => .inline
  | .spread _ => .spread

/-- The visitor appends nothing but fields without sets. -/
def Visitor.AppendsLeaves {σ : Type} (visitor : Visitor σ) : Prop :=
  ∀ visit memory, ∃ fields : List Field, (visitor visit memory).1 = fields.map .leaf

namespace Walk

/-- Something that happens on a walk. -/
inductive Event where
  | visit (document : String) (scope : Scope)
  | report (diagnostic : Diagnostic)

/-- What a selection does to a walk through documents that are what they are taken for. -/
def step (schema : Schema) (store : Store) (document : String) (scope : Scope) (index : Nat)
    (selection : Selection) : Step :=
  (follow schema store document scope index selection).toOption.getD ⟨[], none⟩

/-- A selection leads a walk from a scope into another: into the set below it, or into a fragment
that is not open yet. -/
inductive Follows (schema : Schema) (store : Store) (scope : Scope) (index : Nat) :
    Selection → Scope → Prop
  | inside {selection : Selection} {inner : SelectionSet} (has : selection.set? = some inner) :
    Follows schema store scope index selection
      ⟨below scope index, selection.innerType schema scope.type, scope.path ++ [selection.label],
        scope.openFragments, selection.entrance⟩
  | across {use : Spread} {condition : String} (fresh : use.name ∉ scope.openFragments)
    (found : store.condition? use.name = some condition) :
    Follows schema store scope index (.spread use)
      ⟨⟨use.name, []⟩, (schema.type? condition).getD scope.type, scope.path ++ ["..." ++ use.name],
        scope.openFragments ++ [use.name], .spread⟩

/-- A walk gets from a scope into another with one of the selections of its set. -/
def Leads (schema : Schema) (store : Store) (scope next : Scope) : Prop :=
  ∃ index selection, (store.setAt scope.place).selections[index]? = some selection ∧
    Follows schema store scope index selection next

/-- The events of a step, with those of the set that it leads into. -/
def Step.events (inside : Scope → List Event) (step : Step) : List Event :=
  step.reports.map .report ++ step.next.elim [] inside

def events (schema : Schema) (store : Store) (document : String) :
    (depth : Nat) → Scope → List Event
  | 0, _ => []
  | depth + 1, scope =>
    .visit document scope ::
      (store.setAt scope.place).selections.zipIdx.flatMap fun (selection, index) =>
        (step schema store document scope index selection).events
          (events schema store document depth)

section Attend

variable {σ : Type} (schema : Schema) (visitor : Visitor σ) (document : String)

def attend (progress : Progress σ) : Event → Progress σ
  | .visit document scope =>
    let (added, memory) :=
      visitor ⟨document, scope, progress.store.setAt scope.place⟩ progress.memory
    { progress with store := progress.store.append scope.place added, memory }
  | .report diagnostic => { progress with diagnostics := progress.diagnostics ++ [diagnostic] }

def enter (depth : Nat) (scope : Scope) (progress : Progress σ) (indexed : Selection × Nat) :
    Progress σ :=
  if progress.fault.isSome then progress
  else
    match follow schema progress.store document scope indexed.2 indexed.1 with
    | .error fault => { progress with fault := some fault }
    | .ok step =>
      let reported := { progress with diagnostics := progress.diagnostics ++ step.reports }
      match step.next with
      | none => reported
      | some next => into schema visitor document depth next reported

theorem into_succ (depth : Nat) (scope : Scope) (progress : Progress σ) :
    into schema visitor document (depth + 1) scope progress =
      ((progress.store.setAt scope.place).selections ++ (visitor
          ⟨document, scope, progress.store.setAt scope.place⟩ progress.memory).1).zipIdx.foldl
        (enter schema visitor document depth scope)
        (attend visitor progress (.visit document scope)) :=
  rfl

end Attend

section Grow

variable {schema : Schema} {store : Store} {document : String} {scope : Scope} {index : Nat}

@[simp]
theorem follow_grow (growth : Growth) (added : List Nat → List Field) (selection : Selection) :
    follow schema (store.grow growth) document scope index (selection.grow added) =
      follow schema store document scope index selection := by
  cases selection with
  | leaf => rfl
  | branch => rfl
  | inline => rfl
  | spread use => simp only [Selection.grow, follow, followSpread, Store.fragment?_grow]

theorem follow_eq_step (collected : store.IsCollected) (selection : Selection) :
    follow schema store document scope index selection =
      .ok (step schema store document scope index selection) := by
  cases selection with
  | leaf => rfl
  | branch => rfl
  | inline => rfl
  | spread use =>
    simp only [step, follow, followSpread, collected.fragment?_eq]
    split
    · rfl
    · cases store.condition? use.name with
      | none => rfl
      | some condition => cases found : schema.type? condition <;> simp [found, Except.toOption]

@[simp]
theorem step_grow (growth : Growth) (added : List Nat → List Field) (selection : Selection) :
    step schema (store.grow growth) document scope index (selection.grow added) =
      step schema store document scope index selection := by
  rw [step, follow_grow, step]

theorem position_setAt_grow (growth : Growth) (place : Place) :
    ((store.grow growth).setAt place).position = (store.setAt place).position := by
  rw [Store.setAt, Store.set?_grow, Store.setAt]
  cases store.set? place <;> rfl

@[simp]
theorem events_grow (growth : Growth) (depth : Nat) (scope : Scope) :
    events schema (store.grow growth) document depth scope =
      events schema store document depth scope := by
  induction depth generalizing scope with
  | zero => rfl
  | succ depth ih =>
    rw [events, events, Store.setAt, Store.set?_grow, Store.setAt]
    congr 1
    cases store.set? scope.place with
    | none => rfl
    | some set =>
      simp only [Option.map_some, Option.getD_some, SelectionSet.grow, funext ih]
      apply Selection.flatMap_growFrom
      · intro field index
        rfl
      · intro selection added index
        rw [step_grow]

theorem step_branch (field : Field) (position : Option Position) (selections : List Selection) :
    step schema store document scope index (.branch field position selections) =
      followField schema document scope index field := rfl

theorem step_inline (fragment : InlineFragment) (position : Option Position)
    (selections : List Selection) :
    step schema store document scope index (.inline fragment position selections) =
      followInline schema document scope index fragment := rfl

theorem step_spread (collected : store.IsCollected) (use : Spread) :
    step schema store document scope index (.spread use) =
      let path := scope.path ++ ["..." ++ use.name]
      let report (issue : Issue) : Diagnostic := .unsigned issue document ⟨path, use.position⟩
      if use.name ∈ scope.openFragments then
        ⟨[report (.fragmentCycle (scope.openFragments ++ [use.name]))], none⟩
      else
        match store.condition? use.name with
        | none => ⟨[report (.unknownFragment use.name)], none⟩
        | some condition =>
          ⟨if (schema.type? condition).isSome then []
            else [report (.unknownFragmentCondition condition use.name)],
            some ⟨⟨use.name, []⟩, (schema.type? condition).getD scope.type, path,
              scope.openFragments ++ [use.name], .spread⟩⟩ := by
  rw [step, follow, followSpread, collected.fragment?_eq]
  by_cases isOpen : use.name ∈ scope.openFragments
  · simp only [List.contains_iff_mem, isOpen, if_true]
    rfl
  · simp only [List.contains_iff_mem, isOpen, if_false]
    cases store.condition? use.name with
    | none => rfl
    | some condition => cases found : schema.type? condition <;> simp [found, Except.toOption]

theorem next_followField (field : Field) :
    (followField schema document scope index field).next =
      some ⟨below scope index, (schema.fieldType? scope.type field.name).getD scope.type,
        scope.path ++ [field.responseKey], scope.openFragments, .field⟩ := by
  rw [followField]
  cases schema.fieldType? scope.type field.name <;> rfl

theorem next_followInline (fragment : InlineFragment) :
    (followInline schema document scope index fragment).next =
      some ⟨below scope index, (fragment.typeCondition >>= schema.type?).getD scope.type,
        scope.path ++ [fragment.typeCondition.elim "..." ("... on " ++ ·)], scope.openFragments,
        .inline⟩ := by
  rw [followInline]
  cases fragment.typeCondition with
  | none => rfl
  | some name => cases found : schema.type? name <;> simp [found]

theorem next_inside {selection : Selection} {inner : SelectionSet}
    (has : selection.set? = some inner) :
    (step schema store document scope index selection).next =
      some ⟨below scope index, selection.innerType schema scope.type,
        scope.path ++ [selection.label], scope.openFragments, selection.entrance⟩ := by
  cases selection with
  | leaf => cases has
  | branch field position selections => rw [step_branch, next_followField]; rfl
  | inline fragment position selections => rw [step_inline, next_followInline]; rfl
  | spread => cases has

theorem next_spread (collected : store.IsCollected) (use : Spread) :
    (step schema store document scope index (.spread use)).next =
      if use.name ∈ scope.openFragments then none
      else (store.condition? use.name).map fun condition =>
        ⟨⟨use.name, []⟩, (schema.type? condition).getD scope.type,
          scope.path ++ ["..." ++ use.name], scope.openFragments ++ [use.name], .spread⟩ := by
  rw [step_spread collected]
  by_cases isOpen : use.name ∈ scope.openFragments
  · simp only [isOpen, if_true]
  · simp only [isOpen, if_false]
    cases store.condition? use.name <;> rfl

theorem step_next_iff (collected : store.IsCollected) {selection : Selection} {next : Scope} :
    (step schema store document scope index selection).next = some next ↔
      Follows schema store scope index selection next := by
  constructor
  · intro leads
    cases has : selection.set? with
    | some inner =>
      rw [next_inside has] at leads
      cases leads
      exact .inside has
    | none =>
      cases selection with
      | leaf => cases leads
      | branch => cases has
      | inline => cases has
      | spread use =>
        rw [next_spread collected] at leads
        split at leads
        · cases leads
        · next fresh =>
          obtain ⟨condition, found, rfl⟩ := Option.map_eq_some_iff.1 leads
          exact .across fresh found
  · intro follows
    cases follows with
    | inside has => exact next_inside has
    | across fresh found => rw [next_spread collected, if_neg fresh, found]; rfl

end Grow

def reports (events : List Event) : List Diagnostic :=
  events.filterMap fun
    | .visit _ _ => none
    | .report diagnostic => some diagnostic

section Attend

variable {σ : Type} {schema : Schema} {store : Store} {visitor : Visitor σ} {document : String}

/-- The store of a walk is the store it started from, grown, and nothing went wrong. -/
structure Grown (store : Store) (progress : Progress σ) : Prop where
  growth : ∃ growth, progress.store = store.grow growth
  sound : progress.fault = none

theorem Grown.start (store : Store) (memory : σ) :
    Grown store (⟨store, memory, [], none⟩ : Progress σ) :=
  ⟨⟨fun _ => [], (store.grow_empty).symm⟩, rfl⟩

theorem Grown.attend {progress : Progress σ} (grown : Grown store progress)
    (leaves : visitor.AppendsLeaves) (event : Event) :
    Grown store (attend visitor progress event) := by
  cases event with
  | visit document scope =>
    obtain ⟨growth, same⟩ := grown.growth
    obtain ⟨fields, added⟩ :=
      leaves ⟨document, scope, progress.store.setAt scope.place⟩ progress.memory
    refine ⟨⟨growth.put scope.place fields, ?_⟩, grown.sound⟩
    simp only [Walk.attend, added]
    rw [same, Store.append_grow]
  | report diagnostic => exact ⟨grown.growth, grown.sound⟩

theorem Grown.foldl {progress : Progress σ} (grown : Grown store progress)
    (leaves : visitor.AppendsLeaves) (events : List Event) :
    Grown store (events.foldl (Walk.attend visitor) progress) := by
  induction events generalizing progress with
  | nil => exact grown
  | cons event rest ih => exact ih (grown.attend leaves event)

theorem foldl_reports (reports : List Diagnostic) (progress : Progress σ) :
    (reports.map Event.report).foldl (attend visitor) progress =
      { progress with diagnostics := progress.diagnostics ++ reports } := by
  induction reports generalizing progress with
  | nil => simp
  | cons diagnostic rest ih => simp [attend, ih]

theorem diagnostics_foldl (events : List Event) (progress : Progress σ) :
    (events.foldl (attend visitor) progress).diagnostics =
      progress.diagnostics ++ reports events := by
  induction events generalizing progress with
  | nil => exact (List.append_nil _).symm
  | cons event rest ih =>
    rw [List.foldl_cons, ih]
    cases event with
    | visit document scope => rfl
    | report diagnostic => exact List.append_assoc _ _ _

theorem enter_leaf (depth index : Nat) (scope : Scope) (progress : Progress σ) (field : Field) :
    enter schema visitor document depth scope progress (.leaf field, index) = progress := by
  simp [enter, follow]

theorem foldl_enter_leaves (depth index : Nat) (scope : Scope) (progress : Progress σ)
    (fields : List Field) :
    ((fields.map Selection.leaf).zipIdx index).foldl (enter schema visitor document depth scope)
      progress = progress := by
  induction fields generalizing index with
  | nil => rfl
  | cons field rest ih =>
    rw [List.map_cons, List.zipIdx_cons, List.foldl_cons, enter_leaf, ih]

/-- Walking from a scope does what its events say, whatever the store has grown to. -/
def Faithful (schema : Schema) (store : Store) (visitor : Visitor σ) (document : String)
    (depth : Nat) (scope : Scope) : Prop :=
  ∀ progress, Grown store progress → into schema visitor document depth scope progress =
    (events schema store document depth scope).foldl (attend visitor) progress

theorem enter_grow {depth index : Nat} {scope : Scope} {progress : Progress σ}
    {selection : Selection} (collected : store.IsCollected)
    (inside : ∀ next, Follows schema store scope index selection next →
      Faithful schema store visitor document depth next)
    (grown : Grown store progress) (added : List Nat → List Field) :
    enter schema visitor document depth scope progress (selection.grow added, index) =
      ((step schema store document scope index selection).events
        (events schema store document depth)).foldl (attend visitor) progress := by
  obtain ⟨growth, same⟩ := grown.growth
  simp only [enter, grown.sound, Option.isSome_none, Bool.false_eq_true, if_false, same,
    follow_grow, follow_eq_step collected, Step.events, List.foldl_append, foldl_reports]
  cases leads : (step schema store document scope index selection).next with
  | none => rfl
  | some next => exact inside next ((step_next_iff collected).1 leads) _ ⟨⟨growth, rfl⟩, rfl⟩

theorem foldl_enter_grow {depth index : Nat} {scope : Scope} {progress : Progress σ}
    {selections : List Selection} (collected : store.IsCollected) (leaves : visitor.AppendsLeaves)
    (inside : ∀ i selection, selections[i]? = some selection →
      ∀ next, Follows schema store scope (index + i) selection next →
        Faithful schema store visitor document depth next)
    (grown : Grown store progress) (added : List Nat → List Field) (more : List Field) :
    ((Selection.growFrom added index selections ++ more.map Selection.leaf).zipIdx index).foldl
        (enter schema visitor document depth scope) progress =
      ((selections.zipIdx index).flatMap fun (selection, index) =>
        (step schema store document scope index selection).events
          (events schema store document depth)).foldl (attend visitor) progress := by
  induction selections generalizing index progress with
  | nil =>
    rw [Selection.growFrom, ← List.map_append, foldl_enter_leaves]
    rfl
  | cons head rest ih =>
    have first : ∀ next, Follows schema store scope index head next →
        Faithful schema store visitor document depth next := inside 0 head rfl
    rw [Selection.growFrom, List.cons_append, List.zipIdx_cons, List.foldl_cons,
      enter_grow collected first grown, List.zipIdx_cons, List.flatMap_cons, List.foldl_append]
    apply ih
    · intro i selection chosen next follows
      rw [Nat.add_right_comm] at follows
      exact inside (i + 1) selection chosen next follows
    · exact grown.foldl leaves _

end Attend

end Walk

end DocumentNormalizer
