import DocumentNormalizer.Proofs.Conservation
import DocumentNormalizer.Proofs.Safety
import DocumentNormalizer.Proofs.Spots

namespace DocumentNormalizer

open Walk (storeEvents)

namespace Local

def keyNames (schema : Schema) (keys : List String) (spot : Spot) : List String :=
  if !spot.inlineBody && KeyFields.isEntity schema keys spot.type &&
      (KeyFields.unusable schema keys spot.type).isEmpty then
    KeyFields.missing keys spot.set
  else []

/-- The names that a set gets: keys, then `__typename` if the set narrows its type and still does
not select it. -/
def names (schema : Schema) (keys : List String) (spot : Spot) : List String :=
  let chosen := keyNames schema keys spot
  chosen ++
    if spot.type.isAbstract && spot.set.hasTypedInline &&
        !(spot.set.selects typenameField || chosen.contains typenameField) then
      [typenameField]
    else []

mutual

/-- Rewrites the sets below a selection, in a set on a type. Spreads stay as they are. -/
def selection (schema : Schema) (keys : List String) (type : NamedType) : Selection → Selection
  | .leaf field => .leaf field
  | .branch field position inner =>
    let type := (schema.fieldType? type field.name).getD type
    .branch field position (selections schema keys type inner ++
      (names schema keys ⟨type, false, ⟨position, inner⟩⟩).map .bare)
  | .inline fragment position inner =>
    let type := (fragment.typeCondition >>= schema.type?).getD type
    .inline fragment position (selections schema keys type inner ++
      (names schema keys ⟨type, true, ⟨position, inner⟩⟩).map .bare)
  | .spread use => .spread use

/-- Rewrites the sets below selections, in a set on a type. -/
def selections (schema : Schema) (keys : List String) (type : NamedType) :
    List Selection → List Selection
  | [] => []
  | head :: rest => selection schema keys type head :: selections schema keys type rest

end

def document (schema : Schema) (keys : List String) (document : Document) : Document :=
  match document.rootType? schema with
  | none => document
  | some type =>
    let set := document.definition.selectionSet
    { document with
      definition :=
        { document.definition with
          selectionSet := ⟨set.position, selections schema keys type set.selections ++
            (names schema keys ⟨type, false, set⟩).map .bare⟩ } }

variable {schema : Schema} {keys : List String}

/-- The names that go to the set that a list of indexes leads to from a spot. -/
def namesAt (schema : Schema) (keys : List String) (spot : Option Spot) (path : List Nat) :
    List String :=
  (spot >>= fun spot => spot.at? schema path).elim [] (names schema keys)

theorem namesAt_cons {spot : Spot} {index : Nat} {head : Selection}
    (chosen : spot.set.selections[index]? = some head) (path : List Nat) :
    namesAt schema keys (some spot) (index :: path) =
      namesAt schema keys (head.spot? schema spot.type) path := by
  simp only [namesAt, Spot.at?, Spot.below?, chosen, Option.bind_eq_bind, Option.bind_some]

mutual

/-- Rewriting a selection puts names at the ends of the sets below it. -/
theorem grow_eq_selection (type : NamedType) (given : Selection) :
    given.grow (fun path => (namesAt schema keys (given.spot? schema type) path).map .bare) =
      selection schema keys type given := by
  cases given with
  | leaf => rfl
  | branch field position inner =>
    rw [Selection.grow, selection, growFrom_eq_selections]
    · rw [List.map_map]
      rfl
    · intro i head path chosen
      rw [Nat.zero_add]
      exact congrArg (List.map Field.bare) (namesAt_cons chosen path)
  | inline fragment position inner =>
    rw [Selection.grow, selection, growFrom_eq_selections]
    · rw [List.map_map]
      rfl
    · intro i head path chosen
      rw [Nat.zero_add]
      exact congrArg (List.map Field.bare) (namesAt_cons chosen path)
  | spread => rfl

theorem growFrom_eq_selections (type : NamedType) (index : Nat) (given : List Selection)
    (added : List Nat → List Field)
    (same : ∀ i head path, given[i]? = some head → added ((index + i) :: path) =
      (namesAt schema keys (head.spot? schema type) path).map .bare) :
    Selection.growFrom added index given =
      selections schema keys type given ++ (added []).map .leaf := by
  cases given with
  | nil => rfl
  | cons head rest =>
    have first : (fun path => added (index :: path)) = fun path =>
        (namesAt schema keys (head.spot? schema type) path).map .bare :=
      funext fun path => same 0 head path rfl
    rw [Selection.growFrom, first, grow_eq_selection, growFrom_eq_selections type (index + 1) rest]
    · rfl
    · intro i other path chosen
      rw [Nat.add_right_comm]
      exact same (i + 1) other path chosen

end

theorem grow_eq_document {given : Document} {spot : Spot} (start : given.spot? schema = some spot) :
    given.grow (fun path => (namesAt schema keys (some spot) path).map .bare) =
      document schema keys given := by
  obtain ⟨type, typed, rfl⟩ := Option.map_eq_some_iff.1 start
  rw [document, typed]
  simp only [Document.grow, SelectionSet.grow]
  rw [growFrom_eq_selections type]
  · rw [List.map_map]
    rfl
  · intro i head path chosen
    rw [Nat.zero_add]
    exact congrArg (List.map Field.bare) (namesAt_cons chosen path)

end Local

namespace Completion

variable {schema : Schema} {store : Store} (completion : Completion)

theorem any_asks (judge : Spot → Bool) (collected : store.IsCollected)
    (sound : store.IsSound schema)
    (judged : ∀ scope set, completion.wanted scope set =
      judge ⟨scope.type, scope.entrance = .inline, set⟩) (place : Place) :
    (storeEvents schema store).any (completion.asks store place) =
      (store.spotAt? schema place).any judge := by
  rw [Bool.eq_iff_iff, List.any_eq_true, Option.any_eq_true]
  constructor
  · rintro ⟨event, member, asks⟩
    cases event with
    | report diagnostic => cases asks
    | visit document scope =>
      obtain ⟨here, wanted⟩ := Bool.and_eq_true_iff.1 asks
      have here := of_decide_eq_true here
      subst here
      rw [judged] at wanted
      exact ⟨_, Walk.isCoherent_of_visit_store collected sound member, wanted⟩
  · rintro ⟨spot, there, wanted⟩
    obtain ⟨document, scope, member, rfl⟩ := Walk.exists_visit collected there
    refine ⟨_, member, ?_⟩
    rw [Walk.isCoherent_of_visit_store collected sound member] at there
    cases there
    simp only [asks, decide_true, Bool.true_and, judged, wanted]

theorem any_asks_grow (collected : store.IsCollected) (growth : Growth) (place : Place) :
    (storeEvents schema store).any (completion.asks (store.grow growth) place) =
      (storeEvents schema store).any (completion.asks store place) := by
  rw [Bool.eq_iff_iff, List.any_eq_true, List.any_eq_true]
  apply exists_congr
  intro event
  apply and_congr_right
  intro member
  cases event with
  | report diagnostic => rfl
  | visit document scope =>
    rw [asks, asks]
    by_cases here : scope.place = place
    · have there := Walk.found_of_visit_store collected member
      rw [here] at there
      rw [Walk.setAt_grow there, completion.wanted_grow]
    · simp [here]

end Completion

section

variable {schema : Schema} {keys : List String} {store : Store}

theorem KeyFields.supplement_eq (collected : store.IsCollected) (sound : store.IsSound schema)
    (place : Place) :
    (completion schema keys).supplement store (storeEvents schema store) place =
      (store.spotAt? schema place).elim [] (Local.keyNames schema keys) := by
  have asked := (completion schema keys).any_asks
    (fun spot => !spot.inlineBody && isEntity schema keys spot.type &&
      (unusable schema keys spot.type).isEmpty)
    collected sound (fun scope set => by simp [completion]) place
  rw [Completion.supplement, asked]
  cases there : store.spotAt? schema place with
  | none => rfl
  | some spot =>
    rw [Store.setAt_of_set? (Store.set?_of_spotAt? there)]
    rfl

theorem Typename.supplement_eq (collected : store.IsCollected) (sound : store.IsSound schema)
    (added : Place → List String) (place : Place) :
    completion.supplement (store.supply added) (storeEvents schema store) place =
      (store.spotAt? schema place).elim [] fun spot =>
        if spot.type.isAbstract && spot.set.hasTypedInline &&
            !(spot.set.selects typenameField || (added place).contains typenameField) then
          [typenameField]
        else [] := by
  have asked := completion.any_asks
    (fun spot => spot.type.isAbstract && spot.set.hasTypedInline)
    collected sound (fun scope set => rfl) place
  rw [Completion.supplement, Store.supply, completion.any_asks_grow collected, asked]
  cases there : store.spotAt? schema place with
  | none => rfl
  | some spot =>
    have set := Store.set?_of_spotAt? there
    have selects : ((store.supply added).setAt place).selects typenameField = _ :=
      Store.selects_setAt_supply (by rw [set]; rfl) typenameField
    rw [Store.setAt_of_set? set, Store.supply] at selects
    simp only [Option.any_some, Option.elim_some, KeyFields.missing, completion,
      List.filter_singleton, selects]
    cases spot.type.isAbstract && spot.set.hasTypedInline <;>
      cases spot.set.selects typenameField || (added place).contains typenameField <;> rfl

namespace Local

def storeKeyNames (schema : Schema) (keys : List String) (store : Store) (place : Place) :
    List String :=
  (store.spotAt? schema place).elim [] (keyNames schema keys)

def storeNames (schema : Schema) (keys : List String) (store : Store) (place : Place) :
    List String :=
  (store.spotAt? schema place).elim [] (names schema keys)

theorem storeKeyNames_nil : storeKeyNames schema [] store = fun _ => [] := by
  funext place
  rw [storeKeyNames]
  cases store.spotAt? schema place with
  | none => rfl
  | some spot =>
    rw [Option.elim_some, keyNames]
    split <;> rfl

theorem addKeyFields_run (used : keys ≠ []) (collected : store.IsCollected)
    (sound : store.IsSound schema) :
    ∃ reports, (Pass.addKeyFields keys).run schema store =
        ⟨store.supply (storeKeyNames schema keys store), .ok reports⟩ ∧
      anyFatal reports = false := by
  refine ⟨KeyFields.reportsFrom schema keys store [] store.keys, ?_,
    KeyFields.advisory_reportsFrom [] store.keys (Walk.advisory_reports collected sound)⟩
  have same : (KeyFields.completion schema keys).supplement store (storeEvents schema store) =
      storeKeyNames schema keys store :=
    funext (KeyFields.supplement_eq collected sound)
  rw [Store.supply, ← same]
  exact KeyFields.run_eq used collected

theorem addTypename_run (keys : List String) (collected : store.IsCollected)
    (sound : store.IsSound schema) :
    ∃ reports, Pass.addTypename.run schema (store.supply (storeKeyNames schema keys store)) =
      ⟨store.supply (storeNames schema keys store), .ok reports⟩ := by
  have ran : Pass.addTypename.run schema (store.supply (storeKeyNames schema keys store)) = _ :=
    Typename.run_eq schema (collected.grow _)
  rw [Store.supply, Walk.storeEvents_grow, ← Store.supply] at ran
  have same : (store.supply (storeKeyNames schema keys store)).supply
      (Typename.completion.supplement (store.supply (storeKeyNames schema keys store))
        (storeEvents schema store)) = store.supply (storeNames schema keys store) := by
    rw [Store.supply_supply]
    congr 1
    funext place
    rw [Typename.supplement_eq collected sound, storeKeyNames, storeNames]
    cases store.spotAt? schema place <;> rfl
  exact ⟨_, by rw [ran, ← same]; rfl⟩

end Local

/-- The passes of a compile put local names into the sets of valid documents. -/
theorem Run.ofPasses_defaults (keys : List String) (collected : store.IsCollected)
    (valid : anyFatal (Validation.findings schema store) = false) :
    (ofPasses schema store (Pass.defaults keys)).store =
        store.supply (Local.storeNames schema keys store) ∧
      (ofPasses schema store (Pass.defaults keys)).fault = none := by
  have sound := Validation.isSound_of_findings collected valid
  obtain ⟨others, last⟩ := Local.addTypename_run keys collected sound
  rw [Pass.defaults, List.singleton_append, List.cons_append,
    ofPasses_cons_advisory (Validation.run_eq schema collected) valid]
  by_cases used : keys = []
  · subst used
    rw [Local.storeKeyNames_nil, Store.supply_nil] at last
    exact ofPasses_singleton last
  · obtain ⟨reports, ran, quiet⟩ := Local.addKeyFields_run used collected sound
    rw [if_neg (by simpa using used), List.singleton_append, ofPasses_cons_advisory ran quiet]
    exact ofPasses_singleton last

example : Local.storeNames Sample.schema ["id"] Sample.store ⟨"Page", [0]⟩ =
    ["id", typenameField] := by decide

theorem Local.documents_supply (sound : store.IsSound schema) :
    (store.supply (storeNames schema keys store)).documents =
      store.documents.map (document schema keys) := by
  rw [Store.supply, Store.documents_grow, Store.documents, List.map_map]
  apply List.map_congr_left
  intro entry member
  have found := Store.get?_of_mem member
  obtain ⟨type, typed⟩ := Option.isSome_iff_exists.1 (sound.rooted found)
  have start : entry.document.spot? schema =
      some ⟨type, false, entry.document.definition.selectionSet⟩ := by
    rw [Document.spot?, typed]
    rfl
  rw [Function.comp_apply, ← grow_eq_document start]
  congr 1
  funext path
  rw [storeNames, Store.spotAt?, found, namesAt]
  simp only [Option.bind_eq_bind, Option.bind_some, start]

/-- Locality: valid documents are rewritten each by itself. Whatever walk comes to a set, and in
whatever state, it finds the type that the document of the set tells. -/
theorem Run.ofPasses_local (schema : Schema) (keys : List String) {store : Store}
    {reports : List Diagnostic} (collected : store.IsCollected)
    (ran : (Pass.validateDocuments.run schema store).reports = .ok reports)
    (valid : anyFatal reports = false) :
    (∀ (σ : Type) (visitor : Visitor σ), visitor.AppendsLeaves →
      ∀ (growth : Growth) (key : String) (memory : σ) (diagnostics : List Diagnostic),
        ∀ visit ∈ (Walk.document schema visitor.recording store.walkDepth key
            ⟨store.grow growth, (memory, []), diagnostics, none⟩).memory.2,
          store.typeAt? schema visit.scope.place = some visit.scope.type) ∧
      (ofPasses schema store (Pass.defaults keys)).fault = none ∧
      (ofPasses schema store (Pass.defaults keys)).store.documents =
        store.documents.map (Local.document schema keys) := by
  rw [Validation.run_eq schema collected] at ran
  cases ran
  have sound := Validation.isSound_of_findings collected valid
  obtain ⟨same, whole⟩ := Run.ofPasses_defaults keys collected valid
  refine ⟨fun σ visitor leaves => Walk.type_of_record collected sound leaves, whole, ?_⟩
  rw [same, Local.documents_supply sound]

theorem Run.ofPasses_local_sample :
    (∀ (σ : Type) (visitor : Visitor σ), visitor.AppendsLeaves →
      ∀ (growth : Growth) (key : String) (memory : σ) (diagnostics : List Diagnostic),
        ∀ visit ∈ (Walk.document Sample.schema visitor.recording Sample.store.walkDepth key
            ⟨Sample.store.grow growth, (memory, []), diagnostics, none⟩).memory.2,
          Sample.store.typeAt? Sample.schema visit.scope.place = some visit.scope.type) ∧
      (ofPasses Sample.schema Sample.store (Pass.defaults ["id"])).fault = none ∧
      (ofPasses Sample.schema Sample.store (Pass.defaults ["id"])).store.documents =
        Sample.store.documents.map (Local.document Sample.schema ["id"]) :=
  ofPasses_local Sample.schema ["id"] Sample.isCollected
    (congrArg PassOutcome.reports (Validation.run_eq Sample.schema Sample.isCollected))
    (by decide +kernel)

end

end DocumentNormalizer
