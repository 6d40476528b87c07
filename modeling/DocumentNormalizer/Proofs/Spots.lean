import DocumentNormalizer.Proofs.Reach
import DocumentNormalizer.Proofs.Validity

namespace DocumentNormalizer

open Relation (ReflTransGen)

/-- A selection set with the type that it selects from in its document. -/
structure Spot where
  type : NamedType
  inlineBody : Bool
  set : SelectionSet

def Selection.spot? (schema : Schema) (type : NamedType) (selection : Selection) : Option Spot :=
  selection.set?.map fun inner =>
    ⟨selection.innerType schema type, selection.entrance = .inline, inner⟩

namespace Spot

variable {schema : Schema} {spot : Spot}

def below? (schema : Schema) (spot : Spot) (index : Nat) : Option Spot :=
  spot.set.selections[index]? >>= fun selection => selection.spot? schema spot.type

def at? (schema : Schema) (spot : Spot) : List Nat → Option Spot
  | [] => some spot
  | index :: rest => spot.below? schema index >>= fun inner => inner.at? schema rest

theorem at?_concat (spot : Spot) (path : List Nat) (index : Nat) :
    spot.at? schema (path ++ [index]) =
      spot.at? schema path >>= fun inner => inner.below? schema index := by
  induction path generalizing spot with
  | nil =>
    simp only [List.nil_append, at?, Option.bind_eq_bind, Option.bind_some]
    cases spot.below? schema index <;> rfl
  | cons head path ih =>
    simp only [List.cons_append, at?, bind_assoc]
    congr 1
    funext inner
    exact ih inner

theorem map_set_at? (schema : Schema) (spot : Spot) (path : List Nat) :
    (spot.at? schema path).map Spot.set = spot.set.at? path := by
  induction path generalizing spot with
  | nil => rfl
  | cons index rest ih =>
    rw [at?, below?, SelectionSet.at?]
    cases spot.set.selections[index]? with
    | none => rfl
    | some selection =>
      simp only [Option.bind_eq_bind, Option.bind_some, Selection.spot?]
      cases selection.set? with
      | none => rfl
      | some inner => exact ih _

def grow (spot : Spot) (added : List Nat → List Field) : Spot :=
  { spot with set := spot.set.grow added }

theorem below?_grow (spot : Spot) (added : List Nat → List Field) (index : Nat) :
    (spot.grow added).below? schema index =
      (spot.below? schema index).map fun inner => inner.grow fun path => added (index :: path) := by
  simp only [below?, grow, SelectionSet.grow, Selection.getElem?_growFrom]
  by_cases inside : index < spot.set.selections.length
  · simp only [inside, if_true]
    cases spot.set.selections[index]? with
    | none => rfl
    | some selection => cases selection <;> rfl
  · simp only [inside, if_false, List.getElem?_eq_none (Nat.le_of_not_lt inside)]
    cases (added [])[index - spot.set.selections.length]? <;> rfl

/-- A list of indexes leads to the same spot in a set that has grown, and that one has grown. -/
theorem at?_grow (spot : Spot) (added : List Nat → List Field) (path : List Nat) :
    (spot.grow added).at? schema path =
      (spot.at? schema path).map fun inner => inner.grow fun rest => added (path ++ rest) := by
  induction path generalizing spot added with
  | nil => rfl
  | cons index rest ih =>
    rw [at?, below?_grow, at?]
    cases spot.below? schema index with
    | none => rfl
    | some inner => exact ih inner _

end Spot

def Document.spot? (schema : Schema) (document : Document) : Option Spot :=
  (document.rootType? schema).map fun type => ⟨type, false, document.definition.selectionSet⟩

namespace Store

variable {schema : Schema} {store : Store}

def spotAt? (schema : Schema) (store : Store) (place : Place) : Option Spot :=
  store.get? place.key >>= fun document => document.spot? schema >>= fun spot =>
    spot.at? schema place.path

def typeAt? (schema : Schema) (store : Store) (place : Place) : Option NamedType :=
  (store.spotAt? schema place).map Spot.type

theorem spotAt?_below (place : Place) (index : Nat) :
    store.spotAt? schema ⟨place.key, place.path ++ [index]⟩ =
      store.spotAt? schema place >>= fun spot => spot.below? schema index := by
  simp only [spotAt?, Spot.at?_concat, bind_assoc]

theorem set?_of_spotAt? {place : Place} {spot : Spot}
    (found : store.spotAt? schema place = some spot) : store.set? place = some spot.set := by
  obtain ⟨document, there, rest⟩ := Option.bind_eq_some_iff.1 found
  obtain ⟨root, rooted, inside⟩ := Option.bind_eq_some_iff.1 rest
  obtain ⟨type, typed, rfl⟩ := Option.map_eq_some_iff.1 rooted
  have same := Spot.map_set_at? schema ⟨type, false, document.definition.selectionSet⟩ place.path
  rw [inside] at same
  rw [set?, there]
  exact same.symm

theorem spotAt?_grow (growth : Growth) (place : Place) :
    (store.grow growth).spotAt? schema place =
      (store.spotAt? schema place).map fun spot =>
        spot.grow fun path => growth ⟨place.key, place.path ++ path⟩ := by
  rw [spotAt?, get?_grow, spotAt?]
  cases store.get? place.key with
  | none => rfl
  | some document =>
    have start (added : List Nat → List Field) :
        (document.grow added).spot? schema = (document.spot? schema).map (·.grow added) := by
      have rooted : (document.grow added).rootType? schema = document.rootType? schema := rfl
      rw [Document.spot?, rooted, Document.spot?, Option.map_map]
      rfl
    simp only [Option.map_some, Option.bind_eq_bind, Option.bind_some, start]
    cases document.spot? schema with
    | none => rfl
    | some spot => exact Spot.at?_grow spot _ place.path

theorem exists_spotAt? (sound : store.IsSound schema) {place : Place} {set : SelectionSet}
    (found : store.set? place = some set) :
    ∃ spot, store.spotAt? schema place = some spot ∧ spot.set = set := by
  obtain ⟨document, there, inside⟩ := Option.bind_eq_some_iff.1 found
  obtain ⟨type, rooted⟩ := Option.isSome_iff_exists.1 (sound.rooted there)
  rw [← Spot.map_set_at? schema ⟨type, false, document.definition.selectionSet⟩] at inside
  obtain ⟨spot, reached, same⟩ := Option.map_eq_some_iff.1 inside
  refine ⟨spot, ?_, same⟩
  rw [spotAt?, there]
  simp only [Option.bind_eq_bind, Option.bind_some, Document.spot?, rooted, Option.map_some,
    reached]

end Store

namespace Walk

variable {schema : Schema} {store : Store} {scope next : Scope}

/-- A walk sees a set as its document shows it. -/
def IsCoherent (schema : Schema) (store : Store) (scope : Scope) : Prop :=
  store.spotAt? schema scope.place =
    some ⟨scope.type, scope.entrance = .inline, store.setAt scope.place⟩

theorem isCoherent_root {key : String} {document : Document} {type : NamedType}
    (found : store.get? key = some document) (typed : document.rootType? schema = some type) :
    IsCoherent schema store (root key type) := by
  have set := Store.set?_root store key
  rw [found, Option.map_some] at set
  rw [IsCoherent, root, Store.setAt_of_set? set, Store.spotAt?, found]
  simp only [Option.bind_eq_bind, Option.bind_some, Document.spot?, typed, Option.map_some]
  rfl

/-- A spread leads to the root of its fragment, with the type that the fragment starts from. -/
theorem isCoherent_across {name condition : String} {type : NamedType} {path open_ : List String}
    (collected : store.IsCollected) (sound : store.IsSound schema)
    (named : store.condition? name = some condition) :
    IsCoherent schema store
      ⟨⟨name, []⟩, (schema.type? condition).getD type, path, open_, .spread⟩ := by
  obtain ⟨document, found, typed⟩ := Option.bind_eq_some_iff.1 named
  have fragment := (collected.of_get? found).isSome_typeCondition
  have rooted := sound.rooted found
  have start : document.rootType? schema = schema.type? condition := by
    unfold Document.rootType?
    cases kind : document.kind with
    | operation operation => rw [typed, kind] at fragment; cases fragment
    | fragment => rw [typed]; rfl
  rw [start] at rooted
  obtain ⟨root, known⟩ := Option.isSome_iff_exists.1 rooted
  rw [known] at start ⊢
  exact isCoherent_root found start

theorem IsCoherent.leads (coherent : IsCoherent schema store scope) (collected : store.IsCollected)
    (sound : store.IsSound schema) (step : Leads schema store scope next) :
    IsCoherent schema store next := by
  obtain ⟨index, selection, chosen, follows⟩ := step
  cases follows with
  | @inside _ inner has =>
    have set := Store.set?_below (Store.set?_of_spotAt? coherent) index
    rw [chosen] at set
    have there : store.set? (below scope index) = some inner := set.trans has
    unfold IsCoherent at coherent ⊢
    rw [Store.setAt_of_set? there, below, Store.spotAt?_below, coherent]
    simp only [Option.bind_eq_bind, Option.bind_some, Spot.below?, chosen, Selection.spot?, has,
      Option.map_some]
  | across fresh named => exact isCoherent_across collected sound named

theorem isCoherent_of_reaches {start : Scope} (coherent : IsCoherent schema store start)
    (collected : store.IsCollected) (sound : store.IsSound schema)
    (reaches : ReflTransGen (Leads schema store) start scope) : IsCoherent schema store scope := by
  induction reaches with
  | refl => exact coherent
  | tail _ step ih => exact ih.leads collected sound step

theorem isCoherent_of_visit {key document : String} (collected : store.IsCollected)
    (sound : store.IsSound schema)
    (member : .visit document scope ∈ documentEvents schema store key) :
    IsCoherent schema store scope := by
  obtain ⟨_, _, found, typed, _, reaches⟩ := exists_root_of_visit collected member
  exact isCoherent_of_reaches (isCoherent_root found typed) collected sound reaches

theorem exists_reaches {key : String} {path : List Nat} {spot : Spot} (type : NamedType)
    (there : store.spotAt? schema ⟨key, path⟩ = some spot) :
    ∃ scope, ReflTransGen (Leads schema store) (root key type) scope ∧
      scope.place = ⟨key, path⟩ := by
  have start : (root key type).place = ⟨key, []⟩ := rfl
  obtain ⟨scope, reaches, here, _⟩ := exists_reaches_below schema start (Store.set?_of_spotAt? there)
  exact ⟨scope, reaches, here⟩

theorem exists_visit {place : Place} {spot : Spot} (collected : store.IsCollected)
    (there : store.spotAt? schema place = some spot) :
    ∃ document scope, .visit document scope ∈ storeEvents schema store ∧ scope.place = place := by
  obtain ⟨document, found, rest⟩ := Option.bind_eq_some_iff.1 there
  obtain ⟨start, rooted, _⟩ := Option.bind_eq_some_iff.1 rest
  obtain ⟨type, typed, _⟩ := Option.map_eq_some_iff.1 rooted
  obtain ⟨scope, reaches, here⟩ := exists_reaches type there
  refine ⟨document.name, scope,
    List.mem_flatMap.2 ⟨place.key, Store.mem_keys_of_get? found, ?_⟩, here⟩
  simp only [documentEvents, found, typed]
  exact visit_of_reaches collected reaches (HasRoom.root found type)

theorem isCoherent_of_visit_store {document : String} (collected : store.IsCollected)
    (sound : store.IsSound schema) (member : .visit document scope ∈ storeEvents schema store) :
    IsCoherent schema store scope := by
  obtain ⟨key, _, member⟩ := List.mem_flatMap.1 member
  exact isCoherent_of_visit collected sound member

end Walk

def Visitor.recording {σ : Type} (visitor : Visitor σ) : Visitor (σ × List Visit) :=
  fun visit memory =>
    let (added, next) := visitor visit memory.1
    (added, next, memory.2 ++ [visit])

theorem Visitor.AppendsLeaves.recording {σ : Type} {visitor : Visitor σ}
    (leaves : visitor.AppendsLeaves) : visitor.recording.AppendsLeaves :=
  fun visit memory => leaves visit memory.1

namespace Walk

variable {σ : Type} {visitor : Visitor σ} {schema : Schema} {store : Store}

theorem event_of_record (events : List Event) (progress : Progress (σ × List Visit)) :
    ∀ visit ∈ (events.foldl (attend visitor.recording) progress).memory.2,
      visit ∈ progress.memory.2 ∨ .visit visit.document visit.scope ∈ events := by
  induction events generalizing progress with
  | nil => exact fun _ member => .inl member
  | cons event rest ih =>
    intro visit member
    rcases ih _ visit member with before | later
    · cases event with
      | report diagnostic => exact .inl before
      | visit document scope =>
        rcases List.mem_append.1 before with before | now
        · exact .inl before
        · rw [List.mem_singleton.1 now]
          exact .inr List.mem_cons_self
    · exact .inr (List.mem_cons_of_mem _ later)

/-- However a walk comes to a set, and whatever the documents have grown to, it takes the set to
select from the type that the document of the set tells. -/
theorem type_of_record (collected : store.IsCollected) (sound : store.IsSound schema)
    (leaves : visitor.AppendsLeaves) (growth : Growth) (key : String) (memory : σ)
    (diagnostics : List Diagnostic) :
    ∀ visit ∈ (document schema visitor.recording store.walkDepth key
        ⟨store.grow growth, (memory, []), diagnostics, none⟩).memory.2,
      store.typeAt? schema visit.scope.place = some visit.scope.type := by
  intro visit member
  have grown : Grown store (⟨store.grow growth, (memory, []), diagnostics, none⟩ :
      Progress (σ × List Visit)) := ⟨⟨_, rfl⟩, rfl⟩
  rw [document_eq_foldl collected leaves.recording key grown] at member
  rcases event_of_record _ _ visit member with before | happened
  · cases before
  · rw [Store.typeAt?, isCoherent_of_visit collected sound happened]
    rfl

end Walk

end DocumentNormalizer
