import DocumentNormalizer.Compile
import DocumentNormalizer.Proofs.Conservation

namespace DocumentNormalizer

namespace SelectionSet

def fields (set : SelectionSet) : List Field := set.selections.filterMap Selection.field?

/-- Fields of a set with one response key select the same field. -/
def IsUnambiguous (set : SelectionSet) : Prop :=
  ∀ first ∈ set.fields, ∀ second ∈ set.fields,
    first.responseKey = second.responseKey → first.name = second.name

/-- A name is the alias of a field that is called otherwise. -/
def IsTaken (set : SelectionSet) (name : String) : Prop :=
  ∃ field ∈ set.fields, field.label = some name ∧ field.name ≠ name

instance (set : SelectionSet) : Decidable set.IsUnambiguous :=
  inferInstanceAs (Decidable (∀ first ∈ set.fields, ∀ second ∈ set.fields,
    first.responseKey = second.responseKey → first.name = second.name))

variable {set : SelectionSet} {added : List Nat → List Field} {names : List String}

theorem fields_growFrom (index : Nat) (selections : List Selection) :
    (Selection.growFrom added index selections).filterMap Selection.field? =
      selections.filterMap Selection.field? ++ added [] := by
  induction selections generalizing index with
  | nil =>
    rw [Selection.growFrom, List.filterMap_map]
    exact List.filterMap_some
  | cons head rest ih =>
    rw [Selection.growFrom, List.filterMap_cons, List.filterMap_cons, ih]
    cases head <;> rfl

theorem fields_grow (set : SelectionSet) (added : List Nat → List Field) :
    (set.grow added).fields = set.fields ++ added [] :=
  fields_growFrom 0 set.selections

theorem responseKey_eq_iff {field : Field} {name : String} :
    field.responseKey = name ↔ field.label = some name ∨ field.label = none ∧ field.name = name := by
  rw [Field.responseKey]
  cases field.label <;> simp

/-- Fields with nothing but a name make a set ambiguous exactly where another field goes by such a
name. -/
theorem isUnambiguous_grow_iff (same : added [] = names.map Field.bare) :
    (set.grow added).IsUnambiguous ↔ set.IsUnambiguous ∧ ∀ name ∈ names, ¬set.IsTaken name := by
  have old {field : Field} (member : field ∈ set.fields) : field ∈ (set.grow added).fields := by
    rw [fields_grow]
    exact List.mem_append_left _ member
  have new {name : String} (member : name ∈ names) : .bare name ∈ (set.grow added).fields := by
    rw [fields_grow, same]
    exact List.mem_append_right _ (List.mem_map_of_mem member)
  constructor
  · intro unambiguous
    refine ⟨fun first here second there => unambiguous first (old here) second (old there), ?_⟩
    rintro name member ⟨field, here, labelled, other⟩
    exact other (unambiguous field (old here) _ (new member) (responseKey_eq_iff.2 (.inl labelled)))
  · rintro ⟨unambiguous, free⟩
    -- an old field that shares its key with an added one has no alias, or one that is its name
    have mixed {field : Field} (here : field ∈ set.fields) {name : String} (member : name ∈ names)
        (key : field.responseKey = name) : field.name = name := by
      by_contra other
      rcases responseKey_eq_iff.1 key with labelled | ⟨_, named⟩
      · exact free name member ⟨field, here, labelled, other⟩
      · exact other named
    intro first here second there key
    rw [fields_grow, same, List.mem_append, List.mem_map] at here there
    rcases here with here | ⟨name, member, rfl⟩ <;> rcases there with there | ⟨other, given, rfl⟩
    · exact unambiguous first here second there key
    · exact mixed here given key
    · exact (mixed there member key.symm).symm
    · exact key

end SelectionSet

variable {store : Store}

/-- The passes of a compile put supplements into sets, or nothing where validation stops them. -/
theorem Run.ofPasses_defaults_supply (schema : Schema) (keys : List String)
    (collected : store.IsCollected) :
    ∃ added, (ofPasses schema store (Pass.defaults keys)).fault = none ∧
      (ofPasses schema store (Pass.defaults keys)).store = store.supply added ∧
      ∀ place set, store.set? place = some set → set.IsSupplement keys (added place) := by
  rw [Pass.defaults, List.singleton_append, List.cons_append]
  cases fatal : anyFatal (Validation.findings schema store) with
  | true =>
    rw [ofPasses_cons_fatal (Validation.run_eq schema collected) fatal]
    exact ⟨fun _ => [], rfl, (Store.supply_nil store).symm,
      fun place set _ => set.isSupplement_nil keys⟩
  | false =>
    rw [ofPasses_cons_advisory (Validation.run_eq schema collected) fatal]
    obtain ⟨added, sound, same, supplements⟩ := ofPasses_rewriting schema keys collected
    by_cases used : keys = []
    · subst used
      rw [ofPasses_cons_advisory (KeyFields.run_nil schema store) rfl] at sound same
      exact ⟨added, sound, same, supplements⟩
    · rw [if_neg (by simpa using used)]
      exact ⟨added, sound, same, supplements⟩

/-- A set is unambiguous after a compile if it was before and none of the names that it gets was
the alias of another field, and only then. -/
theorem Run.ofPasses_isUnambiguous_iff (schema : Schema) (keys : List String)
    (collected : store.IsCollected) :
    let run := ofPasses schema store (Pass.defaults keys)
    run.fault = none ∧ ∃ added, run.store = store.supply added ∧
      ∀ place after, run.store.set? place = some after →
        ∃ set, store.set? place = some set ∧ set.IsSupplement keys (added place) ∧
          (after.IsUnambiguous ↔
            set.IsUnambiguous ∧ ∀ name ∈ added place, ¬set.IsTaken name) := by
  obtain ⟨added, whole, same, supplements⟩ := ofPasses_defaults_supply schema keys collected
  refine ⟨whole, added, same, fun place after found => ?_⟩
  rw [same, Store.supply, Store.set?_grow] at found
  obtain ⟨set, before, rfl⟩ := Option.map_eq_some_iff.1 found
  refine ⟨set, before, supplements place set before, ?_⟩
  exact SelectionSet.isUnambiguous_grow_iff (by rw [List.append_nil])

theorem Run.ofPasses_isUnambiguous_iff_sample :
    let run := ofPasses Sample.schema Sample.store (Pass.defaults ["id"])
    run.fault = none ∧ ∃ added, run.store = Sample.store.supply added ∧
      ∀ place after, run.store.set? place = some after →
        ∃ set, Sample.store.set? place = some set ∧ set.IsSupplement ["id"] (added place) ∧
          (after.IsUnambiguous ↔
            set.IsUnambiguous ∧ ∀ name ∈ added place, ¬set.IsTaken name) :=
  ofPasses_isUnambiguous_iff Sample.schema ["id"] Sample.isCollected

namespace Sample

/-- The kind of a node is asked for under the name of its key. -/
def renamed : Document where
  name := "Page"
  kind := .operation .query
  definition := ⟨none, .operation .query (some "Page") [], [], none, ⟨none,
    [.branch (.bare "node") none [.leaf ⟨some "id", typenameField, [], [], none⟩]]⟩⟩
  sourceFile := "page.graphql"

def renamedStore : Store := ⟨[⟨"Page", renamed⟩], by decide⟩

theorem isCollected_renamed : renamedStore.IsCollected :=
  Store.isCollected_of_entries
    (List.forall_mem_singleton.2 ⟨renamed.sourceFile, renamed.definition, rfl⟩) rfl

theorem isUnambiguous_renamed (place : Place) (set : SelectionSet)
    (found : renamedStore.set? place = some set) : set.IsUnambiguous := by
  obtain ⟨key, path⟩ := place
  obtain ⟨document, there, inside⟩ := Option.bind_eq_some_iff.1 found
  cases List.mem_singleton.1 (Store.mem_of_get? there)
  match path, inside with
  | [], inside => cases inside; decide
  | [0], inside => cases inside; decide
  | 0 :: 0 :: _, inside => cases inside

end Sample

/-- A compile can add a key beside another field that goes by its name. -/
theorem Run.ofPasses_alias_conflict :
    Sample.renamedStore.IsCollected ∧
      (∀ place set, Sample.renamedStore.set? place = some set → set.IsUnambiguous) ∧
      ¬∀ place set,
        (ofPasses Sample.schema Sample.renamedStore (Pass.defaults ["id"])).store.set? place =
          some set → set.IsUnambiguous := by
  refine ⟨Sample.isCollected_renamed, Sample.isUnambiguous_renamed, fun all => ?_⟩
  have node := all ⟨"Page", [0]⟩ _ rfl
  revert node
  decide +kernel

end DocumentNormalizer
