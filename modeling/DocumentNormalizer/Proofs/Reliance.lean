import DocumentNormalizer.Proofs.Locality

namespace DocumentNormalizer

def Selection.isPlain (name : String) (selection : Selection) : Bool :=
  selection.field?.any fun field =>
    field.name = name && field.label.isNone && field.arguments.isEmpty && field.directives.isEmpty

def SelectionSet.selectsPlainly (set : SelectionSet) (name : String) : Bool :=
  set.selections.any (·.isPlain name)

/-- A set is relied on to have a field. -/
inductive Spot.ReliesOn (schema : Schema) (keys : List String) (spot : Spot) : String → Prop
  | typename (abstract : spot.type.isAbstract = true)
    (narrows : spot.set.hasTypedInline = true) : ReliesOn schema keys spot typenameField
  | key {name : String} (member : name ∈ keys) (outside : spot.inlineBody = false)
    (notRoot : schema.isRootType spot.type = false) (declared : spot.type.hasFields keys = true)
    (usable : ∀ key ∈ keys, schema.isBareSelectable spot.type key = true) :
    ReliesOn schema keys spot name

section Grow

variable {schema : Schema} {keys : List String} {added : List Nat → List Field}

theorem SelectionSet.selectsPlainly_grow_bare {set : SelectionSet} {names : List String}
    (same : added [] = names.map Field.bare) (name : String) :
    (set.grow added).selectsPlainly name = (set.selectsPlainly name || names.contains name) := by
  have kept (selection : Selection) (added : List Nat → List Field) :
      (selection.grow added).isPlain name = selection.isPlain name := by
    cases selection <;> rfl
  rw [selectsPlainly, grow, Selection.any_growFrom kept, selectsPlainly, same, List.map_map,
    List.any_map]
  congr 1
  rw [Bool.eq_iff_iff, List.any_eq_true, List.contains_iff_mem]
  simp [Selection.isPlain, Selection.field?, Field.bare]

namespace Spot

theorem mem_keyNames_iff {spot : Spot} {name : String} :
    name ∈ Local.keyNames schema keys spot ↔
      spot.inlineBody = false ∧ schema.isRootType spot.type = false ∧
        spot.type.hasFields keys = true ∧
        (∀ key ∈ keys, schema.isBareSelectable spot.type key = true) ∧
        name ∈ keys ∧ spot.set.selects name = false := by
  have usable : (KeyFields.unusable schema keys spot.type).isEmpty = true ↔
      ∀ key ∈ keys, schema.isBareSelectable spot.type key = true := by
    simp [KeyFields.unusable]
  rw [Local.keyNames, KeyFields.isEntity, ← usable]
  split
  · next wanted =>
    simp only [Bool.and_eq_true, Bool.not_eq_true'] at wanted
    obtain ⟨⟨outside, notRoot, declared⟩, all⟩ := wanted
    simp only [outside, notRoot, declared, all, true_and]
    exact KeyFields.mem_missing
  · next unwanted =>
    simp only [Bool.and_eq_true, Bool.not_eq_true'] at unwanted
    refine ⟨fun member => absurd member List.not_mem_nil, ?_⟩
    rintro ⟨outside, notRoot, declared, all, _⟩
    exact absurd ⟨⟨outside, notRoot, declared⟩, all⟩ unwanted

theorem ReliesOn.of_grow {spot : Spot} {name : String}
    (relies : (spot.grow added).ReliesOn schema keys name) : spot.ReliesOn schema keys name := by
  cases relies with
  | typename abstract narrows =>
    exact .typename abstract (by rwa [grow, SelectionSet.hasTypedInline_grow] at narrows)
  | key member outside notRoot declared usable =>
    exact .key member outside notRoot declared usable

theorem mem_names_iff {spot : Spot} {name : String} :
    name ∈ Local.names schema keys spot ↔
      spot.ReliesOn schema keys name ∧ spot.set.selects name = false := by
  rw [Local.names, List.mem_append]
  constructor
  · rintro (chosen | last)
    · obtain ⟨outside, notRoot, declared, usable, member, lacks⟩ := mem_keyNames_iff.1 chosen
      exact ⟨.key member outside notRoot declared usable, lacks⟩
    · split at last
      · next wanted =>
        simp only [Bool.and_eq_true, Bool.not_eq_true', Bool.or_eq_false_iff] at wanted
        obtain ⟨⟨abstract, narrows⟩, lacks, _⟩ := wanted
        rw [List.mem_singleton.1 last]
        exact ⟨.typename abstract narrows, lacks⟩
      · cases last
  · rintro ⟨relies, lacks⟩
    cases relies with
    | typename abstract narrows =>
      -- `__typename` may be a key as well, and then it is not put there twice
      cases chosen : (Local.keyNames schema keys spot).contains typenameField with
      | true => exact .inl (by simpa using chosen)
      | false => exact .inr (by simp [abstract, narrows, lacks])
    | key member outside notRoot declared usable =>
      exact .inl (mem_keyNames_iff.2 ⟨outside, notRoot, declared, usable, member, lacks⟩)

end Spot

end Grow

variable {schema : Schema} {keys : List String} {store : Store}

theorem Run.valid_of_ok (collected : store.IsCollected)
    (whole : (ofPasses schema store (Pass.defaults keys)).ok = true) :
    anyFatal (Validation.findings schema store) = false := by
  by_contra fatal
  rw [Bool.not_eq_false] at fatal
  rw [Pass.defaults, List.singleton_append, List.cons_append,
    ofPasses_cons_fatal (Validation.run_eq schema collected) fatal, ok, anyFatal_map_sign,
    fatal] at whole
  cases whole

/-- After a compile with nothing fatal to report, sets have the fields that they are relied on to
have: plainly, if they had them plainly before or had not selected them. -/
theorem Run.ofPasses_selectsPlainly_iff (collected : store.IsCollected)
    (whole : (ofPasses schema store (Pass.defaults keys)).ok = true) :
    let later := (ofPasses schema store (Pass.defaults keys)).store
    ∀ place set, later.set? place = some set →
      ∃ before after, store.spotAt? schema place = some before ∧
        later.spotAt? schema place = some after ∧ after.set = set ∧
        ∀ name, after.ReliesOn schema keys name →
          set.selects name = true ∧
          (set.selectsPlainly name = true ↔
            before.set.selectsPlainly name = true ∨ before.set.selects name = false) := by
  intro later place set found
  have valid := valid_of_ok collected whole
  have same : later = store.supply (Local.storeNames schema keys store) :=
    (ofPasses_defaults keys collected valid).1
  rw [same, Store.supply, Store.set?_grow] at found
  obtain ⟨old, there, rfl⟩ := Option.map_eq_some_iff.1 found
  obtain ⟨before, spot, rfl⟩ :=
    Store.exists_spotAt? (Validation.isSound_of_findings collected valid) there
  have names : Local.storeNames schema keys store ⟨place.key, place.path ++ []⟩ =
      Local.names schema keys before := by
    rw [List.append_nil, Local.storeNames, spot, Option.elim_some]
  refine ⟨before, _, spot, by rw [same, Store.supply, Store.spotAt?_grow, spot]; rfl, rfl, ?_⟩
  intro name relies
  have lacking : name ∈ Local.names schema keys before ↔ before.set.selects name = false := by
    rw [Spot.mem_names_iff, and_iff_right relies.of_grow]
  rw [SelectionSet.selects_grow_bare (congrArg (List.map Field.bare) names),
    SelectionSet.selectsPlainly_grow_bare (congrArg (List.map Field.bare) names),
    Bool.or_eq_true, Bool.or_eq_true, List.contains_iff_mem, lacking]
  refine ⟨?_, Iff.rfl⟩
  cases before.set.selects name with
  | true => exact .inl rfl
  | false => exact .inr rfl

theorem Run.ofPasses_selectsPlainly_iff_sample :
    (ofPasses Sample.schema Sample.store (Pass.defaults ["id"])).ok = true ∧
    let later := (ofPasses Sample.schema Sample.store (Pass.defaults ["id"])).store
    ∀ place set, later.set? place = some set →
      ∃ before after, Sample.store.spotAt? Sample.schema place = some before ∧
        later.spotAt? Sample.schema place = some after ∧ after.set = set ∧
        ∀ name, after.ReliesOn Sample.schema ["id"] name →
          set.selects name = true ∧
          (set.selectsPlainly name = true ↔
            before.set.selectsPlainly name = true ∨ before.set.selects name = false) := by
  have whole : (ofPasses Sample.schema Sample.store (Pass.defaults ["id"])).ok = true := by
    decide +kernel
  exact ⟨whole, ofPasses_selectsPlainly_iff Sample.isCollected whole⟩

namespace Sample

/-- The name of the concrete type is only asked for under a condition. -/
def guarded : Document where
  name := "Page"
  kind := .operation .query
  definition := ⟨none, .operation .query (some "Page") [], [], none, ⟨none,
    [.branch (.bare "node") none
      [.leaf { Field.bare typenameField with
          directives := [⟨"include", [⟨"if", .boolean false, ⟨1, 32⟩⟩], ⟨1, 23⟩⟩] },
        .inline ⟨some "User", [], none⟩ none [.bare "id"]]]⟩⟩
  sourceFile := "page.graphql"

def guardedStore : Store := ⟨[⟨"Page", guarded⟩], by decide⟩

theorem isCollected_guarded : guardedStore.IsCollected :=
  Store.isCollected_of_entries
    (List.forall_mem_singleton.2 ⟨guarded.sourceFile, guarded.definition, rfl⟩) rfl

end Sample

/-- A compile can leave a set with a `__typename` that is only selected under a condition. -/
theorem Run.ofPasses_conditional_typename :
    Sample.guardedStore.IsCollected ∧
      (ofPasses Sample.schema Sample.guardedStore (Pass.defaults [])).ok = true ∧
      ¬∀ place after,
        (ofPasses Sample.schema Sample.guardedStore (Pass.defaults [])).store.spotAt?
            Sample.schema place = some after →
          ∀ name, after.ReliesOn Sample.schema [] name → after.set.selectsPlainly name = true := by
  refine ⟨Sample.isCollected_guarded, by decide +kernel, fun all => ?_⟩
  have node := all ⟨"Page", [0]⟩ _ rfl typenameField (.typename (by decide) (by decide +kernel))
  revert node
  decide +kernel

end DocumentNormalizer
