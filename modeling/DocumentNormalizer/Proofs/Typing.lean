import DocumentNormalizer.Proofs.Outcome
import DocumentNormalizer.Proofs.Reliance
import DocumentNormalizer.Proofs.Verdict
import DocumentNormalizer.Schema.Build

namespace DocumentNormalizer

open Relation (TransGen)

namespace Schema

/-- A schema has the types that every schema has without defining them. -/
def HasPermanentTypes (schema : Schema) : Prop :=
  ∀ type ∈ Standard.permanentTypes, schema.type? type.name = some type

/-- The arguments that have to be given to a field. The fields that a schema describes itself in
come before fields of the same name that a type declares. -/
def requiredArguments (schema : Schema) (parent : NamedType) (fieldName : String) : List String :=
  if fieldName = typenameField ∧ parent.isComposite then []
  else if fieldName = "__schema" ∧ schema.root .query = some parent.name then []
  else if fieldName = "__type" ∧ schema.root .query = some parent.name then ["name"]
  else
    (((parent.field? fieldName).elim [] OutputField.arguments).filter InputValue.isRequired).map
      InputValue.name

variable {schema : Schema}

theorem find?_of_nodup {types : List NamedType} (distinct : (types.map NamedType.name).Nodup)
    {type : NamedType} (member : type ∈ types) : types.find? (·.name = type.name) = some type := by
  cases found : types.find? (·.name = type.name) with
  | none => simpa using List.find?_eq_none.1 found type member
  | some other =>
    have same : other.name = type.name := by simpa using List.find?_some found
    rw [List.inj_on_of_nodup_map distinct (List.mem_of_find?_eq_some found) member same]

theorem hasPermanentTypes_of_types {own : List NamedType}
    (types : schema.types = Standard.permanentTypes ++ own) : schema.HasPermanentTypes := by
  have distinct : (Standard.permanentTypes.map NamedType.name).Nodup := by decide
  intro type member
  rw [type?, types, List.find?_append, find?_of_nodup distinct member, Option.some_or]

theorem hasPermanentTypes_of_ofText {text : String} (read : Schema.ofText text = .ok schema) :
    schema.HasPermanentTypes := by
  unfold ofText at read
  split at read
  · cases read
  · split at read
    · split at read
      · next built =>
        cases read
        simp only [Build.schema] at built
        obtain ⟨_, _, rest⟩ := exists_of_bind_eq_ok built
        obtain ⟨_, _, rest⟩ := exists_of_bind_eq_ok rest
        obtain ⟨own, _, made⟩ := exists_of_bind_eq_ok rest
        cases made
        exact hasPermanentTypes_of_types (List.append_assoc _ _ _)
      · cases read
    · cases read

theorem HasPermanentTypes.string (permanent : schema.HasPermanentTypes) :
    schema.type? "String" = some (Standard.scalar "String") :=
  permanent (Standard.scalar "String") (by simp [Standard.permanentTypes,
    Standard.permanentScalarNames])

end Schema

/-- A selection makes sense in a set on a type. -/
inductive Selection.Typed (schema : Schema) (store : Store) : NamedType → Selection → Prop
  | leaf {type result : NamedType} {field : Field}
    (known : schema.fieldType? type field.name = some result) (leaf : result.isLeaf = true)
    (given : schema.requiredArguments type field.name ⊆ field.arguments.map Argument.name) :
    Typed schema store type (.leaf field)
  | branch {type result : NamedType} {field : Field} {position : Option Position}
    {selections : List Selection}
    (known : schema.fieldType? type field.name = some result)
    (composite : result.isComposite = true)
    (given : schema.requiredArguments type field.name ⊆ field.arguments.map Argument.name)
    (inside : ∀ selection ∈ selections, Typed schema store result selection) :
    Typed schema store type (.branch field position selections)
  | inline {type : NamedType} {fragment : InlineFragment} {position : Option Position}
    {selections : List Selection} (untyped : fragment.typeCondition = none)
    (inside : ∀ selection ∈ selections, Typed schema store type selection) :
    Typed schema store type (.inline fragment position selections)
  | narrow {type result : NamedType} {condition : String} {fragment : InlineFragment}
    {position : Option Position} {selections : List Selection}
    (typed : fragment.typeCondition = some condition)
    (known : schema.type? condition = some result) (composite : result.isComposite = true)
    (inside : ∀ selection ∈ selections, Typed schema store result selection) :
    Typed schema store type (.inline fragment position selections)
  | spread {type : NamedType} {use : Spread} {condition : String}
    (named : store.fragment? use.name = .ok (some condition)) :
    Typed schema store type (.spread use)

/-- A document starts from a type, which has selections if it is the type of a fragment, and its
selections make sense. -/
def Document.IsTyped (schema : Schema) (store : Store) (document : Document) : Prop :=
  ∃ type, document.rootType? schema = some type ∧
    (document.kind.isFragment = true → type.isComposite = true) ∧
    ∀ selection ∈ document.definition.selectionSet.selections, selection.Typed schema store type

def Store.IsTyped (schema : Schema) (store : Store) : Prop :=
  ∀ document ∈ store.documents, document.IsTyped schema store

variable {schema : Schema} {keys : List String} {store later : Store} {type : NamedType}

namespace Selection

theorem mem_spreadsOfAll {selections : List Selection} {use : Spread} :
    use ∈ spreadsOfAll selections ↔ ∃ selection ∈ selections, use ∈ selection.spreads := by
  induction selections with
  | nil => simp [spreadsOfAll]
  | cons head rest ih => simp [spreadsOfAll, ih]

theorem Typed.typename (permanent : schema.HasPermanentTypes)
    (composite : type.isComposite = true) :
    (Selection.bare typenameField).Typed schema store type := by
  have described : typenameField = typenameField ∧ type.isComposite = true := ⟨rfl, composite⟩
  have known : schema.fieldType? type (Field.bare typenameField).name =
      some (Standard.scalar "String") := by
    rw [Schema.fieldType?, Field.bare, if_pos described, permanent.string]
  refine .leaf known rfl ?_
  rw [Schema.requiredArguments, Field.bare, if_pos described]
  exact List.nil_subset _

/-- A field that can be selected by its name alone makes sense by its name alone, unless it is
hidden behind a field in which the schema describes itself. -/
theorem Typed.bare_of_isBareSelectable (permanent : schema.HasPermanentTypes) {name : String}
    (notRoot : schema.isRootType type = false) (bare : schema.isBareSelectable type name = true) :
    (Selection.bare name).Typed schema store type := by
  have notQuery : schema.root .query ≠ some type.name := by
    intro same
    simp [Schema.isRootType, same] at notRoot
  rw [Schema.isBareSelectable] at bare
  cases declared : type.field? name with
  | none => simp [declared] at bare
  | some field =>
    simp only [declared, Bool.and_eq_true, Bool.not_eq_true', Option.any_eq_true] at bare
    obtain ⟨⟨result, found, leaf⟩, free⟩ := bare
    by_cases described : name = typenameField ∧ type.isComposite = true
    · rw [described.1]
      exact .typename permanent described.2
    · have known : schema.fieldType? type (Field.bare name).name = some result := by
        simp only [Schema.fieldType?, Field.bare, described, notQuery, and_false, if_false,
          declared, Option.bind_eq_bind, Option.bind_some, found]
      have none : field.arguments.filter InputValue.isRequired = [] := by
        rw [List.filter_eq_nil_iff]
        exact List.any_eq_false.1 free
      refine .leaf known leaf ?_
      simp only [Schema.requiredArguments, Field.bare, described, notQuery, and_false, if_false,
        declared, Option.elim_some, none]
      exact List.nil_subset _

theorem Typed.bare_of_reliesOn (permanent : schema.HasPermanentTypes) {spot : Spot}
    {name : String} (relies : spot.ReliesOn schema keys name) :
    (Selection.bare name).Typed schema store spot.type := by
  cases relies with
  | typename abstract _ =>
    refine .typename permanent ?_
    rw [NamedType.isComposite, abstract, Bool.or_true]
  | key member _ notRoot _ usable =>
    exact .bare_of_isBareSelectable permanent notRoot (usable name member)

theorem selections_eq_map (selections : List Selection) :
    Local.selections schema keys type selections =
      selections.map (Local.selection schema keys type) := by
  induction selections with
  | nil => rfl
  | cons head rest ih => rw [Local.selections, ih, List.map_cons]

/-- A set makes sense after it was rewritten if the selections that it had do. -/
theorem typed_of_mem_rewritten (permanent : schema.HasPermanentTypes) (spot : Spot)
    {selections : List Selection}
    (inside : ∀ selection ∈ selections,
      (Local.selection schema keys spot.type selection).Typed schema later spot.type) :
    ∀ selection ∈ Local.selections schema keys spot.type selections ++
      (Local.names schema keys spot).map Selection.bare,
        selection.Typed schema later spot.type := by
  intro selection member
  rcases List.mem_append.1 member with old | new
  · rw [selections_eq_map] at old
    obtain ⟨before, given, rfl⟩ := List.mem_map.1 old
    exact inside before given
  · obtain ⟨name, given, rfl⟩ := List.mem_map.1 new
    exact .bare_of_reliesOn permanent (Spot.mem_names_iff.1 given).1

theorem Typed.rewritten (permanent : schema.HasPermanentTypes) (keys : List String)
    (same : ∀ name, later.fragment? name = store.fragment? name) {selection : Selection}
    (typed : selection.Typed schema store type) :
    (Local.selection schema keys type selection).Typed schema later type := by
  induction typed with
  | leaf known leaf given => exact .leaf known leaf given
  | @branch type result field position selections known composite given _ ih =>
    refine .branch known composite given ?_
    rw [known, Option.getD_some]
    exact typed_of_mem_rewritten permanent ⟨result, false, ⟨position, selections⟩⟩ ih
  | @inline type fragment position selections untyped _ ih =>
    refine .inline untyped ?_
    rw [untyped]
    exact typed_of_mem_rewritten permanent ⟨type, true, ⟨position, selections⟩⟩ ih
  | @narrow type result condition fragment position selections typed known composite _ ih =>
    refine .narrow typed known composite ?_
    rw [typed, Option.bind_eq_bind, Option.bind_some, known, Option.getD_some]
    exact typed_of_mem_rewritten permanent ⟨result, true, ⟨position, selections⟩⟩ ih
  | spread named => exact .spread ((same _).trans named)

theorem Typed.condition? (collected : store.IsCollected) {selection : Selection}
    (typed : selection.Typed schema store type) :
    ∀ use ∈ selection.spreads, (store.condition? use.name).isSome = true := by
  have below {selections : List Selection}
      (each : ∀ selection ∈ selections, ∀ use ∈ selection.spreads,
        (store.condition? use.name).isSome = true) :
      ∀ use ∈ spreadsOfAll selections, (store.condition? use.name).isSome = true := by
    intro use member
    obtain ⟨selection, there, inside⟩ := mem_spreadsOfAll.1 member
    exact each selection there use inside
  induction typed with
  | leaf => exact fun _ member => nomatch member
  | branch _ _ _ _ ih => exact below ih
  | inline _ _ ih => exact below ih
  | narrow _ _ _ _ ih => exact below ih
  | spread named =>
    intro other member
    rw [collected.fragment?_eq] at named
    rw [List.mem_singleton.1 member, Except.ok.inj named]
    rfl

end Selection

theorem Store.IsTyped.isValid (typed : store.IsTyped schema) (collected : store.IsCollected)
    (acyclic : ∀ name, ¬TransGen store.Spreads name name) : store.IsValid schema where
  rooted document member := by
    obtain ⟨type, start, composite, _⟩ := typed document member
    exact ⟨type, start, composite⟩
  resolved document member use given := by
    obtain ⟨type, _, _, inside⟩ := typed document member
    obtain ⟨selection, there, below⟩ := Selection.mem_spreadsOfAll.1 given
    exact (inside selection there).condition? collected use below
  acyclic := acyclic

theorem Document.IsTyped.rewritten (permanent : schema.HasPermanentTypes) (keys : List String)
    (same : ∀ name, later.fragment? name = store.fragment? name) {document : Document}
    (typed : document.IsTyped schema store) :
    (Local.document schema keys document).IsTyped schema later := by
  obtain ⟨type, start, composite, inside⟩ := typed
  rw [Local.document, start]
  refine ⟨type, start, composite, ?_⟩
  apply Selection.typed_of_mem_rewritten permanent
    ⟨type, false, document.definition.selectionSet⟩
  intro selection member
  exact (inside selection member).rewritten permanent keys same

/-- Typed documents without cycles are compiled, and they are typed afterwards. -/
theorem Run.ofPasses_isTyped (keys : List String) (permanent : schema.HasPermanentTypes)
    (collected : store.IsCollected) (typed : store.IsTyped schema)
    (acyclic : ∀ name, ¬TransGen store.Spreads name name) :
    (ofPasses schema store (Pass.defaults keys)).ok = true ∧
      (ofPasses schema store (Pass.defaults keys)).store.IsTyped schema := by
  have valid := (Validation.anyFatal_findings_iff collected).2 (typed.isValid collected acyclic)
  obtain ⟨whole, quiet⟩ := ofPasses_quiet collected valid (Pass.isStandard_defaults keys)
  refine ⟨by rw [ok, whole, quiet]; rfl, ?_⟩
  rw [(ofPasses_defaults keys collected valid).1]
  intro document member
  rw [Local.documents_supply (Validation.isSound_of_findings collected valid)] at member
  obtain ⟨before, given, rfl⟩ := List.mem_map.1 member
  exact (typed before given).rewritten permanent keys (Store.fragment?_grow store)

namespace Sample

def wholeSchema : Schema :=
  { Sample.schema with types := Standard.permanentTypes ++ Sample.schema.types }

theorem isTyped : Sample.store.IsTyped wholeSchema := by
  refine List.forall_mem_cons.2 ⟨?_, List.forall_mem_singleton.2 ?_⟩
  · refine ⟨_, rfl, fun fragment => (nomatch fragment), List.forall_mem_singleton.2 ?_⟩
    refine .branch rfl rfl (List.nil_subset _) (List.forall_mem_cons.2
      ⟨.narrow rfl rfl rfl (List.forall_mem_singleton.2 ?_), List.forall_mem_singleton.2 ?_⟩)
    · exact .leaf rfl rfl (List.nil_subset _)
    · exact .spread rfl
  · exact ⟨_, rfl, fun _ => rfl, List.forall_mem_singleton.2 (.leaf rfl rfl (List.nil_subset _))⟩

theorem isValid : Sample.store.IsValid Sample.schema :=
  (Validation.anyFatal_findings_iff isCollected).1 (by decide +kernel)

end Sample

theorem Run.ofPasses_isTyped_sample :
    (ofPasses Sample.wholeSchema Sample.store (Pass.defaults ["id"])).ok = true ∧
      (ofPasses Sample.wholeSchema Sample.store (Pass.defaults ["id"])).store.IsTyped
        Sample.wholeSchema :=
  ofPasses_isTyped ["id"] (Schema.hasPermanentTypes_of_types rfl) Sample.isCollected
    Sample.isTyped Sample.isValid.acyclic

end DocumentNormalizer
