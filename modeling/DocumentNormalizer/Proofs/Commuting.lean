import DocumentNormalizer.Proofs.Locality

namespace DocumentNormalizer

open Walk (Event storeEvents)

namespace Completion

variable {completion first second : Completion} {schema : Schema} {store : Store}
  {events : List Event} {place : Place} {name : String}

theorem mem_supplement : name ∈ completion.supplement store events place ↔
    events.any (completion.asks store place) = true ∧ name ∈ completion.names ∧
      (store.setAt place).selects name = false := by
  rw [supplement]
  split
  · next asked => simp only [KeyFields.mem_missing, asked, true_and]
  · next unasked =>
    constructor
    · intro member
      cases member
    · rintro ⟨asked, _⟩
      exact absurd asked unasked

theorem nodup_supplement (completion : Completion) (store : Store) (events : List Event)
    (place : Place) : (completion.supplement store events place).Nodup :=
  (nodup_eraseDups completion.names).sublist (supplement_sublist place)

/-- The names that a set gets when one completion is done after another. -/
def supplements (first second : Completion) (store : Store) (events : List Event)
    (place : Place) : List String :=
  first.supplement store events place ++
    second.supplement (store.supply (first.supplement store events)) events place

theorem mem_supplement_supply (collected : store.IsCollected) (found : (store.set? place).isSome)
    (added : Place → List String) :
    name ∈ completion.supplement (store.supply added) (storeEvents schema store) place ↔
      name ∈ completion.supplement store (storeEvents schema store) place ∧ name ∉ added place := by
  have asked : (storeEvents schema store).any (completion.asks (store.supply added) place) =
      (storeEvents schema store).any (completion.asks store place) :=
    completion.any_asks_grow collected _ place
  have lacks : ((store.supply added).setAt place).selects name = false ↔
      (store.setAt place).selects name = false ∧ name ∉ added place := by
    rw [Store.selects_setAt_supply found, Bool.or_eq_false_iff, ← Bool.not_eq_true,
      ← Bool.not_eq_true, List.contains_iff_mem]
  rw [mem_supplement, mem_supplement, asked, lacks, and_assoc, and_assoc]

theorem mem_supplements (collected : store.IsCollected) (found : (store.set? place).isSome) :
    name ∈ first.supplements second store (storeEvents schema store) place ↔
      name ∈ first.supplement store (storeEvents schema store) place ∨
        name ∈ second.supplement store (storeEvents schema store) place := by
  rw [supplements, List.mem_append, mem_supplement_supply collected found]
  constructor
  · rintro (early | ⟨late, _⟩)
    · exact .inl early
    · exact .inr late
  · rintro (early | late)
    · exact .inl early
    · by_cases early : name ∈ first.supplement store (storeEvents schema store) place
      · exact .inl early
      · exact .inr ⟨late, early⟩

theorem nodup_supplements (collected : store.IsCollected) (found : (store.set? place).isSome) :
    (first.supplements second store (storeEvents schema store) place).Nodup := by
  apply List.Nodup.append (nodup_supplement first _ _ _) (nodup_supplement second _ _ _)
  intro name early late
  exact ((mem_supplement_supply collected found _).1 late).2 early

/-- The order of two completions is no more than the order of the names that sets get. -/
theorem supplements_perm (collected : store.IsCollected) (found : (store.set? place).isSome) :
    (first.supplements second store (storeEvents schema store) place).Perm
      (second.supplements first store (storeEvents schema store) place) := by
  apply (List.perm_ext_iff_of_nodup (nodup_supplements collected found)
    (nodup_supplements collected found)).2
  intro name
  rw [mem_supplements collected found, mem_supplements collected found]
  exact or_comm

end Completion

/-- Whatever the documents of a store have grown to, the pass completes their sets, and what it
reports is always the same. -/
def Pass.DoesComplete (pass : Pass) (completion : Completion) (schema : Schema) (store : Store)
    (reports : List Diagnostic) : Prop :=
  ∀ growth, pass.run schema (store.grow growth) =
    ⟨(store.grow growth).supply
      (completion.supplement (store.grow growth) (storeEvents schema store)), .ok reports⟩

/-- A schema whose nodes declare a field for the names of their types. -/
def Sample.tagged : Schema where
  types := [⟨"ID", .scalar⟩, ⟨"String", .scalar⟩,
    ⟨"Node", .interface [] [⟨"id", .named "ID", []⟩, ⟨"__typename", .named "String", []⟩]⟩,
    ⟨"User", .object ["Node"] [⟨"id", .named "ID", []⟩, ⟨"__typename", .named "String", []⟩]⟩,
    ⟨"Query", .object [] [⟨"node", .named "Node", []⟩]⟩]
  root kind := if kind = .query then some "Query" else none

namespace Pass

variable {schema : Schema} {store : Store}

theorem exists_addKeyFields_doesComplete (schema : Schema) (keys : List String)
    (collected : store.IsCollected) :
    ∃ reports, (addKeyFields keys).DoesComplete (KeyFields.completion schema keys) schema store
      reports := by
  by_cases used : keys = []
  · subst used
    refine ⟨[], fun growth => ?_⟩
    have idle : (KeyFields.completion schema []).supplement (store.grow growth)
        (storeEvents schema store) = fun _ => [] := by
      funext place
      exact List.eq_nil_of_sublist_nil (Completion.supplement_sublist place)
    rw [idle, Store.supply_nil]
    exact KeyFields.run_nil schema _
  · refine ⟨KeyFields.reportsFrom schema keys store [] store.keys, fun growth => ?_⟩
    rw [KeyFields.run_eq used (collected.grow growth), Walk.storeEvents_grow,
      KeyFields.reportsFrom_grow, Store.keys_grow]
    rfl

theorem addTypename_doesComplete (schema : Schema) (collected : store.IsCollected) :
    addTypename.DoesComplete Typename.completion schema store
      (Walk.reports (storeEvents schema store)) := by
  intro growth
  rw [Typename.run_eq schema (collected.grow growth), Walk.storeEvents_grow]
  rfl

variable {pass : Pass} {completion : Completion} {reports : List Diagnostic}

theorem DoesComplete.run (completes : pass.DoesComplete completion schema store reports) :
    pass.run schema store =
      ⟨store.supply (completion.supplement store (storeEvents schema store)), .ok reports⟩ := by
  have start := completes fun _ => []
  rwa [Store.grow_empty] at start

theorem DoesComplete.run_supply (completes : pass.DoesComplete completion schema store reports)
    (first : Completion) :
    pass.run schema (store.supply (first.supplement store (storeEvents schema store))) =
      ⟨store.supply (first.supplements completion store (storeEvents schema store)),
        .ok reports⟩ := by
  rw [Store.supply, completes, ← Store.supply, Store.supply_supply]
  rfl

/-- Adding keys and adding `__typename` can change places. Each set gets the same names, none of
them twice and none that it selected before, and each pass reports the same. -/
theorem addKeyFields_addTypename_comm (schema : Schema) (keys : List String)
    (collected : store.IsCollected) :
    ∃ keyReports typenameReports keyed typed added swapped,
      (addKeyFields keys).run schema store = ⟨keyed, .ok keyReports⟩ ∧
      addTypename.run schema keyed = ⟨store.supply added, .ok typenameReports⟩ ∧
      addTypename.run schema store = ⟨typed, .ok typenameReports⟩ ∧
      (addKeyFields keys).run schema typed = ⟨store.supply swapped, .ok keyReports⟩ ∧
      ∀ place set, store.set? place = some set →
        (added place).Perm (swapped place) ∧ (added place).Nodup ∧
          ∀ name ∈ added place, set.selects name = false := by
  obtain ⟨keyReports, keying⟩ := exists_addKeyFields_doesComplete schema keys collected
  have typing := addTypename_doesComplete schema collected
  refine ⟨_, _, _, _, _, _, keying.run, typing.run_supply _, typing.run, keying.run_supply _,
    fun place set there => ?_⟩
  have found : (store.set? place).isSome := by rw [there]; rfl
  refine ⟨Completion.supplements_perm collected found,
    Completion.nodup_supplements collected found, fun name member => ?_⟩
  rw [← Store.setAt_of_set? there]
  rcases (Completion.mem_supplements collected found).1 member with early | late
  · exact Completion.selects_of_mem_supplement early
  · exact Completion.selects_of_mem_supplement late

/-- On documents that spread in a circle, both passes want `__typename` in one set. -/
theorem addKeyFields_addTypename_comm_knot :
    Sample.knot.IsCollected ∧
    ∃ keyReports typenameReports keyed typed added swapped,
      (addKeyFields ["id", "__typename"]).run Sample.tagged Sample.knot =
        ⟨keyed, .ok keyReports⟩ ∧
      addTypename.run Sample.tagged keyed = ⟨Sample.knot.supply added, .ok typenameReports⟩ ∧
      addTypename.run Sample.tagged Sample.knot = ⟨typed, .ok typenameReports⟩ ∧
      (addKeyFields ["id", "__typename"]).run Sample.tagged typed =
        ⟨Sample.knot.supply swapped, .ok keyReports⟩ ∧
      ∀ place set, Sample.knot.set? place = some set →
        (added place).Perm (swapped place) ∧ (added place).Nodup ∧
          ∀ name ∈ added place, set.selects name = false :=
  ⟨Sample.isCollected_knot,
    addKeyFields_addTypename_comm Sample.tagged ["id", "__typename"] Sample.isCollected_knot⟩

/-- The names come in another order if `__typename` is added first. -/
example :
    let added (first second : Pass) :=
      (second.run Sample.tagged (first.run Sample.tagged Sample.knot).store).store.setAt
        ⟨"Page", [0]⟩ |>.selections.drop 2 |>.filterMap (·.field?.map (·.name))
    added (addKeyFields ["id", "__typename"]) addTypename = ["id", "__typename"] ∧
      added addTypename (addKeyFields ["id", "__typename"]) = ["__typename", "id"] :=
  ⟨rfl, rfl⟩

end Pass

end DocumentNormalizer
