import DocumentNormalizer.Proofs.Conservation
import DocumentNormalizer.Proofs.Inlining

namespace DocumentNormalizer

open Relation (ReflTransGen)
open Walk (Event Leads documentEvents storeEvents)

namespace Walk

variable {σ : Type} {schema : Schema} {store : Store} {visitor : Visitor σ}

/-- The visits of the walks of all documents, one document after the other. -/
def survey (schema : Schema) (visitor : Visitor σ) (store : Store) (memory : σ) : List Visit :=
  store.keys.flatMap fun key => (trace schema visitor store key memory).memory.2

/-- What the walks of all documents report, one document after the other. -/
def remarks (schema : Schema) (visitor : Visitor σ) (store : Store) (memory : σ) :
    List Diagnostic :=
  store.keys.flatMap fun key => (trace schema visitor store key memory).diagnostics

theorem survey_eq (schema : Schema) (collected : store.IsCollected) (still : visitor.IsStill)
    (memory : σ) : survey schema visitor store memory = visits store (storeEvents schema store) := by
  have each (key : String) : (trace schema visitor store key memory).memory.2 =
      visits store (documentEvents schema store key) :=
    (trace_eq schema collected still key memory).2.1
  rw [survey, visits, storeEvents, List.filterMap_flatMap]
  exact congrArg store.keys.flatMap (funext each)

theorem remarks_eq (schema : Schema) (collected : store.IsCollected) (still : visitor.IsStill)
    (memory : σ) : remarks schema visitor store memory = reports (storeEvents schema store) := by
  have each (key : String) : (trace schema visitor store key memory).diagnostics =
      reports (documentEvents schema store key) :=
    (trace_eq schema collected still key memory).2.2
  rw [remarks, reports, storeEvents, List.filterMap_flatMap]
  exact congrArg store.keys.flatMap (funext each)

theorem mem_visits {events : List Event} {visit : Visit} :
    visit ∈ visits store events ↔ .visit visit.document visit.scope ∈ events ∧
      visit.set = store.setAt visit.scope.place := by
  rw [visits, List.mem_filterMap]
  constructor
  · rintro ⟨event, member, same⟩
    cases event with
    | report diagnostic => cases same
    | visit document scope => cases same; exact ⟨member, rfl⟩
  · rintro ⟨member, same⟩
    obtain ⟨document, scope, set⟩ := visit
    dsimp only at same
    exact ⟨_, member, same ▸ rfl⟩

end Walk

/-- The set at a place is the body of an inline fragment. -/
def Store.IsInlineBody (store : Store) (place : Place) : Prop :=
  ∃ path index fragment position selections, place.path = path ++ [index] ∧
    (store.setAt ⟨place.key, path⟩).selections[index]? =
      some (.inline fragment position selections)

def Visit.inlineBodies (visit : Visit) : List Place :=
  visit.set.selections.zipIdx.filterMap fun (selection, index) =>
    if selection.entrance = .inline then some (Walk.below visit.scope index) else none

theorem Selection.entrance_eq_inline_iff {selection : Selection} :
    selection.entrance = .inline ↔
      ∃ fragment position selections, selection = .inline fragment position selections := by
  cases selection <;> simp [entrance]

theorem Visit.mem_inlineBodies {visit : Visit} {place : Place} :
    place ∈ visit.inlineBodies ↔ ∃ index fragment position selections,
      visit.set.selections[index]? = some (.inline fragment position selections) ∧
        place = Walk.below visit.scope index := by
  rw [inlineBodies, List.mem_filterMap]
  constructor
  · rintro ⟨⟨selection, index⟩, chosen, noted⟩
    dsimp only at noted
    split at noted
    · next inline =>
      obtain ⟨fragment, position, selections, rfl⟩ := Selection.entrance_eq_inline_iff.1 inline
      cases noted
      exact ⟨index, _, _, _, List.mk_mem_zipIdx_iff_getElem?.1 chosen, rfl⟩
    · cases noted
  · rintro ⟨index, fragment, position, selections, chosen, rfl⟩
    exact ⟨_, List.mk_mem_zipIdx_iff_getElem?.2 chosen, if_pos rfl⟩

theorem exists_of_append_eq {α : Type} {first second before after : List α} {x : α}
    (split : first ++ second = before ++ x :: after) :
    (∃ back, first = before ++ x :: back) ∨
      ∃ front, second = front ++ x :: after ∧ front <:+ before := by
  rcases List.append_eq_append_iff.1 split with ⟨front, rfl, later⟩ | ⟨back, here, later⟩
  · exact .inr ⟨front, later, List.suffix_append _ _⟩
  · cases back with
    | nil => exact .inr ⟨[], later.symm, List.nil_suffix⟩
    | cons other back =>
      obtain ⟨rfl, _⟩ := List.cons_eq_cons.1 later
      exact .inl ⟨back, here⟩

/-- Something in the middle of lists put together is in the middle of one of them. -/
theorem exists_of_flatMap_eq {α β : Type} {f : α → List β} {items : List α}
    {before after : List β} {x : β} (split : items.flatMap f = before ++ x :: after) :
    ∃ item ∈ items, ∃ front back, f item = front ++ x :: back ∧ front <:+ before := by
  induction items generalizing before with
  | nil => simp at split
  | cons item rest ih =>
    rw [List.flatMap_cons] at split
    rcases exists_of_append_eq split with ⟨back, here⟩ | ⟨front, later, suffix⟩
    · exact ⟨item, List.mem_cons_self, before, back, here, List.suffix_rfl⟩
    · obtain ⟨other, member, front', back, inside, within⟩ := ih later
      exact ⟨other, List.mem_cons_of_mem _ member, front', back, inside, within.trans suffix⟩

namespace Walk

variable {σ : Type} {schema : Schema} {store : Store} {visitor : Visitor σ} {scope next last : Scope}

theorem Leads.exists_inline (leads : Leads schema store scope next)
    (entrance : next.entrance = .inline) :
    ∃ index fragment position selections, (store.setAt scope.place).selections[index]? =
      some (.inline fragment position selections) ∧ next.place = below scope index := by
  obtain ⟨index, selection, chosen, follows⟩ := leads
  cases follows with
  | inside has =>
    obtain ⟨fragment, position, selections, rfl⟩ := Selection.entrance_eq_inline_iff.1 entrance
    exact ⟨index, fragment, position, selections, chosen, rfl⟩
  | across => cases entrance

theorem Leads.entrance_eq_inline_iff (leads : Leads schema store scope next) :
    next.entrance = .inline ↔ store.IsInlineBody next.place := by
  constructor
  · intro entrance
    obtain ⟨index, fragment, position, selections, chosen, here⟩ := leads.exists_inline entrance
    rw [here]
    exact ⟨scope.place.path, index, fragment, position, selections, rfl, chosen⟩
  · rintro ⟨path, i, fragment, position, selections, same, found⟩
    obtain ⟨index, selection, chosen, follows⟩ := leads
    cases follows with
    | inside has =>
      obtain ⟨outer, last⟩ := List.append_inj' same rfl
      cases outer
      cases last
      cases chosen.symm.trans found
      rfl
    | across => simp at same

theorem entrance_eq_inline_iff {key : String} {type : NamedType}
    (reaches : ReflTransGen (Leads schema store) (root key type) scope) :
    scope.entrance = .inline ↔ store.IsInlineBody scope.place := by
  rcases ReflTransGen.cases_tail reaches with rfl | ⟨outer, _, leads⟩
  · constructor
    · intro other
      cases other
    · rintro ⟨path, i, fragment, position, selections, same, _⟩
      simp [root] at same
  · exact leads.entrance_eq_inline_iff

theorem eq_or_exists_leads (collected : store.IsCollected) {depth : Nat} {document other : String}
    {before after : List Event}
    (split : events schema store document depth scope = before ++ .visit other last :: after) :
    last = scope ∨ ∃ outer, .visit document outer ∈ before ∧ Leads schema store outer last := by
  induction depth generalizing scope before after with
  | zero => simp [events] at split
  | succ depth ih =>
    rw [events] at split
    cases before with
    | nil => cases split; exact .inl rfl
    | cons first before =>
      obtain ⟨rfl, later⟩ := List.cons_eq_cons.1 split
      refine .inr ?_
      obtain ⟨⟨selection, index⟩, member, front, back, inside, suffix⟩ :=
        exists_of_flatMap_eq later
      rcases exists_of_append_eq inside with ⟨reported, among⟩ | ⟨rest, inside, within⟩
      · have member : Event.visit other last ∈
            (step schema store document scope index selection).reports.map Event.report := by
          rw [among]
          exact List.mem_append_right _ List.mem_cons_self
        simp at member
      · cases leads : (step schema store document scope index selection).next with
        | none => simp [leads] at inside
        | some next =>
          rw [leads] at inside
          have follows := (step_next_iff collected).1 leads
          have chosen := List.mk_mem_zipIdx_iff_getElem?.1 member
          rcases ih inside with rfl | ⟨outer, earlier, leads⟩
          · exact ⟨scope, List.mem_cons_self, index, selection, chosen, follows⟩
          · have held := suffix.subset (within.subset earlier)
            exact ⟨outer, List.mem_cons_of_mem _ held, leads⟩

theorem reaches_of_visit_store (collected : store.IsCollected) {document : String}
    (member : .visit document last ∈ storeEvents schema store) :
    ∃ key type, ReflTransGen (Leads schema store) (root key type) last := by
  obtain ⟨key, _, member⟩ := List.mem_flatMap.1 member
  obtain ⟨_, type, _, _, _, reaches⟩ := exists_root_of_visit collected member
  exact ⟨key, type, reaches⟩

/-- In the walks of all documents the same holds, but for the sets that these walks start from. -/
theorem entrance_eq_root_or_exists_leads (collected : store.IsCollected) {document : String}
    {before after : List Event}
    (split : storeEvents schema store = before ++ .visit document last :: after) :
    last.entrance = .root ∨
      ∃ other outer, .visit other outer ∈ before ∧ Leads schema store outer last := by
  obtain ⟨key, _, front, back, inside, suffix⟩ := exists_of_flatMap_eq split
  rw [documentEvents] at inside
  cases found : store.get? key with
  | none => simp [found] at inside
  | some document =>
    cases typed : document.rootType? schema with
    | none =>
      simp only [found, typed] at inside
      cases front with
      | nil => cases inside
      | cons => simp at inside
    | some type =>
      simp only [found, typed] at inside
      rcases eq_or_exists_leads collected inside with rfl | ⟨outer, earlier, leads⟩
      · exact .inl rfl
      · exact .inr ⟨_, outer, suffix.subset earlier, leads⟩

theorem split_visits {events : List Event} {visit : Visit} {before after : List Visit}
    (split : visits store events = before ++ visit :: after) :
    ∃ front back, events = front ++ .visit visit.document visit.scope :: back ∧
      visits store front = before := by
  obtain ⟨first, second, rfl, rfl, later⟩ := List.filterMap_eq_append_iff.1 split
  obtain ⟨silent, event, back, rfl, silence, here, _⟩ := List.filterMap_eq_cons_iff.1 later
  cases event with
  | report diagnostic => cases here
  | visit document scope =>
    cases here
    refine ⟨first ++ silent, back, (List.append_assoc _ _ _).symm, ?_⟩
    rw [visits, List.filterMap_append, List.filterMap_eq_nil_iff.2 silence, List.append_nil]

/-- Whoever notes the bodies of inline fragments at each visit has noted a set by its visit if and
only if it is one. -/
theorem mem_inlineBodies_iff (collected : store.IsCollected) {visit : Visit}
    {before after : List Visit}
    (split : visits store (storeEvents schema store) = before ++ visit :: after) :
    visit.scope.place ∈ (before ++ [visit]).flatMap Visit.inlineBodies ↔
      store.IsInlineBody visit.scope.place := by
  rw [List.mem_flatMap]
  constructor
  · rintro ⟨earlier, member, noted⟩
    have happened : earlier ∈ visits store (storeEvents schema store) := by
      rw [split, List.append_cons]
      exact List.mem_append_left _ member
    obtain ⟨index, fragment, position, selections, chosen, same⟩ := Visit.mem_inlineBodies.1 noted
    rw [(mem_visits.1 happened).2] at chosen
    rw [same]
    exact ⟨earlier.scope.place.path, index, fragment, position, selections, rfl, chosen⟩
  · intro inline
    obtain ⟨front, back, order, rfl⟩ := split_visits split
    have member : .visit visit.document visit.scope ∈ storeEvents schema store := by
      rw [order]
      exact List.mem_append_right _ List.mem_cons_self
    obtain ⟨key, type, reaches⟩ := reaches_of_visit_store collected member
    have entrance := (entrance_eq_inline_iff reaches).2 inline
    rcases entrance_eq_root_or_exists_leads collected order with start |
      ⟨document, outer, earlier, leads⟩
    · rw [start] at entrance
      cases entrance
    · exact ⟨⟨document, outer, store.setAt outer.place⟩,
        List.mem_append_left _ (mem_visits.2 ⟨earlier, rfl⟩),
        Visit.mem_inlineBodies.2 (leads.exists_inline entrance)⟩

end Walk

theorem Completion.any_asks_iff (completion : Completion) {store : Store} {events : List Event}
    {place : Place} : events.any (completion.asks store place) = true ↔
      ∃ visit ∈ Walk.visits store events, visit.scope.place = place ∧
        completion.wanted visit.scope visit.set = true := by
  rw [List.any_eq_true]
  constructor
  · rintro ⟨event, member, asks⟩
    cases event with
    | report diagnostic => cases asks
    | visit document scope =>
      obtain ⟨here, wanted⟩ := Bool.and_eq_true_iff.1 asks
      have here := of_decide_eq_true here
      refine ⟨⟨document, scope, store.setAt scope.place⟩, Walk.mem_visits.2 ⟨member, rfl⟩, here, ?_⟩
      rwa [← here] at wanted
  · rintro ⟨visit, member, rfl, wanted⟩
    obtain ⟨happened, same⟩ := Walk.mem_visits.1 member
    rw [same] at wanted
    exact ⟨_, happened, by simp [asks, wanted]⟩

/-- A type that keys identify: each of them is a field of it whose values have no selections, and
none of the arguments of these fields has to be given. -/
def NamedType.IsKeyed (schema : Schema) (keys : List String) (type : NamedType) : Prop :=
  ∀ key ∈ keys, ∃ field base, type.field? key = some field ∧
    schema.type? field.type.baseName = some base ∧ base.isLeaf = true ∧
    ∀ argument ∈ field.arguments, argument.isRequired = false

theorem Schema.isBareSelectable_iff {schema : Schema} {type : NamedType} {key : String} :
    schema.isBareSelectable type key = true ↔ ∃ field base, type.field? key = some field ∧
      schema.type? field.type.baseName = some base ∧ base.isLeaf = true ∧
      ∀ argument ∈ field.arguments, argument.isRequired = false := by
  rw [isBareSelectable]
  cases declared : type.field? key with
  | none => simp
  | some field => cases based : schema.type? field.type.baseName <;> simp [based]

namespace KeyFields

variable {schema : Schema} {keys : List String}

theorem isEmpty_unusable_iff {type : NamedType} :
    (unusable schema keys type).isEmpty = true ↔ type.IsKeyed schema keys := by
  rw [unusable, List.isEmpty_iff, List.filter_eq_nil_iff]
  refine forall₂_congr fun key member => ?_
  rw [← Schema.isBareSelectable_iff, Bool.not_eq_true, Bool.not_eq_false']

theorem hasFields_of_isKeyed (used : keys ≠ []) {type : NamedType}
    (keyed : type.IsKeyed schema keys) : type.hasFields keys = true := by
  have declared (key : String) (member : key ∈ keys) : (type.field? key).isSome = true := by
    obtain ⟨field, base, found, _⟩ := keyed key member
    rw [found]
    rfl
  obtain ⟨key, member⟩ := List.exists_mem_of_ne_nil keys used
  have fields : type.fields?.isSome = true := by
    obtain ⟨field, found⟩ := Option.isSome_iff_exists.1 (declared key member)
    obtain ⟨fields, given, _⟩ := Option.bind_eq_some_iff.1 found
    rw [given]
    rfl
  rw [NamedType.hasFields, fields, Bool.true_and, List.all_eq_true]
  exact declared

theorem wanted_iff (used : keys ≠ []) {scope : Scope} {set : SelectionSet} :
    (completion schema keys).wanted scope set = true ↔ scope.entrance ≠ .inline ∧
      schema.isRootType scope.type = false ∧ scope.type.IsKeyed schema keys := by
  simp only [completion, isEntity, Bool.and_eq_true, isEmpty_unusable_iff, decide_eq_true_eq,
    Bool.not_eq_true', and_assoc]
  exact and_congr_right fun _ => and_congr_right fun _ =>
    ⟨fun both => both.2, fun keyed => ⟨hasFields_of_isKeyed used keyed, keyed⟩⟩

end KeyFields

theorem Completion.isExtension_supplement (completion : Completion) {store : Store}
    {events : List Event} {keys : List String}
    (ordered : ∀ names : List String, names.Sublist completion.names.eraseDups →
      ∃ chosen last, names = chosen ++ last ∧ chosen.Sublist keys.eraseDups ∧
        last.Sublist [typenameField]) :
    store.IsExtension keys (completion.supplement store events)
      (store.supply (completion.supplement store events)) := by
  refine Store.isExtension_supply fun place set found => ?_
  have chosen : (completion.supplement store events place).Sublist completion.names.eraseDups :=
    completion.supplement_sublist place
  constructor
  · exact ordered _ chosen
  · exact (nodup_eraseDups _).sublist chosen
  · intro name member
    rw [← Store.setAt_of_set? found]
    exact selects_of_mem_supplement member

theorem Typename.supplement_of_visits {store : Store} {place : Place} {set : SelectionSet}
    (found : store.set? place = some set) (events : List Event) :
    completion.supplement store events place =
      if (∃ visit ∈ Walk.visits store events, visit.scope.place = place ∧
            visit.scope.type.isAbstract = true) ∧
          set.hasTypedInline = true ∧ set.selects typenameField = false
      then [typenameField] else [] := by
  have asked : events.any (completion.asks store place) = true ↔
      (∃ visit ∈ Walk.visits store events, visit.scope.place = place ∧
        visit.scope.type.isAbstract = true) ∧ set.hasTypedInline = true := by
    rw [Completion.any_asks_iff]
    constructor
    · rintro ⟨visit, member, rfl, wanted⟩
      obtain ⟨abstract_, narrows⟩ := Bool.and_eq_true_iff.1 wanted
      rw [(Walk.mem_visits.1 member).2, Store.setAt_of_set? found] at narrows
      exact ⟨⟨visit, member, rfl, abstract_⟩, narrows⟩
    · rintro ⟨⟨visit, member, rfl, abstract_⟩, narrows⟩
      refine ⟨visit, member, rfl, Bool.and_eq_true_iff.2 ⟨abstract_, ?_⟩⟩
      rw [(Walk.mem_visits.1 member).2, Store.setAt_of_set? found]
      exact narrows
  have lacks : KeyFields.missing completion.names set =
      if set.selects typenameField = false then [typenameField] else [] := by
    rw [KeyFields.missing, completion, List.filter_singleton]
    cases set.selects typenameField <;> rfl
  rw [Completion.supplement, Store.setAt_of_set? found, lacks, ← ite_and]
  exact if_congr (by rw [asked, and_assoc]) rfl rfl

theorem KeyFields.supplement_of_visits {schema : Schema} {keys : List String} (used : keys ≠ [])
    {store : Store} {place : Place} {set : SelectionSet} (found : store.set? place = some set)
    {events : List Event}
    (bodies : ∀ visit ∈ Walk.visits store events,
      visit.scope.entrance = .inline ↔ store.IsInlineBody visit.scope.place) :
    ((completion schema keys).supplement store events place ≠ [] ↔ ¬store.IsInlineBody place ∧
      (∃ visit ∈ Walk.visits store events, visit.scope.place = place ∧
        schema.isRootType visit.scope.type = false ∧ visit.scope.type.IsKeyed schema keys) ∧
      ∃ key ∈ keys, set.selects key = false) ∧
    ((completion schema keys).supplement store events place ≠ [] →
      (completion schema keys).supplement store events place =
        keys.eraseDups.filter (!set.selects ·)) := by
  have asked : events.any ((completion schema keys).asks store place) = true ↔
      ¬store.IsInlineBody place ∧ ∃ visit ∈ Walk.visits store events, visit.scope.place = place ∧
        schema.isRootType visit.scope.type = false ∧ visit.scope.type.IsKeyed schema keys := by
    rw [Completion.any_asks_iff]
    constructor
    · rintro ⟨visit, member, rfl, wanted⟩
      obtain ⟨outside, entity⟩ := (wanted_iff used).1 wanted
      exact ⟨mt (bodies visit member).2 outside, visit, member, rfl, entity⟩
    · rintro ⟨outside, visit, member, rfl, entity⟩
      exact ⟨visit, member, rfl, (wanted_iff used).2 ⟨mt (bodies visit member).1 outside, entity⟩⟩
  have lacks : missing keys set ≠ [] ↔ ∃ key ∈ keys, set.selects key = false := by
    rw [ne_eq, missing_eq_nil_iff]
    simp only [not_forall, Bool.not_eq_true, exists_prop]
  rw [Completion.supplement, Store.setAt_of_set? found]
  split
  · next here =>
    obtain ⟨outside, visited⟩ := asked.1 here
    exact ⟨⟨fun some => ⟨outside, visited, lacks.1 some⟩, fun all => lacks.2 all.2.2⟩,
      fun _ => missing_eq keys set⟩
  · next unasked =>
    refine ⟨⟨fun some => absurd rfl some, ?_⟩, fun some => absurd rfl some⟩
    rintro ⟨outside, visited, _⟩
    exact absurd (asked.2 ⟨outside, visited⟩) unasked

namespace Pass

open Walk (survey remarks trace)

variable {σ : Type} {store : Store} {visitor : Visitor σ}

/-- Adding `__typename` gives one to a set if and only if a walk that changes nothing comes to it
with an interface or a union, it narrows its type, and it does not select `__typename`. The pass
reports what such walks report. -/
theorem addTypename_effect (schema : Schema) (collected : store.IsCollected)
    (still : visitor.IsStill) (memory : σ) :
    (∀ key ∈ store.keys, (trace schema visitor store key memory).fault = none) ∧
    ∃ added : Place → List String,
      addTypename.run schema store =
        ⟨store.supply added, .ok (remarks schema visitor store memory)⟩ ∧
      store.IsExtension [] added (store.supply added) ∧
      ∀ place set, store.set? place = some set → added place =
        if (∃ visit ∈ survey schema visitor store memory, visit.scope.place = place ∧
              visit.scope.type.isAbstract = true) ∧
            set.hasTypedInline = true ∧ set.selects typenameField = false
        then [typenameField] else [] := by
  refine ⟨fun key _ => (Walk.trace_eq schema collected still key memory).1,
    Typename.completion.supplement store (storeEvents schema store), ?_,
    Completion.isExtension_supplement Typename.completion fun names within =>
      ⟨[], names, rfl, List.nil_sublist _, within⟩, ?_⟩
  · rw [Walk.remarks_eq schema collected still]
    exact Typename.run_eq schema collected
  · intro place set found
    rw [Walk.survey_eq schema collected still]
    exact Typename.supplement_of_visits found _

theorem addTypename_effect_sample :
    ∃ added : Place → List String,
      (addTypename.run Sample.schema Sample.store).store = Sample.store.supply added ∧
      added ⟨"Page", [0]⟩ = [typenameField] ∧ added ⟨"Page", []⟩ = [] := by
  have still : Sample.counting.IsStill := fun _ _ => rfl
  obtain ⟨_, added, ran, _, given⟩ :=
    addTypename_effect Sample.schema Sample.isCollected still 0
  refine ⟨added, by rw [ran], ?_, ?_⟩
  · rw [given ⟨"Page", [0]⟩ _ rfl]
    decide +kernel
  · rw [given ⟨"Page", []⟩ _ rfl]
    decide +kernel

/-- Adding keys changes a set if and only if it is no body of an inline fragment, a walk that changes
nothing comes to it with a type that keys identify and that no operation starts from, and it does
not select all of the keys. It then gets those that it lacks, each once and in their order. Bodies of
inline fragments can be told by noting them at the visits to the sets that hold them. -/
theorem addKeyFields_effect (schema : Schema) {keys : List String} (used : keys ≠ [])
    (collected : store.IsCollected) (still : visitor.IsStill) (memory : σ) :
    (∀ key ∈ store.keys, (trace schema visitor store key memory).fault = none) ∧
    (∀ before visit after, survey schema visitor store memory = before ++ visit :: after →
      (visit.scope.place ∈ (before ++ [visit]).flatMap Visit.inlineBodies ↔
        store.IsInlineBody visit.scope.place)) ∧
    ∃ (added : Place → List String) (given : List Diagnostic),
      (addKeyFields keys).run schema store = ⟨store.supply added, .ok given⟩ ∧
      store.IsExtension keys added (store.supply added) ∧
      ∀ place set, store.set? place = some set →
        (added place ≠ [] ↔ ¬store.IsInlineBody place ∧
          (∃ visit ∈ survey schema visitor store memory, visit.scope.place = place ∧
            schema.isRootType visit.scope.type = false ∧
            visit.scope.type.IsKeyed schema keys) ∧
          ∃ key ∈ keys, set.selects key = false) ∧
        (added place ≠ [] → added place = keys.eraseDups.filter (!set.selects ·)) := by
  rw [Walk.survey_eq schema collected still]
  refine ⟨fun key _ => (Walk.trace_eq schema collected still key memory).1,
    fun before visit after => Walk.mem_inlineBodies_iff collected,
    (KeyFields.completion schema keys).supplement store (storeEvents schema store),
    KeyFields.reportsFrom schema keys store [] store.keys, KeyFields.run_eq used collected,
    Completion.isExtension_supplement _ fun names within =>
      ⟨names, [], (List.append_nil _).symm, within, List.nil_sublist _⟩, ?_⟩
  intro place set found
  apply KeyFields.supplement_of_visits used found
  intro visit member
  obtain ⟨key, type, reaches⟩ :=
    Walk.reaches_of_visit_store collected (Walk.mem_visits.1 member).1
  exact Walk.entrance_eq_inline_iff reaches

theorem addKeyFields_effect_sample :
    ∃ added : Place → List String,
      ((addKeyFields ["id", "id"]).run Sample.schema Sample.store).store =
        Sample.store.supply added ∧
      added ⟨"Page", [0]⟩ = ["id"] ∧ added ⟨"Page", [0, 0]⟩ = [] := by
  have used : ["id", "id"] ≠ [] := by decide
  have still : Sample.counting.IsStill := fun _ _ => rfl
  obtain ⟨_, _, added, _, ran, _, given⟩ :=
    addKeyFields_effect Sample.schema used Sample.isCollected still 0
  refine ⟨added, by rw [ran], ?_, ?_⟩
  · obtain ⟨changes, whole⟩ := given ⟨"Page", [0]⟩ _ rfl
    have outside : ¬Sample.store.IsInlineBody ⟨"Page", [0]⟩ := by
      rintro ⟨path, index, fragment, position, selections, same, chosen⟩
      obtain ⟨rfl, last⟩ : [] = path ∧ [0] = [index] := List.append_inj' same rfl
      cases last
      cases chosen
    have visited : (survey Sample.schema Sample.counting Sample.store 0).any (fun visit =>
        visit.scope.place = ⟨"Page", [0]⟩ && !Sample.schema.isRootType visit.scope.type &&
          (KeyFields.unusable Sample.schema ["id", "id"] visit.scope.type).isEmpty) = true := by
      decide +kernel
    obtain ⟨visit, member, seen⟩ := List.any_eq_true.1 visited
    rw [Bool.and_eq_true, Bool.and_eq_true, decide_eq_true_eq, Bool.not_eq_true',
      KeyFields.isEmpty_unusable_iff, and_assoc] at seen
    rw [whole (changes.2 ⟨outside, ⟨visit, member, seen⟩, "id", List.mem_cons_self, rfl⟩)]
    decide +kernel
  · obtain ⟨changes, _⟩ := given ⟨"Page", [0, 0]⟩ _ rfl
    by_contra changed
    exact (changes.1 changed).1 ⟨[0], 0, _, _, _, rfl, rfl⟩

end Pass

end DocumentNormalizer
