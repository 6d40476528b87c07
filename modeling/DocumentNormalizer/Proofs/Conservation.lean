import DocumentNormalizer.Proofs.Rewriting
import DocumentNormalizer.Proofs.Validation

namespace DocumentNormalizer

mutual

/-- Cuts selections off the ends of the sets below a selection. The list of indexes that leads from
the selection to a set tells how many. -/
def Selection.trim (count : List Nat → Nat) : Selection → Selection
  | .leaf field => .leaf field
  | .branch field position selections =>
    .branch field position
      ((Selection.trimFrom count 0 selections).take (selections.length - count []))
  | .inline fragment position selections =>
    .inline fragment position
      ((Selection.trimFrom count 0 selections).take (selections.length - count []))
  | .spread use => .spread use

def Selection.trimFrom (count : List Nat → Nat) (index : Nat) : List Selection → List Selection
  | [] => []
  | head :: rest =>
    head.trim (fun path => count (index :: path)) :: Selection.trimFrom count (index + 1) rest

end

def SelectionSet.trim (set : SelectionSet) (count : List Nat → Nat) : SelectionSet :=
  ⟨set.position,
    (Selection.trimFrom count 0 set.selections).take (set.selections.length - count [])⟩

/-- Cuts selections off the ends of the sets of all documents. -/
def Store.trim (store : Store) (count : Place → Nat) : Store :=
  store.mapDocuments fun key document =>
    { document with
      definition :=
        { document.definition with
          selectionSet := document.definition.selectionSet.trim fun path => count ⟨key, path⟩ } }

def Document.frame (document : Document) : Document :=
  { document with
    definition :=
      { document.definition with
        selectionSet := ⟨document.definition.selectionSet.position, []⟩ } }

/-- Puts fields with nothing but names at the ends of the sets of all documents. -/
def Store.supply (store : Store) (added : Place → List String) : Store :=
  store.grow fun place => (added place).map .bare

/-- Names that a set gets: keys in their order, then perhaps `__typename`. No name comes twice, and
none was selected before. -/
structure SelectionSet.IsSupplement (keys : List String) (set : SelectionSet)
    (names : List String) : Prop where
  ordered : ∃ chosen last, names = chosen ++ last ∧ chosen.Sublist keys.eraseDups ∧
    last.Sublist [typenameField]
  nodup : names.Nodup
  fresh : ∀ name ∈ names, set.selects name = false

/-- A store that was extended: nothing outside selections has changed, each set has kept its
selections and got a supplement, and without the supplements the store is what it was. -/
structure Store.IsExtension (keys : List String) (store : Store) (added : Place → List String)
    (later : Store) : Prop where
  names : later.keys = store.keys
  frames : later.documents.map Document.frame = store.documents.map Document.frame
  sets : ∀ place set, store.set? place = some set → later.set? place = some
    ⟨set.position, set.selections.mapIdx (fun index selection => selection.grow fun path =>
      (added ⟨place.key, place.path ++ index :: path⟩).map .bare) ++ (added place).map .bare⟩
  supplements : ∀ place set, store.set? place = some set → set.IsSupplement keys (added place)
  restored : later.trim (fun place => (added place).length) = store

namespace Selection

variable {added : List Nat → List Field} {count : List Nat → Nat}

theorem trimFrom_leaves (index : Nat) (fields : List Field) :
    trimFrom count index (fields.map .leaf) = fields.map .leaf := by
  induction fields generalizing index with
  | nil => rfl
  | cons field fields ih => rw [List.map_cons, trimFrom, trim, ih]

theorem length_growFrom (index : Nat) (selections : List Selection) :
    (growFrom added index selections).length = selections.length + (added []).length := by
  rw [growFrom_eq_append, List.length_append, List.length_mapIdx, List.length_map]

theorem take_leaves (selections : List Selection) (index : Nat) :
    (selections ++ (added []).map Selection.leaf).take
      ((growFrom added index selections).length - (added []).length) = selections := by
  rw [length_growFrom, Nat.add_sub_cancel, List.take_left]

mutual

/-- Cutting off as much as was put there leaves what was there before. -/
theorem trim_grow (added : List Nat → List Field) (selection : Selection) :
    (selection.grow added).trim (fun path => (added path).length) = selection := by
  cases selection with
  | leaf => rfl
  | branch field position selections => rw [grow, trim, trimFrom_growFrom, take_leaves]
  | inline fragment position selections => rw [grow, trim, trimFrom_growFrom, take_leaves]
  | spread => rfl

theorem trimFrom_growFrom (added : List Nat → List Field) (index : Nat)
    (selections : List Selection) :
    trimFrom (fun path => (added path).length) index (growFrom added index selections) =
      selections ++ (added []).map .leaf := by
  cases selections with
  | nil => exact trimFrom_leaves index _
  | cons head rest => rw [growFrom, trimFrom, trim_grow, trimFrom_growFrom, List.cons_append]

end

end Selection

theorem SelectionSet.trim_grow (set : SelectionSet) (added : List Nat → List Field) :
    (set.grow added).trim (fun path => (added path).length) = set := by
  rw [trim, grow, Selection.trimFrom_growFrom, Selection.take_leaves]

theorem SelectionSet.isSupplement_nil (set : SelectionSet) (keys : List String) :
    set.IsSupplement keys [] where
  ordered := ⟨[], [], rfl, List.nil_sublist _, List.nil_sublist _⟩
  nodup := List.nodup_nil
  fresh := fun _ member => nomatch member

namespace Store

variable {store : Store} {added more : Place → List String}

theorem supply_nil (store : Store) : store.supply (fun _ => []) = store := store.grow_empty

theorem supply_supply :
    (store.supply added).supply more = store.supply fun place => added place ++ more place := by
  simp only [supply, grow_grow, List.map_append]

theorem frames_supply :
    (store.supply added).documents.map Document.frame = store.documents.map Document.frame := by
  rw [supply, documents_grow, documents, List.map_map, List.map_map]
  rfl

theorem set?_supply {place : Place} {set : SelectionSet} (found : store.set? place = some set) :
    (store.supply added).set? place = some
      ⟨set.position, set.selections.mapIdx (fun index selection => selection.grow fun path =>
        (added ⟨place.key, place.path ++ index :: path⟩).map .bare) ++
          (added place).map .bare⟩ := by
  rw [supply, set?_grow, found, Option.map_some, SelectionSet.grow, Selection.growFrom_eq_append,
    List.append_nil, List.map_map]
  simp only [Nat.zero_add]
  rfl

theorem trim_supply : (store.supply added).trim (fun place => (added place).length) = store := by
  apply ext_entries
  simp only [trim, supply, grow, mapDocuments, List.map_map]
  refine (List.map_congr_left fun entry _ => ?_).trans (List.map_id _)
  have same := SelectionSet.trim_grow entry.document.definition.selectionSet fun path =>
    (added ⟨entry.key, path⟩).map Field.bare
  simp only [List.length_map] at same
  simp only [Function.comp_apply, Document.grow, same]
  rfl

theorem isExtension_supply {keys : List String}
    (supplements : ∀ place set, store.set? place = some set → set.IsSupplement keys (added place)) :
    store.IsExtension keys added (store.supply added) where
  names := keys_grow store
  frames := frames_supply
  sets := fun _ _ found => set?_supply found
  supplements := supplements
  restored := trim_supply

theorem selects_setAt_supply {place : Place} (found : (store.set? place).isSome) (name : String) :
    ((store.supply added).setAt place).selects name =
      ((store.setAt place).selects name || (added place).contains name) := by
  rw [supply, Walk.setAt_grow found]
  apply SelectionSet.selects_grow_bare
  rw [List.append_nil]

end Store

/-- A pass puts names out of a list into sets that do not select them, each once and in the order of
the list. -/
def Pass.Supplies (pass : Pass) (names : List String) (schema : Schema) (store : Store) : Prop :=
  ∃ added reports, pass.run schema store = ⟨store.supply added, .ok reports⟩ ∧
    ∀ place, (added place).Sublist names.eraseDups ∧
      ∀ name ∈ added place, (store.setAt place).selects name = false

namespace Completion

variable {completion : Completion} {store : Store} {events : List Walk.Event}

theorem supplement_sublist (place : Place) :
    (completion.supplement store events place).Sublist completion.names.eraseDups := by
  rw [supplement]
  split
  · rw [KeyFields.missing_eq]
    exact List.filter_sublist
  · exact List.nil_sublist _

theorem selects_of_mem_supplement {place : Place} {name : String}
    (member : name ∈ completion.supplement store events place) :
    (store.setAt place).selects name = false := by
  rw [supplement] at member
  split at member
  · exact (KeyFields.mem_missing.1 member).2
  · cases member

end Completion

namespace Pass

variable {store : Store}

theorem addKeyFields_supplies (schema : Schema) (keys : List String)
    (collected : store.IsCollected) :
    (addKeyFields keys).Supplies keys schema store := by
  by_cases used : keys = []
  · subst used
    refine ⟨fun _ => [], [], ?_, fun place => ⟨List.nil_sublist _, fun _ member => nomatch member⟩⟩
    rw [Store.supply_nil]
    rfl
  · exact ⟨_, _, KeyFields.run_eq used collected, fun place =>
      ⟨Completion.supplement_sublist place, fun _ => Completion.selects_of_mem_supplement⟩⟩

theorem addTypename_supplies (schema : Schema) (collected : store.IsCollected) :
    addTypename.Supplies [typenameField] schema store :=
  ⟨_, _, Typename.run_eq schema collected, fun place =>
    ⟨Completion.supplement_sublist place, fun _ => Completion.selects_of_mem_supplement⟩⟩

end Pass

theorem Store.isSupplement_append {store : Store} {keys : List String}
    {added : Place → List String} (more : Place → List String) {place : Place}
    {set : SelectionSet} (found : store.set? place = some set)
    (first : (added place).Sublist keys.eraseDups)
    (firstFresh : ∀ name ∈ added place, (store.setAt place).selects name = false)
    (last : (more place).Sublist [typenameField])
    (lastFresh : ∀ name ∈ more place, ((store.supply added).setAt place).selects name = false) :
    set.IsSupplement keys (added place ++ more place) := by
  have there : (store.set? place).isSome := by rw [found]; rfl
  have apart (name : String) (member : name ∈ more place) :
      set.selects name = false ∧ name ∉ added place := by
    have lacks := lastFresh name member
    rw [selects_setAt_supply there, setAt_of_set? found, Bool.or_eq_false_iff] at lacks
    exact ⟨lacks.1, by simpa using lacks.2⟩
  rw [setAt_of_set? found] at firstFresh
  constructor
  · exact ⟨_, _, rfl, first, last⟩
  · refine List.nodup_append.2 ⟨(nodup_eraseDups keys).sublist first,
      (List.nodup_singleton _).sublist last, ?_⟩
    intro name earlier other later same
    exact (apart other later).2 (same ▸ earlier)
  · intro name member
    rcases List.mem_append.1 member with earlier | later
    · exact firstFresh name earlier
    · exact (apart name later).1

namespace Run

variable {store : Store}

theorem ofPasses_rewriting (schema : Schema) (keys : List String)
    (collected : store.IsCollected) :
    ∃ added, (ofPasses schema store [.addKeyFields keys, .addTypename]).fault = none ∧
      (ofPasses schema store [.addKeyFields keys, .addTypename]).store = store.supply added ∧
      ∀ place set, store.set? place = some set → set.IsSupplement keys (added place) := by
  obtain ⟨added, reports, first, chosen⟩ := Pass.addKeyFields_supplies schema keys collected
  cases fatal : anyFatal reports with
  | true =>
    rw [ofPasses_cons_fatal first fatal]
    refine ⟨added, rfl, rfl, fun place set found => ?_⟩
    have alone : set.IsSupplement keys (added place ++ []) :=
      Store.isSupplement_append (fun _ => []) found (chosen place).1 (chosen place).2
        (List.nil_sublist _) fun _ member => nomatch member
    rwa [List.append_nil] at alone
  | false =>
    have later : (store.supply added).IsCollected := collected.grow _
    obtain ⟨more, others, second, last⟩ := Pass.addTypename_supplies schema later
    obtain ⟨same, sound⟩ := ofPasses_singleton second
    rw [ofPasses_cons_advisory first fatal]
    refine ⟨fun place => added place ++ more place, sound, ?_, fun place set found => ?_⟩
    · rw [← Store.supply_supply]
      exact same
    · exact Store.isSupplement_append more found (chosen place).1 (chosen place).2 (last place).1
        (last place).2

/-- Rewriting only extends documents, with or without validation before it. -/
theorem ofPasses_isExtension (schema : Schema) (keys : List String) (validated : Bool)
    (collected : store.IsCollected) :
    let passes := (if validated then [Pass.validateDocuments] else []) ++
      [.addKeyFields keys, .addTypename]
    (ofPasses schema store passes).fault = none ∧
      ∃ added, store.IsExtension keys added (ofPasses schema store passes).store := by
  obtain ⟨added, sound, same, supplements⟩ := ofPasses_rewriting schema keys collected
  have rewritten := Store.isExtension_supply supplements
  cases validated with
  | false => exact ⟨sound, added, same ▸ rewritten⟩
  | true =>
    simp only [if_true, List.singleton_append]
    cases fatal : anyFatal (Validation.findings schema store) with
    | true =>
      have idle : store.IsExtension keys (fun _ => []) (store.supply fun _ => []) :=
        Store.isExtension_supply fun place set _ => set.isSupplement_nil keys
      rw [Store.supply_nil] at idle
      rw [ofPasses_cons_fatal (Validation.run_eq schema collected) fatal]
      exact ⟨rfl, _, idle⟩
    | false =>
      rw [ofPasses_cons_advisory (Validation.run_eq schema collected) fatal]
      exact ⟨sound, added, same ▸ rewritten⟩

theorem ofPasses_isExtension_sample :
    let passes := [Pass.validateDocuments, .addKeyFields ["id"], .addTypename]
    (ofPasses Sample.schema Sample.store passes).fault = none ∧
      ∃ added, Sample.store.IsExtension ["id"] added
        (ofPasses Sample.schema Sample.store passes).store :=
  ofPasses_isExtension Sample.schema ["id"] true Sample.isCollected

end Run

end DocumentNormalizer
