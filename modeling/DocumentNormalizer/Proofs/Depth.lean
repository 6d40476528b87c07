import DocumentNormalizer.Pass.Basic
import DocumentNormalizer.Proofs.Events

namespace DocumentNormalizer

theorem Selection.depth_of_set? {selection : Selection} {inner : SelectionSet}
    (has : selection.set? = some inner) :
    selection.depth = Selection.depthOfAll inner.selections + 1 := by
  cases selection with
  | leaf => cases has
  | branch field position selections => cases has; rw [depth]
  | inline fragment position selections => cases has; rw [depth]
  | spread => cases has

theorem Selection.depth_le_depthOfAll {selections : List Selection} {selection : Selection}
    (member : selection ∈ selections) : selection.depth ≤ Selection.depthOfAll selections := by
  induction selections with
  | nil => cases member
  | cons head rest ih =>
    rw [depthOfAll]
    cases member with
    | head => exact Nat.le_max_left _ _
    | tail _ member => exact Nat.le_trans (ih member) (Nat.le_max_right _ _)

theorem SelectionSet.at?_append (set : SelectionSet) (path rest : List Nat) :
    set.at? (path ++ rest) = set.at? path >>= fun inner => inner.at? rest := by
  induction path generalizing set with
  | nil => rfl
  | cons index path ih =>
    rw [List.cons_append, at?, at?]
    cases set.selections[index]? with
    | none => rfl
    | some selection =>
      cases inner : selection.set? with
      | none => simp [inner]
      | some inner' => simp only [inner]; exact ih inner'

namespace Store

variable {store : Store}

theorem set?_root (store : Store) (key : String) :
    store.set? ⟨key, []⟩ = (store.get? key).map (·.definition.selectionSet) := by
  simp only [set?, SelectionSet.at?]
  cases store.get? key <;> rfl

theorem set?_below {place : Place} {set : SelectionSet} (found : store.set? place = some set)
    (index : Nat) :
    store.set? ⟨place.key, place.path ++ [index]⟩ = set.selections[index]? >>= Selection.set? := by
  simp only [set?, SelectionSet.at?_append, ← bind_assoc] at found ⊢
  rw [found]
  simp only [Option.bind_eq_bind, Option.bind_some, SelectionSet.at?]
  cases set.selections[index]? with
  | none => rfl
  | some selection => cases h : selection.set? <;> simp [h]

theorem exists_set?_above {key : String} {path rest : List Nat} {set : SelectionSet}
    (found : store.set? ⟨key, path ++ rest⟩ = some set) :
    ∃ outer, store.set? ⟨key, path⟩ = some outer := by
  simp only [set?, SelectionSet.at?_append, ← bind_assoc] at found ⊢
  obtain ⟨outer, above, _⟩ := Option.bind_eq_some_iff.1 found
  exact ⟨outer, above⟩

theorem setAt_of_set? {place : Place} {set : SelectionSet} (found : store.set? place = some set) :
    store.setAt place = set := by
  rw [setAt, found, Option.getD_some]

theorem walkDepth_eq (store : Store) :
    store.walkDepth = (store.entries.length + 1) * store.deepest :=
  rfl

theorem depthOfAll_lt_deepest {key : String} {document : Document}
    (found : store.get? key = some document) :
    Selection.depthOfAll document.definition.selectionSet.selections < store.deepest := by
  rw [deepest]
  apply List.le_max?_getD_of_mem
  exact List.mem_map_of_mem (List.mem_map_of_mem (mem_of_get? found))

end Store

namespace Walk

theorem Leads.found {schema : Schema} {store : Store} {scope next : Scope}
    (leads : Leads schema store scope next) (found : (store.set? scope.place).isSome) :
    (store.set? next.place).isSome := by
  obtain ⟨index, selection, chosen, follows⟩ := leads
  cases follows with
  | inside has =>
    obtain ⟨set, found⟩ := Option.isSome_iff_exists.1 found
    rw [Store.setAt_of_set? found] at chosen
    simp [below, Store.set?_below found, chosen, has]
  | across fresh named =>
    obtain ⟨document, found, _⟩ := Option.bind_eq_some_iff.1 named
    simp [Store.set?_root, found]

/-- A walk has room to go on from a scope: the sets that can still come do not lie too deep. -/
structure HasRoom (store : Store) (depth : Nat) (scope : Scope) : Prop where
  found : (store.set? scope.place).isSome
  nodup : scope.openFragments.Nodup
  within : scope.openFragments ⊆ store.keys
  enough : (store.entries.length - scope.openFragments.length) * store.deepest +
    Selection.depthOfAll (store.setAt scope.place).selections < depth

variable {schema : Schema} {store : Store} {depth : Nat} {scope next : Scope}

theorem HasRoom.root {key : String} {document : Document} (found : store.get? key = some document)
    (type : NamedType) :
    HasRoom store store.walkDepth ⟨⟨key, []⟩, type, [], [], .root⟩ := by
  have set := Store.set?_root store key
  rw [found, Option.map_some] at set
  refine ⟨by rw [set]; rfl, List.nodup_nil, List.nil_subset _, ?_⟩
  have shallow := Store.depthOfAll_lt_deepest found
  rw [Store.setAt_of_set? set, Store.walkDepth_eq, Nat.succ_mul]
  exact Nat.add_lt_add_left shallow _

theorem HasRoom.inside {index : Nat} {selection : Selection} {inner : SelectionSet}
    (room : HasRoom store (depth + 1) scope)
    (chosen : (store.setAt scope.place).selections[index]? = some selection)
    (has : selection.set? = some inner) (same : next.openFragments = scope.openFragments)
    (there : store.set? next.place = some inner) : HasRoom store depth next := by
  have enough := room.enough
  have shallow := Selection.depth_le_depthOfAll (List.mem_of_getElem? chosen)
  rw [Selection.depth_of_set? has] at shallow
  refine ⟨by rw [there]; rfl, same ▸ room.nodup, same ▸ room.within, ?_⟩
  rw [same, Store.setAt_of_set? there]
  omega

theorem HasRoom.across {name : String} {document : Document}
    (room : HasRoom store (depth + 1) scope) (fresh : name ∉ scope.openFragments)
    (found : store.get? name = some document) (place : next.place = ⟨name, []⟩)
    (longer : next.openFragments = scope.openFragments ++ [name]) : HasRoom store depth next := by
  have set := Store.set?_root store name
  rw [found, Option.map_some, ← place] at set
  have nodup : (scope.openFragments ++ [name]).Nodup := by simpa using room.nodup.concat fresh
  have within : scope.openFragments ++ [name] ⊆ store.keys :=
    List.append_subset.2 ⟨room.within, by simpa using Store.mem_keys_of_get? found⟩
  have fits := (List.subperm_of_subset nodup within).length_le
  have shallow := Store.depthOfAll_lt_deepest found
  have enough := room.enough
  refine ⟨by rw [set]; rfl, longer ▸ nodup, longer ▸ within, ?_⟩
  rw [Store.keys, List.length_map, List.length_append, List.length_singleton] at fits
  rw [Store.setAt_of_set? set, longer, List.length_append, List.length_singleton]
  have split : store.entries.length - scope.openFragments.length =
      store.entries.length - (scope.openFragments.length + 1) + 1 := by omega
  rw [split, Nat.succ_mul] at enough
  omega

theorem HasRoom.leads (room : HasRoom store (depth + 1) scope)
    (leads : Leads schema store scope next) : HasRoom store depth next := by
  obtain ⟨index, selection, chosen, follows⟩ := leads
  cases follows with
  | inside has =>
    obtain ⟨set, found⟩ := Option.isSome_iff_exists.1 room.found
    have below := Store.set?_below found index
    rw [← Store.setAt_of_set? found, chosen] at below
    exact room.inside chosen has rfl (below.trans has)
  | across fresh named =>
    obtain ⟨document, found, _⟩ := Option.bind_eq_some_iff.1 named
    exact room.across fresh found rfl rfl

theorem setAt_grow {place : Place} (found : (store.set? place).isSome) (growth : Growth) :
    (store.grow growth).setAt place =
      (store.setAt place).grow fun path => growth ⟨place.key, place.path ++ path⟩ := by
  obtain ⟨set, found⟩ := Option.isSome_iff_exists.1 found
  rw [Store.setAt, Store.set?_grow, found, Store.setAt, found]
  rfl

/-- A walk with room does what its events say, whatever the store has grown to so far. -/
theorem HasRoom.faithful {σ : Type} {visitor : Visitor σ} {document : String}
    (room : HasRoom store depth scope) (collected : store.IsCollected)
    (leaves : visitor.AppendsLeaves) : Faithful schema store visitor document depth scope := by
  induction depth generalizing scope with
  | zero => exact absurd room.enough (Nat.not_lt_zero _)
  | succ depth ih =>
    intro progress grown
    obtain ⟨growth, same⟩ := grown.growth
    obtain ⟨fields, added⟩ :=
      leaves ⟨document, scope, progress.store.setAt scope.place⟩ progress.memory
    have set : (progress.store.setAt scope.place).selections = Selection.growFrom
        (fun path => growth ⟨scope.place.key, scope.place.path ++ path⟩) 0
        (store.setAt scope.place).selections := by
      rw [same, setAt_grow room.found]
      rfl
    rw [into_succ, added, set, events, List.foldl_cons]
    apply foldl_enter_grow collected leaves
    · intro i selection chosen next follows
      rw [Nat.zero_add] at follows
      exact ih (room.leads ⟨i, selection, chosen, follows⟩)
    · exact grown.attend leaves _

end Walk

def Document.rootType? (schema : Schema) (document : Document) : Option NamedType :=
  match document.kind with
  | .operation kind => schema.rootType? kind
  | .fragment => schema.type? (document.definition.typeCondition.getD "")

namespace Walk

/-- What a walk reports for a document without a type to select from. -/
def skipped (document : Document) : Issue :=
  match document.kind with
  | .operation kind => .skippedForRoot kind
  | .fragment => .skippedForCondition (document.definition.typeCondition.getD "")

def root (key : String) (type : NamedType) : Scope := ⟨⟨key, []⟩, type, [], [], .root⟩

theorem start?_eq (schema : Schema) (key : String) (document : Document) :
    start? schema key document =
      match document.rootType? schema with
      | some type => .ok (root key type)
      | none => .error (skipped document) := by
  unfold start? Document.rootType? skipped
  cases document.kind with
  | operation kind => rfl
  | fragment => rfl

def documentEvents (schema : Schema) (store : Store) (key : String) : List Event :=
  match store.get? key with
  | none => []
  | some document =>
    match document.rootType? schema with
    | some type => events schema store document.name store.walkDepth (root key type)
    | none => [.report (.unsigned (skipped document) document.name document.location)]

def storeEvents (schema : Schema) (store : Store) : List Event :=
  store.keys.flatMap (documentEvents schema store)

variable {σ : Type} {schema : Schema} {store : Store} {visitor : Visitor σ}

@[simp]
theorem documentEvents_grow (growth : Growth) (key : String) :
    documentEvents schema (store.grow growth) key = documentEvents schema store key := by
  simp only [documentEvents, Store.get?_grow, Store.walkDepth_grow, events_grow]
  cases store.get? key <;> rfl

@[simp]
theorem storeEvents_grow (growth : Growth) :
    storeEvents schema (store.grow growth) = storeEvents schema store := by
  have same : documentEvents schema (store.grow growth) = documentEvents schema store :=
    funext (documentEvents_grow growth)
  rw [storeEvents, storeEvents, same, Store.keys_grow]

theorem document_eq_foldl (collected : store.IsCollected) (leaves : visitor.AppendsLeaves)
    (key : String) {progress : Progress σ} (grown : Grown store progress) :
    document schema visitor store.walkDepth key progress =
      (documentEvents schema store key).foldl (attend visitor) progress := by
  obtain ⟨growth, same⟩ := grown.growth
  have lookup : progress.store.get? key = (store.get? key).map fun document =>
      document.grow fun path => growth ⟨key, path⟩ := by
    rw [same, Store.get?_grow]
  rw [document, documentEvents, lookup]
  cases found : store.get? key with
  | none => rfl
  | some document =>
    simp only [Option.map_some, start?_eq]
    have rootType (added : List Nat → List Field) :
        (document.grow added).rootType? schema = document.rootType? schema := rfl
    rw [rootType]
    cases typed : document.rootType? schema with
    | none => rfl
    | some type => exact (HasRoom.root found type).faithful collected leaves progress grown

theorem documents_eq_foldl (collected : store.IsCollected) (leaves : visitor.AppendsLeaves)
    (memory : σ) :
    documents schema visitor memory store =
      (storeEvents schema store).foldl (attend visitor) ⟨store, memory, [], none⟩ := by
  have each (keys : List String) (progress : Progress σ) (grown : Grown store progress) :
      keys.foldl (fun progress key =>
          if progress.fault.isSome then progress
          else document schema visitor store.walkDepth key progress) progress =
        (keys.flatMap (documentEvents schema store)).foldl (attend visitor) progress := by
    induction keys generalizing progress with
    | nil => rfl
    | cons key rest ih =>
      simp only [List.foldl_cons, grown.sound, Option.isSome_none, Bool.false_eq_true, if_false,
        List.flatMap_cons, List.foldl_append, document_eq_foldl collected leaves key grown]
      exact ih _ (grown.foldl leaves _)
  exact each store.keys _ (.start store memory)

end Walk

end DocumentNormalizer
