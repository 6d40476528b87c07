import DocumentNormalizer.Pass.KeyFields
import DocumentNormalizer.Pass.Validation

namespace DocumentNormalizer

/-- The fields that each set of a store gets at its end. -/
abbrev Growth := Place → List Field

mutual

/-- Puts fields at the ends of the sets below a selection. The list of indexes that leads from the
selection to a set tells which fields are for that set. -/
def Selection.grow (added : List Nat → List Field) : Selection → Selection
  | .leaf field => .leaf field
  | .branch field position selections =>
    .branch field position (Selection.growFrom added 0 selections)
  | .inline fragment position selections =>
    .inline fragment position (Selection.growFrom added 0 selections)
  | .spread use => .spread use

/-- Puts fields at the end of a set and of the sets below it, from the selection with an index. -/
def Selection.growFrom (added : List Nat → List Field) (index : Nat) :
    List Selection → List Selection
  | [] => (added []).map .leaf
  | head :: rest =>
    head.grow (fun path => added (index :: path)) :: Selection.growFrom added (index + 1) rest

end

def SelectionSet.grow (set : SelectionSet) (added : List Nat → List Field) : SelectionSet :=
  ⟨set.position, Selection.growFrom added 0 set.selections⟩

def Document.grow (document : Document) (added : List Nat → List Field) : Document :=
  { document with
    definition :=
      { document.definition with selectionSet := document.definition.selectionSet.grow added } }

/-- Puts fields at the ends of the sets of all documents. -/
def Store.grow (store : Store) (growth : Growth) : Store :=
  store.mapDocuments fun key document => document.grow fun path => growth ⟨key, path⟩

def Growth.put (growth : Growth) (place : Place) (fields : List Field) : Growth :=
  fun other => if other = place then growth other ++ fields else growth other

namespace Selection

variable {added more : List Nat → List Field} {fields : List Field}

theorem growFrom_eq_append (added : List Nat → List Field) (index : Nat)
    (selections : List Selection) :
    growFrom added index selections =
      selections.mapIdx (fun i selection => selection.grow fun path => added ((index + i) :: path))
        ++ (added []).map .leaf := by
  induction selections generalizing index with
  | nil => rfl
  | cons head rest ih =>
    simp only [growFrom, ih, List.mapIdx_cons, List.cons_append, Nat.add_zero]
    congr 3
    funext i selection
    rw [Nat.add_right_comm, Nat.add_assoc]

theorem getElem?_growFrom (added : List Nat → List Field) (selections : List Selection)
    (i : Nat) :
    (growFrom added 0 selections)[i]? =
      if i < selections.length then
        selections[i]?.map fun selection => selection.grow fun path => added (i :: path)
      else (added [])[i - selections.length]?.map .leaf := by
  rw [growFrom_eq_append, List.getElem?_append]
  simp only [List.length_mapIdx, List.getElem?_mapIdx, List.getElem?_map, Nat.zero_add]

@[simp]
theorem set?_grow (selection : Selection) :
    (selection.grow added).set? = selection.set?.map (·.grow added) := by
  cases selection <;> rfl

theorem growFrom_leaves (index : Nat) :
    growFrom added index (fields.map .leaf) = (fields ++ added []).map .leaf := by
  induction fields generalizing index with
  | nil => rfl
  | cons field rest ih => simp only [List.map_cons, growFrom, grow, ih, List.cons_append]

mutual

theorem grow_empty (selection : Selection) : selection.grow (fun _ => []) = selection := by
  cases selection with
  | leaf => rfl
  | branch field position selections => rw [grow, growFrom_empty]
  | inline fragment position selections => rw [grow, growFrom_empty]
  | spread => rfl

theorem growFrom_empty (index : Nat) (selections : List Selection) :
    growFrom (fun _ => []) index selections = selections := by
  cases selections with
  | nil => rfl
  | cons head rest => rw [growFrom, grow_empty, growFrom_empty]

end

mutual

theorem grow_grow (added more : List Nat → List Field) (selection : Selection) :
    (selection.grow added).grow more = selection.grow fun path => added path ++ more path := by
  cases selection with
  | leaf => rfl
  | branch field position selections => simp only [grow, growFrom_growFrom]
  | inline fragment position selections => simp only [grow, growFrom_growFrom]
  | spread => rfl

theorem growFrom_growFrom (added more : List Nat → List Field) (index : Nat)
    (selections : List Selection) :
    growFrom more index (growFrom added index selections) =
      growFrom (fun path => added path ++ more path) index selections := by
  cases selections with
  | nil => simp only [growFrom, growFrom_leaves]
  | cons head rest => simp only [growFrom, grow_grow, growFrom_growFrom]

end

theorem depthOfAll_leaves (fields : List Field) : depthOfAll (fields.map .leaf) = 0 := by
  induction fields with
  | nil => rfl
  | cons field fields ih => simp only [List.map_cons, depthOfAll, depth, ih, Nat.max_self]

mutual

@[simp]
theorem depth_grow (added : List Nat → List Field) (selection : Selection) :
    (selection.grow added).depth = selection.depth := by
  cases selection with
  | leaf => rfl
  | branch field position selections => simp only [grow, depth, depthOfAll_growFrom]
  | inline fragment position selections => simp only [grow, depth, depthOfAll_growFrom]
  | spread => rfl

@[simp]
theorem depthOfAll_growFrom (added : List Nat → List Field) (index : Nat)
    (selections : List Selection) :
    depthOfAll (growFrom added index selections) = depthOfAll selections := by
  cases selections with
  | nil => exact depthOfAll_leaves _
  | cons head rest => simp only [growFrom, depthOfAll, depth_grow, depthOfAll_growFrom]

end

theorem spreadsOfAll_leaves (fields : List Field) : spreadsOfAll (fields.map .leaf) = [] := by
  induction fields with
  | nil => rfl
  | cons field fields ih => simp only [List.map_cons, spreadsOfAll, spreads, ih, List.append_nil]

mutual

@[simp]
theorem spreads_grow (added : List Nat → List Field) (selection : Selection) :
    (selection.grow added).spreads = selection.spreads := by
  cases selection with
  | leaf => rfl
  | branch field position selections => simp only [grow, spreads, spreadsOfAll_growFrom]
  | inline fragment position selections => simp only [grow, spreads, spreadsOfAll_growFrom]
  | spread => rfl

@[simp]
theorem spreadsOfAll_growFrom (added : List Nat → List Field) (index : Nat)
    (selections : List Selection) :
    spreadsOfAll (growFrom added index selections) = spreadsOfAll selections := by
  cases selections with
  | nil => exact spreadsOfAll_leaves _
  | cons head rest => simp only [growFrom, spreadsOfAll, spreads_grow, spreadsOfAll_growFrom]

end

@[simp]
theorem isTypedInline_grow (selection : Selection) :
    (selection.grow added).isTypedInline = selection.isTypedInline := by
  cases selection <;> rfl

@[simp]
theorem selects_grow (name : String) (selection : Selection) :
    (selection.grow added).selects name = selection.selects name := by
  cases selection <;> rfl

theorem any_growFrom {p : Selection → Bool}
    (same : ∀ (selection : Selection) added, p (selection.grow added) = p selection)
    (index : Nat) (selections : List Selection) :
    (growFrom added index selections).any p =
      (selections.any p || ((added []).map Selection.leaf).any p) := by
  induction selections generalizing index with
  | nil => rfl
  | cons head rest ih => simp only [growFrom, List.any_cons, same, ih, Bool.or_assoc]

theorem flatMap_growFrom {α : Type} {f g : Selection × Nat → List α}
    (leaf : ∀ field index, f (.leaf field, index) = [])
    (same : ∀ (selection : Selection) added index,
      f (selection.grow added, index) = g (selection, index))
    (index : Nat) (selections : List Selection) :
    ((growFrom added index selections).zipIdx index).flatMap f =
      (selections.zipIdx index).flatMap g := by
  induction selections generalizing index with
  | nil =>
    rw [growFrom, List.zipIdx_nil, List.flatMap_nil]
    apply List.flatMap_eq_nil_iff.2
    rintro ⟨selection, index⟩ member
    obtain ⟨field, _, rfl⟩ := List.mem_map.1 (List.fst_mem_of_mem_zipIdx member)
    exact leaf field index
  | cons head rest ih =>
    simp only [growFrom, List.zipIdx_cons, List.flatMap_cons, same, ih]

/-- Appending to a set that has grown is growing by some more. Places that lead nowhere do no
harm, since leaves have no sets. -/
theorem appendAt_growFrom (fields : List Field) (path : List Nat) (selections : List Selection) :
    appendAt (fields.map .leaf) path (growFrom added 0 selections) =
      growFrom (fun other => if other = path then added other ++ fields else added other) 0
        selections := by
  induction path generalizing added selections with
  | nil => simp [appendAt, growFrom_eq_append]
  | cons index rest ih =>
    apply List.ext_getElem?
    intro i
    rw [appendAt, List.getElem?_modify, getElem?_growFrom, getElem?_growFrom]
    by_cases inside : i < selections.length
    · simp only [inside, if_true]
      cases found : selections[i]? with
      | none => rfl
      | some selection =>
        by_cases same : index = i
        · subst same
          cases selection <;> simp [grow, mapSelections, ih]
        · have other (path : List Nat) : i :: path ≠ index :: rest := by
            intro h
            exact same (List.cons.inj h).1.symm
          simp [same, other]
    · have root : ([] : List Nat) ≠ index :: rest := by simp
      simp only [inside, if_false, root]
      cases (added [])[i - selections.length]? with
      | none => rfl
      | some field => by_cases same : index = i <;> simp [same, mapSelections]

end Selection

namespace SelectionSet

variable {added : List Nat → List Field}

theorem grow_empty (set : SelectionSet) : set.grow (fun _ => []) = set := by
  rw [grow, Selection.growFrom_empty]

theorem at?_grow (set : SelectionSet) (path : List Nat) :
    (set.grow added).at? path =
      (set.at? path).map fun inner => inner.grow fun rest => added (path ++ rest) := by
  induction path generalizing set added with
  | nil => rfl
  | cons index rest ih =>
    simp only [at?, grow, Selection.getElem?_growFrom]
    by_cases inside : index < set.selections.length
    · simp only [inside, if_true]
      cases found : set.selections[index]? with
      | none => rfl
      | some selection =>
        simp only [Option.map_some, Selection.set?_grow]
        cases selection.set? with
        | none => rfl
        | some inner => exact ih inner
    · simp only [inside, if_false, List.getElem?_eq_none (Nat.le_of_not_lt inside)]
      cases (added [])[index - set.selections.length]? <;> rfl

@[simp]
theorem hasTypedInline_grow (set : SelectionSet) :
    (set.grow added).hasTypedInline = set.hasTypedInline := by
  rw [hasTypedInline, grow, Selection.any_growFrom fun selection _ => selection.isTypedInline_grow,
    hasTypedInline]
  simp [Selection.isTypedInline]

theorem selects_grow (set : SelectionSet) (name : String) :
    (set.grow added).selects name =
      (set.selects name ||
        (added []).any fun field => field.name = name && field.label.isNone) := by
  rw [selects, grow, Selection.any_growFrom fun selection _ => selection.selects_grow name, selects,
    List.any_map]
  rfl

end SelectionSet

namespace Document

variable {added : List Nat → List Field}

theorem grow_empty (document : Document) : document.grow (fun _ => []) = document := by
  rw [grow, SelectionSet.grow_empty]

theorem grow_grow (document : Document) (added more : List Nat → List Field) :
    (document.grow added).grow more = document.grow fun path => added path ++ more path := by
  simp only [grow, SelectionSet.grow, Selection.growFrom_growFrom]

@[simp]
theorem spreads_grow (document : Document) : (document.grow added).spreads = document.spreads := by
  simp only [spreads, grow, SelectionSet.grow, Selection.spreadsOfAll_growFrom]

end Document

namespace Store

variable {growth more : Growth}

theorem ext_entries {first second : Store} (same : first.entries = second.entries) :
    first = second := by
  cases first
  cases second
  cases same
  rfl

theorem get?_mapDocuments (store : Store) (f : String → Document → Document) (key : String) :
    (store.mapDocuments f).get? key = (store.get? key).map (f key) := by
  simp only [get?, mapDocuments, List.find?_map, Option.map_map, Function.comp_def]
  cases found : store.entries.find? (·.key = key) with
  | none => rfl
  | some entry =>
    have named : entry.key = key := by simpa using List.find?_some found
    simp only [Option.map_some, named]

theorem grow_empty (store : Store) : store.grow (fun _ => []) = store := by
  apply ext_entries
  simp only [grow, mapDocuments, Document.grow_empty, List.map_id']

theorem grow_grow (store : Store) (growth more : Growth) :
    (store.grow growth).grow more = store.grow fun place => growth place ++ more place := by
  apply ext_entries
  simp only [grow, mapDocuments, List.map_map, Function.comp_def, Document.grow_grow]

@[simp]
theorem keys_grow (store : Store) : (store.grow growth).keys = store.keys :=
  keys_mapDocuments _ _

@[simp]
theorem length_entries_grow (store : Store) :
    (store.grow growth).entries.length = store.entries.length :=
  List.length_map _

theorem documents_grow (store : Store) :
    (store.grow growth).documents =
      store.entries.map fun entry => entry.document.grow fun path => growth ⟨entry.key, path⟩ := by
  simp only [documents, grow, mapDocuments, List.map_map, Function.comp_def]

theorem get?_grow (store : Store) (key : String) :
    (store.grow growth).get? key =
      (store.get? key).map fun document => document.grow fun path => growth ⟨key, path⟩ :=
  get?_mapDocuments store _ key

theorem set?_grow (store : Store) (place : Place) :
    (store.grow growth).set? place =
      (store.set? place).map fun set =>
        set.grow fun path => growth ⟨place.key, place.path ++ path⟩ := by
  simp only [set?, get?_grow]
  cases store.get? place.key with
  | none => rfl
  | some document => exact SelectionSet.at?_grow _ _

@[simp]
theorem fragment?_grow (store : Store) (name : String) :
    (store.grow growth).fragment? name = store.fragment? name := by
  simp only [fragment?, get?_grow]
  cases store.get? name <;> rfl

@[simp]
theorem walkDepth_grow (store : Store) : (store.grow growth).walkDepth = store.walkDepth := by
  rw [walkDepth, documents_grow, length_entries_grow, walkDepth, documents]
  simp only [List.map_map, Function.comp_def, Document.grow, SelectionSet.grow,
    Selection.depthOfAll_growFrom]

theorem append_grow (store : Store) (place : Place) (fields : List Field) :
    (store.grow growth).append place (fields.map .leaf) = store.grow (growth.put place fields) := by
  apply ext_entries
  simp only [append, modify, grow, mapDocuments, List.map_map, Function.comp_def]
  apply List.map_congr_left
  intro entry _
  by_cases here : entry.key = place.key
  · have whole (path : List Nat) : (⟨entry.key, path⟩ : Place) = place ↔ path = place.path := by
      rw [here]
      cases place
      simp
    simp only [here, if_true, Growth.put, Document.grow, Definition.appendAt, SelectionSet.grow,
      Selection.appendAt_growFrom]
    simp only [← here, whole]
  · have apart (path : List Nat) : (⟨entry.key, path⟩ : Place) ≠ place := by
      intro same
      exact here (congrArg Place.key same)
    simp only [here, if_false, Growth.put, apart]

end Store

end DocumentNormalizer
