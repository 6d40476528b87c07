import DocumentNormalizer.Document.Basic

namespace DocumentNormalizer

namespace SelectionSet

def at? (set : SelectionSet) : List Nat → Option SelectionSet
  | [] => some set
  | index :: rest =>
    match set.selections[index]? with
    | none => none
    | some selection =>
      match selection.set? with
      | none => none
      | some inner => inner.at? rest

end SelectionSet

def Selection.mapSelections (f : List Selection → List Selection) : Selection → Selection
  | .leaf field => .leaf field
  | .branch field position selections => .branch field position (f selections)
  | .inline fragment position selections => .inline fragment position (f selections)
  | .spread use => .spread use

/-- Puts selections at the end of the set that a list of indexes leads to. -/
def Selection.appendAt (added : List Selection) : List Nat → List Selection → List Selection
  | [], selections => selections ++ added
  | index :: rest, selections =>
    selections.modify index (·.mapSelections (appendAt added rest))

def Definition.appendAt (definition : Definition) (path : List Nat) (added : List Selection) :
    Definition :=
  let set := definition.selectionSet
  { definition with selectionSet := ⟨set.position, Selection.appendAt added path set.selections⟩ }

/-- A document and the name it was collected under. -/
structure Entry where
  key : String
  document : Document

/-- Documents under distinct names. -/
structure Store where
  entries : List Entry
  nodup_keys : (entries.map Entry.key).Nodup

/-- The name of a selection set: the document that holds it, and the way to it from the root. -/
structure Place where
  key : String
  path : List Nat
deriving DecidableEq

/-- Two documents with one name, by the files that they are from. -/
structure DuplicateName where
  name : String
  first : String
  second : String

/-- A document that is taken for a fragment while its definition is an operation. -/
structure Mislabelled where
  key : String

namespace Store

def empty : Store := ⟨[], List.nodup_nil⟩

/-- The names that documents were collected under. -/
def keys (store : Store) : List String := store.entries.map Entry.key

def documents (store : Store) : List Document := store.entries.map Entry.document

def get? (store : Store) (key : String) : Option Document :=
  (store.entries.find? (·.key = key)).map Entry.document

/-- Whether a document was collected under a name. -/
def contains (store : Store) (key : String) : Bool := (store.get? key).isSome

theorem not_mem_keys_of_get?_eq_none {store : Store} {key : String} (h : store.get? key = none) :
    key ∉ store.keys := by
  simp only [get?, Option.map_eq_none_iff, List.find?_eq_none, decide_eq_true_eq] at h
  simp only [keys, List.mem_map, not_exists, not_and]
  exact fun entry member same => h entry member same

/-- Puts a document behind the others, unless its name is taken. -/
def insert (store : Store) (document : Document) : Except DuplicateName Store :=
  match free : store.get? document.name with
  | some first => .error ⟨document.name, first.sourceFile, document.sourceFile⟩
  | none =>
    .ok {
      entries := store.entries ++ [⟨document.name, document⟩]
      nodup_keys := by
        have fresh := not_mem_keys_of_get?_eq_none free
        rw [List.map_append, List.nodup_append]
        refine ⟨store.nodup_keys, by simp, ?_⟩
        intro a ha b hb same
        simp only [List.map_cons, List.map_nil, List.mem_singleton] at hb
        subst same hb
        exact fresh ha }

/-- The store of some documents, unless two of them share a name. -/
def ofDocuments (documents : List Document) : Except DuplicateName Store :=
  documents.foldlM insert empty

/-- Changes documents without touching the names they were collected under. -/
def mapDocuments (store : Store) (f : String → Document → Document) : Store where
  entries := store.entries.map fun entry => ⟨entry.key, f entry.key entry.document⟩
  nodup_keys := by
    rw [List.map_map]
    exact store.nodup_keys

@[simp]
theorem keys_mapDocuments (store : Store) (f : String → Document → Document) :
    (store.mapDocuments f).keys = store.keys := by
  simp [keys, mapDocuments, Function.comp_def]

/-- Changes the document that was collected under a name. -/
def modify (store : Store) (key : String) (f : Document → Document) : Store :=
  store.mapDocuments fun other document => if other = key then f document else document

/-- Gives a document another name. It stays under the name it was collected under. -/
def rename (store : Store) (key name : String) : Store :=
  store.modify key fun document => { document with name }

def setKind (store : Store) (key : String) (kind : DocumentKind) : Store :=
  store.modify key fun document => { document with kind }

def operations (store : Store) : List Document := store.documents.filter (!·.kind.isFragment)

def fragments (store : Store) : List Document := store.documents.filter (·.kind.isFragment)

def set? (store : Store) (place : Place) : Option SelectionSet :=
  store.get? place.key >>= fun document => document.definition.selectionSet.at? place.path

def append (store : Store) (place : Place) (added : List Selection) : Store :=
  store.modify place.key fun document =>
    { document with definition := document.definition.appendAt place.path added }

@[simp]
theorem keys_modify (store : Store) (key : String) (f : Document → Document) :
    (store.modify key f).keys = store.keys :=
  keys_mapDocuments _ _

@[simp]
theorem keys_append (store : Store) (place : Place) (added : List Selection) :
    (store.append place added).keys = store.keys :=
  keys_modify _ _ _

/-- The type that the fragment of a name applies to; nothing if no document of that name is taken
for a fragment. -/
def fragment? (store : Store) (name : String) : Except Mislabelled (Option String) :=
  match store.get? name with
  | none => .ok none
  | some document =>
    if document.kind.isFragment then
      match document.definition.heading with
      | .fragment _ typeCondition => .ok (some typeCondition)
      | .operation _ _ _ => .error ⟨name⟩
    else .ok none

end Store

end DocumentNormalizer
