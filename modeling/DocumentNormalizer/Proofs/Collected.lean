import DocumentNormalizer.Document.Collect
import DocumentNormalizer.Proofs.Growth
import DocumentNormalizer.Proofs.Outcome
import Mathlib.Data.List.Nodup

namespace DocumentNormalizer

/-- A document as collecting makes it from a definition. -/
def Document.IsCollected (document : Document) : Prop :=
  ∃ sourceFile definition, Document.ofDefinition sourceFile (.executable definition) = .ok document

/-- Documents as they were collected, under the names that they were collected under. -/
structure Store.IsCollected (store : Store) : Prop where
  named : ∀ entry ∈ store.entries, entry.document.name = entry.key
  collected : ∀ entry ∈ store.entries, entry.document.IsCollected

/-- The type that the fragment of a name applies to, for documents that are what they are taken
for. -/
def Store.condition? (store : Store) (name : String) : Option String :=
  store.get? name >>= fun document => document.definition.typeCondition

namespace Document

theorem IsCollected.isSome_typeCondition {document : Document} (h : document.IsCollected) :
    document.definition.typeCondition.isSome = document.kind.isFragment := by
  obtain ⟨sourceFile, ⟨description, heading, directives, position, set⟩, made⟩ := h
  cases heading with
  | operation kind name declared =>
    cases name with
    | none => cases made
    | some name => cases made; rfl
  | fragment name condition => cases made; rfl

theorem IsCollected.grow {document : Document} (h : document.IsCollected)
    (added : List Nat → List Field) : (document.grow added).IsCollected := by
  obtain ⟨sourceFile, definition, made⟩ := h
  refine ⟨sourceFile, { definition with selectionSet := definition.selectionSet.grow added }, ?_⟩
  obtain ⟨description, heading, directives, position, set⟩ := definition
  cases heading with
  | operation kind name declared =>
    cases name with
    | none => cases made
    | some name => cases made; rfl
  | fragment name condition => cases made; rfl

theorem isCollected_of_ofDefinition {sourceFile : String} {source : SourceDefinition}
    {document : Document} (made : ofDefinition sourceFile source = .ok document) :
    document.IsCollected := by
  cases source with
  | typeSystem definition => cases made
  | executable definition => exact ⟨sourceFile, definition, made⟩

theorem collect_eq_ok_iff {text sourceFile : String} {documents : List Document} :
    collect text sourceFile = .ok documents ↔ ∃ sources, parseSource text = .ok sources ∧
      List.Forall₂ (fun source document => ofDefinition sourceFile source = .ok document) sources
        documents := by
  rw [collect]
  cases parseSource text with
  | error error =>
    constructor
    · intro made
      cases made
    · rintro ⟨_, read, _⟩
      cases read
  | ok sources =>
    constructor
    · intro made
      refine ⟨sources, rfl, mapM_eq_ok_iff.1 ?_⟩
      cases each : sources.mapM (ofDefinition sourceFile) with
      | error fault => simp only [each, reduceCtorEq] at made
      | ok found =>
        simp only [each] at made
        cases made
        rfl
    · rintro ⟨_, read, each⟩
      cases read
      simp only [mapM_eq_ok_iff.2 each]

theorem isCollected_of_collect {text sourceFile : String} {documents : List Document}
    (made : collect text sourceFile = .ok documents) :
    ∀ document ∈ documents, document.IsCollected := by
  obtain ⟨sources, read, each⟩ := collect_eq_ok_iff.1 made
  clear read made
  induction each with
  | nil => exact List.forall_mem_nil _
  | cons first _ ih => exact List.forall_mem_cons.2 ⟨isCollected_of_ofDefinition first, ih⟩

end Document

namespace Store

variable {store : Store}

theorem mem_of_get? {key : String} {document : Document} (found : store.get? key = some document) :
    ⟨key, document⟩ ∈ store.entries := by
  rw [get?, Option.map_eq_some_iff] at found
  obtain ⟨entry, first, rfl⟩ := found
  have named : entry.key = key := by simpa using List.find?_some first
  subst named
  exact List.mem_of_find?_eq_some first

theorem get?_of_mem {entry : Entry} (member : entry ∈ store.entries) :
    store.get? entry.key = some entry.document := by
  cases found : store.get? entry.key with
  | none => exact absurd (List.mem_map_of_mem member) (not_mem_keys_of_get?_eq_none found)
  | some document =>
    have same := List.inj_on_of_nodup_map store.nodup_keys (mem_of_get? found) member rfl
    rw [← same]

theorem mem_keys_of_get? {key : String} {document : Document}
    (found : store.get? key = some document) : key ∈ store.keys :=
  List.mem_map_of_mem (mem_of_get? found)

theorem mem_documents_of_get? {key : String} {document : Document}
    (found : store.get? key = some document) : document ∈ store.documents :=
  List.mem_map_of_mem (mem_of_get? found)

namespace IsCollected

variable (h : store.IsCollected)

include h

theorem nodup_names : (store.documents.map Document.name).Nodup := by
  have same : store.documents.map Document.name = store.keys := by
    rw [documents, List.map_map, keys]
    exact List.map_congr_left h.named
  rw [same]
  exact store.nodup_keys

theorem name_of_get? {key : String} {document : Document} (found : store.get? key = some document) :
    document.name = key :=
  h.named _ (mem_of_get? found)

theorem of_get? {key : String} {document : Document} (found : store.get? key = some document) :
    document.IsCollected :=
  h.collected _ (mem_of_get? found)

theorem of_mem_documents {document : Document} (member : document ∈ store.documents) :
    document.IsCollected := by
  obtain ⟨entry, there, rfl⟩ := List.mem_map.1 member
  exact h.collected entry there

theorem fragment?_eq (name : String) : store.fragment? name = .ok (store.condition? name) := by
  rw [fragment?, condition?]
  cases found : store.get? name with
  | none => rfl
  | some document =>
    have same := (h.of_get? found).isSome_typeCondition
    simp only [Option.bind_eq_bind, Option.bind_some, ← same, Definition.typeCondition]
    cases document.definition.heading <;> rfl

theorem grow (growth : Growth) : (store.grow growth).IsCollected := by
  constructor
  · intro entry member
    obtain ⟨old, before, rfl⟩ := List.mem_map.1 member
    exact h.named old before
  · intro entry member
    obtain ⟨old, before, rfl⟩ := List.mem_map.1 member
    exact (h.collected old before).grow _

end IsCollected

theorem insert_of_not_mem {document : Document} (fresh : document.name ∉ store.keys) :
    ∃ next, store.insert document = .ok next ∧
      next.entries = store.entries ++ [⟨document.name, document⟩] := by
  rw [insert]
  split
  · next first taken => exact absurd (mem_keys_of_get? taken) fresh
  · exact ⟨_, rfl, rfl⟩

theorem foldlM_insert_of_nodup {documents : List Document} {start : Store}
    (distinct : (start.keys ++ documents.map Document.name).Nodup) :
    ∃ store, documents.foldlM insert start = .ok store ∧
      store.entries = start.entries ++ documents.map fun document => ⟨document.name, document⟩ := by
  induction documents generalizing start with
  | nil => exact ⟨start, rfl, (List.append_nil _).symm⟩
  | cons document rest ih =>
    have fresh : document.name ∉ start.keys := by
      intro member
      exact List.disjoint_of_nodup_append distinct member (by simp)
    obtain ⟨next, inserted, entries⟩ := insert_of_not_mem fresh
    have keys : next.keys = start.keys ++ [document.name] := by
      simp [Store.keys, entries]
    have further : (next.keys ++ rest.map Document.name).Nodup := by
      simpa [keys] using distinct
    obtain ⟨store, made, all⟩ := ih further
    refine ⟨store, ?_, by simp [all, entries]⟩
    rw [List.foldlM_cons, inserted]
    exact made

theorem ofDocuments_of_nodup {documents : List Document}
    (distinct : (documents.map Document.name).Nodup) :
    ∃ store, ofDocuments documents = .ok store ∧
      store.entries = documents.map fun document => ⟨document.name, document⟩ :=
  foldlM_insert_of_nodup distinct

theorem entries_of_insert {document : Document} {next : Store}
    (inserted : store.insert document = .ok next) :
    next.entries = store.entries ++ [⟨document.name, document⟩] := by
  rw [insert] at inserted
  split at inserted
  · cases inserted
  · cases inserted
    rfl

theorem entries_of_foldlM_insert {documents : List Document} {start : Store}
    (made : documents.foldlM insert start = .ok store) :
    store.entries = start.entries ++ documents.map fun document => ⟨document.name, document⟩ := by
  induction documents generalizing start with
  | nil =>
    cases made
    exact (List.append_nil _).symm
  | cons document rest ih =>
    rw [List.foldlM_cons] at made
    cases inserted : start.insert document with
    | error => rw [inserted] at made; cases made
    | ok next =>
      rw [inserted] at made
      rw [ih made, entries_of_insert inserted, List.append_assoc]
      rfl

theorem entries_of_ofDocuments {documents : List Document}
    (made : ofDocuments documents = .ok store) :
    store.entries = documents.map fun document => ⟨document.name, document⟩ :=
  entries_of_foldlM_insert made

theorem documents_of_entries {documents : List Document}
    (entries : store.entries = documents.map fun document => ⟨document.name, document⟩) :
    store.documents = documents := by
  rw [Store.documents, entries, List.map_map]
  exact List.map_id documents

theorem isCollected_of_entries {documents : List Document}
    (collected : ∀ document ∈ documents, document.IsCollected)
    (entries : store.entries = documents.map fun document => ⟨document.name, document⟩) :
    store.IsCollected := by
  constructor
  · intro entry member
    rw [entries] at member
    obtain ⟨document, _, rfl⟩ := List.mem_map.1 member
    rfl
  · intro entry member
    rw [entries] at member
    obtain ⟨document, given, rfl⟩ := List.mem_map.1 member
    exact collected document given

end Store

namespace Sample

/-- A page shows a node, and users are nodes. -/
def schema : Schema where
  types := [⟨"ID", .scalar⟩, ⟨"Node", .interface [] [⟨"id", .named "ID", []⟩]⟩,
    ⟨"User", .object ["Node"] [⟨"id", .named "ID", []⟩]⟩,
    ⟨"Query", .object [] [⟨"node", .named "Node", []⟩]⟩]
  root kind := if kind = .query then some "Query" else none

def page : Document where
  name := "Page"
  kind := .operation .query
  definition := ⟨none, .operation .query (some "Page") [], [], none, ⟨none,
    [.branch (.bare "node") none
      [.inline ⟨some "User", [], none⟩ none [.bare "id"], .spread ⟨"Info", [], none⟩]]⟩⟩
  sourceFile := "page.graphql"

def info : Document where
  name := "Info"
  kind := .fragment
  definition := ⟨none, .fragment "Info" "Node", [], none, ⟨none, [.bare "id"]⟩⟩
  sourceFile := "info.graphql"

def store : Store := ⟨[⟨"Page", page⟩, ⟨"Info", info⟩], by decide⟩

theorem isCollected_page : page.IsCollected := ⟨page.sourceFile, page.definition, rfl⟩

theorem isCollected_info : info.IsCollected := ⟨info.sourceFile, info.definition, rfl⟩

theorem isCollected : store.IsCollected :=
  Store.isCollected_of_entries
    (List.forall_mem_cons.2 ⟨isCollected_page, List.forall_mem_singleton.2 isCollected_info⟩) rfl

def tangled : Document where
  name := "Info"
  kind := .fragment
  definition := ⟨none, .fragment "Info" "Node", [], none,
    ⟨none, [.bare "id", .spread ⟨"Info", [], none⟩]⟩⟩
  sourceFile := "info.graphql"

def knot : Store := ⟨[⟨"Page", page⟩, ⟨"Info", tangled⟩], by decide⟩

theorem isCollected_tangled : tangled.IsCollected := ⟨tangled.sourceFile, tangled.definition, rfl⟩

theorem isCollected_knot : knot.IsCollected :=
  Store.isCollected_of_entries
    (List.forall_mem_cons.2 ⟨isCollected_page, List.forall_mem_singleton.2 isCollected_tangled⟩) rfl

end Sample

end DocumentNormalizer
