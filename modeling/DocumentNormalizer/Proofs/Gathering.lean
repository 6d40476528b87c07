import DocumentNormalizer.Proofs.Collected

namespace DocumentNormalizer

structure SourceText where
  text : String
  file : String

/-- Why source texts make no store. -/
inductive GatheringError where
  | collection (error : CollectionError)
  | duplicateName (duplicate : DuplicateName)

/-- The store of the documents in some source texts. The texts are all collected before the store is
made. -/
def Store.ofSources (sources : List SourceText) : Except GatheringError Store :=
  match sources.mapM fun source => Document.collect source.text source.file with
  | .error error => .error (.collection error)
  | .ok collections => (ofDocuments collections.flatten).mapError .duplicateName

def Heading.kind : Heading → DocumentKind
  | .operation kind _ _ => .operation kind
  | .fragment _ _ => .fragment

/-- The name of a definition that makes a document: that of a named operation or of a fragment. -/
def SourceDefinition.name? : SourceDefinition → Option String
  | .typeSystem _ => none
  | .executable definition =>
    match definition.heading with
    | .operation _ name _ => name
    | .fragment name _ => some name

/-- What keeps a definition from making a document. -/
inductive SourceDefinition.Offends : SourceDefinition → CollectionFault → Prop
  | anonymous {definition : Definition} {kind : OperationKind} {declared : List VariableDefinition}
      (unnamed : definition.heading = .operation kind none declared) :
      Offends (.executable definition) (.anonymous kind)
  | notExecutable (definition : TypeSystemDefinition) :
      Offends (.typeSystem definition) (.notExecutable definition)

def Document.origin (document : Document) : String × SourceDefinition :=
  (document.sourceFile, .executable document.definition)

namespace SourceText

/-- The definitions of a text. A text that cannot be read has none. -/
def definitions (source : SourceText) : List SourceDefinition :=
  match parseSource source.text with
  | .ok definitions => definitions
  | .error _ => []

/-- The definitions of some texts with the files that they are from, in order. -/
def origins (sources : List SourceText) : List (String × SourceDefinition) :=
  sources.flatMap fun source => source.definitions.map (source.file, ·)

/-- The text can be read, and all its definitions make documents. -/
structure IsSound (source : SourceText) : Prop where
  read : ∃ definitions, parseSource source.text = .ok definitions
  named : ∀ definition ∈ source.definitions, definition.name?.isSome

/-- What keeps a text from giving documents: it cannot be read, or else the first of its definitions
that makes none. -/
inductive Offends (source : SourceText) : CollectionFault → Prop
  | unreadable {error : SyntaxError} (broken : parseSource source.text = .error error) :
      Offends source (.unreadable error)
  | definition {before after : List SourceDefinition} {definition : SourceDefinition}
      {fault : CollectionFault}
      (read : parseSource source.text = .ok (before ++ definition :: after))
      (named : ∀ other ∈ before, other.name?.isSome) (offends : definition.Offends fault) :
      Offends source fault

end SourceText

/-- A store with one document for each definition of some source texts, in order. Each goes by the
name of its definition and is taken for what that is. -/
structure Store.Gathers (store : Store) (sources : List SourceText) : Prop where
  complete : store.documents.map Document.origin = SourceText.origins sources
  keys : store.keys = store.documents.map Document.name
  named : ∀ document ∈ store.documents, document.origin.2.name? = some document.name
  kind : ∀ document ∈ store.documents, document.kind = document.definition.heading.kind
  fragments : ∀ name, ∃ found, store.fragment? name = .ok found

/-- The error is that of the first offence: of the first text that gives no documents, or, if all
texts do, of the first definition whose name was borne by another before. -/
inductive GatheringError.IsFirst (sources : List SourceText) : GatheringError → Prop
  | collection {before after : List SourceText} {source : SourceText} {fault : CollectionFault}
      (split : sources = before ++ source :: after) (sound : ∀ other ∈ before, other.IsSound)
      (offends : source.Offends fault) : IsFirst sources (.collection ⟨fault, source.file⟩)
  | duplicateName {front middle back : List (String × SourceDefinition)}
      {first again : String × SourceDefinition} {name : String}
      (sound : ∀ source ∈ sources, source.IsSound)
      (split : SourceText.origins sources = front ++ first :: (middle ++ again :: back))
      (distinct : ((front ++ first :: middle).map (·.2.name?)).Nodup)
      (borne : first.2.name? = some name) (repeated : again.2.name? = some name) :
      IsFirst sources (.duplicateName ⟨name, first.1, again.1⟩)

namespace Document

variable {sourceFile : String} {source : SourceDefinition} {document : Document}
  {fault : CollectionFault}

theorem of_ofDefinition (made : ofDefinition sourceFile source = .ok document) :
    document.origin = (sourceFile, source) ∧ source.name? = some document.name ∧
      document.kind = document.definition.heading.kind := by
  cases source with
  | typeSystem definition => cases made
  | executable definition =>
    obtain ⟨description, heading, directives, position, set⟩ := definition
    cases heading with
    | operation kind name declared =>
      cases name with
      | none => cases made
      | some name =>
        cases made
        exact ⟨rfl, rfl, rfl⟩
    | fragment name condition =>
      cases made
      exact ⟨rfl, rfl, rfl⟩

theorem IsCollected.name?_origin (collected : document.IsCollected) :
    document.origin.2.name? = some document.name := by
  obtain ⟨sourceFile, definition, made⟩ := collected
  obtain ⟨origin, named, _⟩ := of_ofDefinition made
  rw [origin]
  exact named

theorem IsCollected.kind_eq (collected : document.IsCollected) :
    document.kind = document.definition.heading.kind := by
  obtain ⟨sourceFile, definition, made⟩ := collected
  exact (of_ofDefinition made).2.2

theorem offends_of_ofDefinition (failed : ofDefinition sourceFile source = .error fault) :
    source.Offends fault := by
  cases source with
  | typeSystem definition =>
    cases failed
    exact .notExecutable definition
  | executable definition =>
    obtain ⟨description, heading, directives, position, set⟩ := definition
    cases heading with
    | operation kind name declared =>
      cases name with
      | none =>
        cases failed
        exact .anonymous rfl
      | some name => cases failed
    | fragment name condition => cases failed

theorem isSome_name?_iff : source.name?.isSome ↔
    ∃ document, ofDefinition sourceFile source = .ok document := by
  constructor
  · intro named
    cases made : ofDefinition sourceFile source with
    | ok document => exact ⟨document, rfl⟩
    | error fault =>
      cases offends_of_ofDefinition made with
      | anonymous unnamed => simp [SourceDefinition.name?, unnamed] at named
      | notExecutable => cases named
  · rintro ⟨document, made⟩
    rw [(of_ofDefinition made).2.1]
    rfl

theorem map_origin_of_collect {source : SourceText} {documents : List Document}
    (made : collect source.text source.file = .ok documents) :
    documents.map origin = source.definitions.map (source.file, ·) := by
  obtain ⟨definitions, read, each⟩ := collect_eq_ok_iff.1 made
  rw [SourceText.definitions, read]
  clear made read
  induction each with
  | nil => rfl
  | cons first _ ih => rw [List.map_cons, List.map_cons, (of_ofDefinition first).1, ih]

end Document

namespace SourceText

variable {source : SourceText} {sources : List SourceText}

theorem isSound_iff : source.IsSound ↔
    ∃ documents, Document.collect source.text source.file = .ok documents := by
  constructor
  · rintro ⟨⟨definitions, read⟩, named⟩
    have each : ∀ definition ∈ definitions,
        ∃ document, Document.ofDefinition source.file definition = .ok document := by
      intro definition member
      apply Document.isSome_name?_iff.1
      apply named
      rwa [SourceText.definitions, read]
    cases made : definitions.mapM (Document.ofDefinition source.file) with
    | ok documents =>
      exact ⟨documents, Document.collect_eq_ok_iff.2 ⟨_, read, mapM_eq_ok_iff.1 made⟩⟩
    | error fault =>
      obtain ⟨definition, member, failed⟩ := exists_of_mapM_eq_error made
      obtain ⟨document, sound⟩ := each definition member
      cases failed.symm.trans sound
  · rintro ⟨documents, made⟩
    obtain ⟨definitions, read, each⟩ := Document.collect_eq_ok_iff.1 made
    refine ⟨⟨definitions, read⟩, fun definition member => ?_⟩
    rw [SourceText.definitions, read] at member
    obtain ⟨index, inRange, rfl⟩ := List.getElem_of_mem member
    exact Document.isSome_name?_iff.2 ⟨_, each.get inRange (each.length_eq ▸ inRange)⟩

theorem exists_offends {error : CollectionError}
    (failed : Document.collect source.text source.file = .error error) :
    ∃ fault, error = ⟨fault, source.file⟩ ∧ source.Offends fault := by
  rw [Document.collect] at failed
  cases read : parseSource source.text with
  | error broken =>
    simp only [read] at failed
    cases failed
    exact ⟨_, rfl, .unreadable read⟩
  | ok definitions =>
    cases each : definitions.mapM (Document.ofDefinition source.file) with
    | ok documents => simp only [read, each, reduceCtorEq] at failed
    | error fault =>
      simp only [read, each] at failed
      cases failed
      obtain ⟨before, definition, after, rfl, made, broken⟩ := exists_first_of_mapM_eq_error each
      refine ⟨fault, rfl, .definition read (fun other member => ?_)
        (Document.offends_of_ofDefinition broken)⟩
      exact Document.isSome_name?_iff.2 (made other member)

variable {collections : List (List Document)}

theorem map_origin_flatten (each : List.Forall₂
    (fun source found => Document.collect source.text source.file = .ok found) sources
      collections) : collections.flatten.map Document.origin = origins sources := by
  induction each with
  | nil => rfl
  | cons first _ ih =>
    rw [List.flatten_cons, List.map_append, Document.map_origin_of_collect first, ih]
    rfl

theorem isCollected_flatten (each : List.Forall₂
    (fun source found => Document.collect source.text source.file = .ok found) sources
      collections) : ∀ document ∈ collections.flatten, document.IsCollected := by
  induction each with
  | nil => exact List.forall_mem_nil _
  | cons first _ ih =>
    exact List.forall_mem_append.2 ⟨Document.isCollected_of_collect first, ih⟩

theorem exists_forall₂_collect (sound : ∀ source ∈ sources, source.IsSound) :
    ∃ collections, List.Forall₂
      (fun source found => Document.collect source.text source.file = .ok found) sources
        collections := by
  induction sources with
  | nil => exact ⟨[], .nil⟩
  | cons source rest ih =>
    obtain ⟨here, others⟩ := List.forall_mem_cons.1 sound
    obtain ⟨documents, made⟩ := isSound_iff.1 here
    obtain ⟨collections, each⟩ := ih others
    exact ⟨documents :: collections, .cons made each⟩

theorem isSound_of_forall₂ (each : List.Forall₂
    (fun source found => Document.collect source.text source.file = .ok found) sources
      collections) : ∀ source ∈ sources, source.IsSound := by
  induction each with
  | nil => exact List.forall_mem_nil _
  | cons first _ ih => exact List.forall_mem_cons.2 ⟨isSound_iff.2 ⟨_, first⟩, ih⟩

end SourceText

theorem Document.map_name?_origin {documents : List Document}
    (collected : ∀ document ∈ documents, document.IsCollected) :
    (documents.map origin).map (·.2.name?) = (documents.map name).map some := by
  rw [List.map_map, List.map_map]
  apply List.map_congr_left
  intro document member
  exact (collected document member).name?_origin

namespace Store

variable {store start : Store} {sources : List SourceText} {documents seen : List Document}
  {duplicate : DuplicateName} {error : GatheringError}

theorem exists_first_of_insert_eq_error
    (entries : store.entries = seen.map fun document => ⟨document.name, document⟩)
    {document : Document} (failed : store.insert document = .error duplicate) :
    ∃ first ∈ seen, first.name = document.name ∧
      duplicate = ⟨document.name, first.sourceFile, document.sourceFile⟩ := by
  rw [insert] at failed
  split at failed
  · next first taken =>
    cases failed
    have held := mem_of_get? taken
    rw [entries] at held
    obtain ⟨other, member, same⟩ := List.mem_map.1 held
    simp only [Entry.mk.injEq] at same
    obtain ⟨named, rfl⟩ := same
    exact ⟨_, member, named, rfl⟩
  · cases failed

/-- Documents that cannot all be put into a store have a first one whose name is taken by then. -/
theorem exists_again_of_foldlM_insert_eq_error
    (entries : start.entries = seen.map fun document => ⟨document.name, document⟩)
    (failed : documents.foldlM insert start = .error duplicate) :
    ∃ middle again back, documents = middle ++ again :: back ∧
      ((seen ++ middle).map Document.name).Nodup ∧
      ∃ first ∈ seen ++ middle, first.name = again.name ∧
        duplicate = ⟨again.name, first.sourceFile, again.sourceFile⟩ := by
  induction documents generalizing start seen with
  | nil => cases failed
  | cons document rest ih =>
    rw [List.foldlM_cons] at failed
    cases inserted : start.insert document with
    | error fault =>
      rw [inserted] at failed
      cases failed
      obtain ⟨first, member, same, told⟩ := exists_first_of_insert_eq_error entries inserted
      refine ⟨[], document, rest, rfl, ?_, first, List.mem_append_left _ member, same, told⟩
      have distinct := start.nodup_keys
      rw [entries, List.map_map] at distinct
      rw [List.append_nil]
      exact distinct
    | ok next =>
      rw [inserted] at failed
      have grown : next.entries =
          (seen ++ [document]).map fun document => ⟨document.name, document⟩ := by
        rw [entries_of_insert inserted, entries, List.map_append]
        rfl
      obtain ⟨middle, again, back, rfl, distinct, first, member, told⟩ := ih grown failed
      rw [List.append_assoc] at distinct member
      exact ⟨document :: middle, again, back, rfl, distinct, first, member, told⟩

theorem exists_again_of_ofDocuments_eq_error (failed : ofDocuments documents = .error duplicate) :
    ∃ front first middle again back, documents = front ++ first :: (middle ++ again :: back) ∧
      ((front ++ first :: middle).map Document.name).Nodup ∧ first.name = again.name ∧
      duplicate = ⟨again.name, first.sourceFile, again.sourceFile⟩ := by
  have entries : empty.entries = ([] : List Document).map fun document => ⟨document.name, document⟩ :=
    rfl
  obtain ⟨before, again, back, rfl, distinct, first, member, same, told⟩ :=
    exists_again_of_foldlM_insert_eq_error entries failed
  obtain ⟨front, middle, rfl⟩ := List.append_of_mem member
  refine ⟨front, first, middle, again, back, ?_, distinct, same, told⟩
  rw [List.append_assoc, List.cons_append]

theorem ofSources_eq_ok_iff : ofSources sources = .ok store ↔ ∃ collections,
    List.Forall₂ (fun source found => Document.collect source.text source.file = .ok found) sources
      collections ∧ ofDocuments collections.flatten = .ok store := by
  simp only [← mapM_eq_ok_iff]
  rw [ofSources]
  cases sources.mapM fun source => Document.collect source.text source.file with
  | error fault => exact ⟨nofun, nofun⟩
  | ok collections =>
    constructor
    · intro made
      exact ⟨collections, rfl, mapError_eq_ok_iff.1 made⟩
    · rintro ⟨_, each, made⟩
      cases each
      exact mapError_eq_ok_iff.2 made

theorem cases_of_ofSources_eq_error (failed : ofSources sources = .error error) :
    (∃ fault, error = .collection fault ∧
      (sources.mapM fun source => Document.collect source.text source.file) = .error fault) ∨
    ∃ collections duplicate, error = .duplicateName duplicate ∧
      List.Forall₂ (fun source found => Document.collect source.text source.file = .ok found)
        sources collections ∧
      ofDocuments collections.flatten = .error duplicate := by
  rw [ofSources] at failed
  cases each : sources.mapM fun source => Document.collect source.text source.file with
  | error fault =>
    rw [each] at failed
    cases failed
    exact .inl ⟨fault, rfl, rfl⟩
  | ok collections =>
    rw [each] at failed
    obtain ⟨duplicate, told, clash⟩ := mapError_eq_error_iff.1 failed
    exact .inr ⟨collections, duplicate, told, mapM_eq_ok_iff.1 each, clash⟩

theorem gathers_of_ofSources (made : ofSources sources = .ok store) : store.Gathers sources := by
  obtain ⟨collections, each, made⟩ := ofSources_eq_ok_iff.1 made
  have entries := entries_of_ofDocuments made
  have collected := isCollected_of_entries (SourceText.isCollected_flatten each) entries
  constructor
  · rw [documents_of_entries entries]
    exact SourceText.map_origin_flatten each
  · rw [documents_of_entries entries, keys, entries, List.map_map]
    rfl
  · intro document member
    exact (collected.of_mem_documents member).name?_origin
  · intro document member
    exact (collected.of_mem_documents member).kind_eq
  · intro name
    exact ⟨_, collected.fragment?_eq name⟩

theorem exists_ofSources_iff : (∃ store, ofSources sources = .ok store) ↔
    (∀ source ∈ sources, source.IsSound) ∧
      ((SourceText.origins sources).map (·.2.name?)).Nodup := by
  constructor
  · rintro ⟨store, made⟩
    obtain ⟨collections, each, made⟩ := ofSources_eq_ok_iff.1 made
    refine ⟨SourceText.isSound_of_forall₂ each, ?_⟩
    have distinct := store.nodup_keys
    rw [entries_of_ofDocuments made, List.map_map] at distinct
    rw [← SourceText.map_origin_flatten each,
      Document.map_name?_origin (SourceText.isCollected_flatten each)]
    exact distinct.map fun _ _ => Option.some.inj
  · rintro ⟨sound, distinct⟩
    obtain ⟨collections, each⟩ := SourceText.exists_forall₂_collect sound
    rw [← SourceText.map_origin_flatten each,
      Document.map_name?_origin (SourceText.isCollected_flatten each)] at distinct
    obtain ⟨store, made, _⟩ := ofDocuments_of_nodup distinct.of_map
    exact ⟨store, ofSources_eq_ok_iff.2 ⟨collections, each, made⟩⟩

theorem isFirst_of_ofSources (failed : ofSources sources = .error error) :
    error.IsFirst sources := by
  obtain ⟨error, rfl, uncollected⟩ | ⟨collections, duplicate, rfl, each, clash⟩ :=
    cases_of_ofSources_eq_error failed
  · obtain ⟨before, source, after, split, sound, broken⟩ :=
      exists_first_of_mapM_eq_error uncollected
    obtain ⟨fault, rfl, offends⟩ := SourceText.exists_offends broken
    exact .collection split (fun other member => SourceText.isSound_iff.2 (sound other member))
      offends
  · have collected := SourceText.isCollected_flatten each
    have origins := SourceText.map_origin_flatten each
    obtain ⟨front, first, middle, again, back, split, distinct, same, rfl⟩ :=
      exists_again_of_ofDocuments_eq_error clash
    rw [split] at collected origins
    have bearer : first.IsCollected := collected first (by simp)
    have repeater : again.IsCollected := collected again (by simp)
    have seen : ∀ document ∈ front ++ first :: middle, document.IsCollected := by
      intro document member
      apply collected
      rw [← List.cons_append, ← List.append_assoc]
      exact List.mem_append_left _ member
    have borne : first.origin.2.name? = some again.name := by
      rw [bearer.name?_origin, same]
    have apart : (((front ++ first :: middle).map Document.origin).map (·.2.name?)).Nodup := by
      rw [Document.map_name?_origin seen]
      exact distinct.map fun _ _ => Option.some.inj
    rw [List.map_append, List.map_cons] at apart origins
    rw [List.map_append, List.map_cons] at origins
    exact .duplicateName (SourceText.isSound_of_forall₂ each) origins.symm apart borne
      repeater.name?_origin

/-- Source texts make a store exactly if all of them are sound and no name is borne twice. The store
then has just what the texts define, and otherwise the error is that of the first offence. -/
theorem ofSources_gathers (sources : List SourceText) :
    ((∃ store, ofSources sources = .ok store) ↔
      (∀ source ∈ sources, source.IsSound) ∧
        ((SourceText.origins sources).map (·.2.name?)).Nodup) ∧
    (∀ store, ofSources sources = .ok store → store.Gathers sources) ∧
    ∀ error, ofSources sources = .error error → error.IsFirst sources :=
  ⟨exists_ofSources_iff, fun _ => gathers_of_ofSources, fun _ => isFirst_of_ofSources⟩

/-- A name that comes again goes unnoticed as long as some text gives no documents. -/
example :
    let page (file : String) : SourceText := ⟨"query Page { node }", file⟩
    ofSources [page "first", page "second", page "third"] =
        .error (.duplicateName ⟨"Page", "first", "second"⟩) ∧
      ofSources [page "first", page "second", ⟨"mutation { save }", "third"⟩] =
        .error (.collection ⟨.anonymous .mutation, "third"⟩) :=
  ⟨rfl, rfl⟩

end Store

end DocumentNormalizer
