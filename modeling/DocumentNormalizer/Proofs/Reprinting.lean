import DocumentNormalizer.Proofs.Locality
import DocumentNormalizer.Proofs.Parsing
import DocumentNormalizer.Proofs.Reliance
import DocumentNormalizer.Proofs.Verdict
import Mathlib

namespace DocumentNormalizer

namespace Selection

theorem field?_unplaced (given : Selection) :
    given.unplaced.field? = given.field?.map Field.unplaced := by
  cases given <;> rfl

theorem selects_unplaced (name : String) (given : Selection) :
    given.unplaced.selects name = given.selects name := by
  rw [selects, field?_unplaced, selects]
  cases given.field? <;> rfl

theorem isTypedInline_unplaced (given : Selection) :
    given.unplaced.isTypedInline = given.isTypedInline := by
  cases given <;> rfl

mutual

theorem spreads_unplaced (given : Selection) :
    given.unplaced.spreads.map Spread.name = given.spreads.map Spread.name := by
  cases given with
  | leaf field => rfl
  | branch field position inner => rw [unplaced, spreads, spreadsOfAll_unplaced, spreads]
  | inline fragment position inner => rw [unplaced, spreads, spreadsOfAll_unplaced, spreads]
  | spread use => rfl

theorem spreadsOfAll_unplaced (given : List Selection) :
    (spreadsOfAll (unplacedAll given)).map Spread.name = (spreadsOfAll given).map Spread.name := by
  cases given with
  | nil => rfl
  | cons head rest =>
    rw [unplacedAll, spreadsOfAll, List.map_append, spreads_unplaced, spreadsOfAll_unplaced,
      spreadsOfAll, List.map_append]

end

end Selection

namespace SelectionSet

theorem selects_unplaced (name : String) (set : SelectionSet) :
    set.unplaced.selects name = set.selects name := by
  rw [selects, unplaced, Selection.unplacedAll_eq_map, List.any_map, selects]
  exact congrArg _ (funext (Selection.selects_unplaced name))

theorem hasTypedInline_unplaced (set : SelectionSet) :
    set.unplaced.hasTypedInline = set.hasTypedInline := by
  rw [hasTypedInline, unplaced, Selection.unplacedAll_eq_map, List.any_map, hasTypedInline]
  exact congrArg _ (funext Selection.isTypedInline_unplaced)

end SelectionSet

namespace Local

variable {schema : Schema} {keys : List String}

theorem names_unplaced (type : NamedType) (inlineBody : Bool) (set : SelectionSet) :
    names schema keys ⟨type, inlineBody, set.unplaced⟩ =
      names schema keys ⟨type, inlineBody, set⟩ := by
  have missing : KeyFields.missing keys set.unplaced = KeyFields.missing keys set := by
    simp only [KeyFields.missing, SelectionSet.selects_unplaced]
  simp only [names, keyNames, missing, SelectionSet.selects_unplaced,
    SelectionSet.hasTypedInline_unplaced]

theorem unplacedAll_append_bare (given : List Selection) (added : List String) :
    Selection.unplacedAll given ++ added.map .bare =
      Selection.unplacedAll (given ++ added.map .bare) := by
  have bare : added.map (Selection.unplaced ∘ .bare) = added.map .bare := rfl
  rw [Selection.unplacedAll_eq_map, Selection.unplacedAll_eq_map, List.map_append, List.map_map,
    bare]

mutual

theorem selection_unplaced (type : NamedType) (given : Selection) :
    selection schema keys type given.unplaced = (selection schema keys type given).unplaced := by
  cases given with
  | leaf field => rfl
  | branch field position inner =>
    have added (type : NamedType) : names schema keys ⟨type, false, _⟩ = _ :=
      names_unplaced type false ⟨position, inner⟩
    rw [Selection.unplaced, selection, selections_unplaced, selection, Selection.unplaced,
      ← unplacedAll_append_bare, ← added]
    rfl
  | inline fragment position inner =>
    have added (type : NamedType) : names schema keys ⟨type, true, _⟩ = _ :=
      names_unplaced type true ⟨position, inner⟩
    rw [Selection.unplaced, selection, selections_unplaced, selection, Selection.unplaced,
      ← unplacedAll_append_bare, ← added]
    rfl
  | spread use => rfl

theorem selections_unplaced (type : NamedType) (given : List Selection) :
    selections schema keys type (Selection.unplacedAll given) =
      Selection.unplacedAll (selections schema keys type given) := by
  cases given with
  | nil => rfl
  | cons head rest =>
    rw [Selection.unplacedAll, selections, selection_unplaced, selections_unplaced, selections,
      Selection.unplacedAll]

end

theorem rootSet_unplaced (schema : Schema) (keys : List String) (type : NamedType)
    (set : SelectionSet) :
    (⟨none, selections schema keys type set.unplaced.selections ++
      (names schema keys ⟨type, false, set.unplaced⟩).map .bare⟩ : SelectionSet) =
      SelectionSet.unplaced ⟨set.position, selections schema keys type set.selections ++
        (names schema keys ⟨type, false, set⟩).map .bare⟩ := by
  rw [names_unplaced, SelectionSet.unplaced, SelectionSet.unplaced, ← unplacedAll_append_bare,
    ← selections_unplaced]

end Local

/-- A document as if it had not been read from anywhere. -/
def Document.unplaced (document : Document) : Document :=
  { document with definition := document.definition.unplaced, sourceFile := "" }

namespace Document

variable {schema : Schema} {first second : Document}

theorem text_unplaced (document : Document) : document.unplaced.text = document.text :=
  Printer.definition_unplaced document.definition

theorem typeCondition_unplaced (document : Document) :
    document.unplaced.definition.typeCondition = document.definition.typeCondition := by
  obtain ⟨name, kind, ⟨description, heading, directives, position, set⟩, file⟩ := document
  cases heading <;> rfl

theorem rootType?_unplaced (document : Document) :
    document.unplaced.rootType? schema = document.rootType? schema := by
  rw [rootType?, typeCondition_unplaced, rootType?]
  rfl

theorem isRooted_unplaced (document : Document) :
    document.unplaced.IsRooted schema ↔ document.IsRooted schema := by
  rw [IsRooted, rootType?_unplaced, IsRooted]
  rfl

theorem spreads_unplaced (document : Document) :
    document.unplaced.spreads.map Spread.name = document.spreads.map Spread.name :=
  Selection.spreadsOfAll_unplaced _

end Document

theorem Local.document_unplaced {schema : Schema} {keys : List String} (given : Document) :
    document schema keys given.unplaced = (document schema keys given).unplaced := by
  rw [document, Document.rootType?_unplaced, document]
  cases given.rootType? schema with
  | none => rfl
  | some type =>
    have root := rootSet_unplaced schema keys type given.definition.selectionSet
    exact congrArg (fun set => { given.unplaced with
      definition := { given.unplaced.definition with selectionSet := set } }) root

namespace Store

variable {first second : Store}

theorem IsCollected.map_unplaced_get?_eq_some_iff {store : Store} (collected : store.IsCollected)
    {name : String} {found : Document} :
    (store.get? name).map Document.unplaced = some found ↔
      found ∈ store.documents.map Document.unplaced ∧ found.name = name := by
  rw [Option.map_eq_some_iff, List.mem_map]
  constructor
  · rintro ⟨document, there, rfl⟩
    have named : document.name = name := collected.name_of_get? there
    exact ⟨⟨document, mem_documents_of_get? there, rfl⟩, named⟩
  · rintro ⟨⟨document, member, rfl⟩, rfl⟩
    exact ⟨document, Validation.get?_of_mem_documents collected member, rfl⟩

/-- Two stores hold the same documents, in whatever order and from whatever places. -/
def IsReprint (first second : Store) : Prop :=
  (first.documents.map Document.unplaced).Perm (second.documents.map Document.unplaced)

namespace IsReprint

variable {schema : Schema} (same : first.IsReprint second)

include same

theorem get? (collected : first.IsCollected) (others : second.IsCollected) (name : String) :
    (first.get? name).map Document.unplaced = (second.get? name).map Document.unplaced := by
  apply Option.ext
  intro found
  rw [collected.map_unplaced_get?_eq_some_iff, others.map_unplaced_get?_eq_some_iff,
    List.Perm.mem_iff same]

theorem text (collected : first.IsCollected) (others : second.IsCollected) (name : String) :
    (first.get? name).map Document.text = (second.get? name).map Document.text := by
  have each (found : Option Document) :
      found.map Document.text = (found.map Document.unplaced).map Document.text := by
    cases found with
    | none => rfl
    | some document => exact congrArg some document.text_unplaced.symm
  rw [each, same.get? collected others, ← each]

theorem condition? (collected : first.IsCollected) (others : second.IsCollected) (name : String) :
    first.condition? name = second.condition? name := by
  have each (store : Store) : store.condition? name =
      (store.get? name).map Document.unplaced >>= fun document =>
        document.definition.typeCondition := by
    rw [Store.condition?]
    cases store.get? name with
    | none => rfl
    | some document => exact (Document.typeCondition_unplaced document).symm
  rw [each, each, same.get? collected others]

theorem spreads (collected : first.IsCollected) (others : second.IsCollected) :
    first.Spreads = second.Spreads := by
  have each (store : Store) (name next : String) : store.Spreads name next ↔
      ∃ document, (store.get? name).map Document.unplaced = some document ∧
        document.kind.isFragment = true ∧ next ∈ document.spreads.map Spread.name := by
    simp only [Store.Spreads, Option.map_eq_some_iff, exists_exists_and_eq_and,
      Document.spreads_unplaced]
    rfl
  funext name next
  rw [each, each, same.get? collected others]

theorem exists_like {document : Document} (member : document ∈ second.documents) :
    ∃ like ∈ first.documents, like.unplaced = document.unplaced :=
  List.mem_map.1 (List.Perm.mem_iff same |>.2 (List.mem_map_of_mem member))

theorem isValid (collected : first.IsCollected) (others : second.IsCollected)
    (valid : first.IsValid schema) : second.IsValid schema where
  rooted document member := by
    obtain ⟨like, there, alike⟩ := same.exists_like member
    rw [← document.isRooted_unplaced, ← alike, like.isRooted_unplaced]
    exact valid.rooted like there
  resolved document member use given := by
    obtain ⟨like, there, alike⟩ := same.exists_like member
    have named : use.name ∈ like.spreads.map Spread.name := by
      rw [← like.spreads_unplaced, alike, document.spreads_unplaced]
      exact List.mem_map_of_mem given
    obtain ⟨other, spread, sameName⟩ := List.mem_map.1 named
    rw [← same.condition? collected others, ← sameName]
    exact valid.resolved like there other spread
  acyclic := same.spreads collected others ▸ valid.acyclic

end IsReprint

end Store

/-- A compile of valid documents rewrites each of them and leaves them valid. -/
structure Run.IsRewriting (schema : Schema) (keys : List String) (store : Store) (run : Run) :
    Prop where
  ok : run.ok = true
  collected : run.store.IsCollected
  valid : run.store.IsValid schema
  documents : run.store.documents = store.documents.map (Local.document schema keys)

theorem Run.isRewriting_of_isValid {schema : Schema} {store : Store} (keys : List String)
    (collected : store.IsCollected) (valid : store.IsValid schema) :
    IsRewriting schema keys store (ofPasses schema store (Pass.defaults keys)) := by
  have advisory := (Validation.anyFatal_findings_iff collected).2 valid
  obtain ⟨whole, quiet⟩ := ofPasses_quiet collected advisory (Pass.isStandard_defaults keys)
  have result := (ofPasses_defaults keys collected advisory).1
  have grown : (store.supply (Local.storeNames schema keys store)).IsCollected := collected.grow _
  refine ⟨by rw [ok, whole, quiet]; rfl, by rwa [result], ?_, ?_⟩
  · rw [result, ← Validation.anyFatal_findings_iff grown, Store.supply, Validation.findings_grow]
    exact advisory
  · rw [result]
    exact Local.documents_supply (Validation.isSound_of_findings collected advisory)

theorem Store.IsReprint.ofPasses {schema : Schema} {first second : Store}
    (same : first.IsReprint second) (keys : List String) (collected : first.IsCollected)
    (others : second.IsCollected) (valid : first.IsValid schema) :
    (Run.ofPasses schema first (Pass.defaults keys)).store.IsReprint
      (Run.ofPasses schema second (Pass.defaults keys)).store := by
  have each (documents : List Document) :
      (documents.map (Local.document schema keys)).map Document.unplaced =
        (documents.map Document.unplaced).map (Local.document schema keys) := by
    rw [List.map_map, List.map_map]
    exact List.map_congr_left fun document _ => (Local.document_unplaced document).symm
  have validToo := same.isValid collected others valid
  rw [IsReprint, (Run.isRewriting_of_isValid keys collected valid).documents,
    (Run.isRewriting_of_isValid keys others validToo).documents, each, each]
  exact List.Perm.map _ same

namespace Document

/-- The printed definition is read as the same definition, at other places. -/
def ReadsBack (document : Document) : Prop :=
  ∃ again, parseSource document.text = .ok [.executable again] ∧
    again.unplaced = document.definition.unplaced

theorem IsCollected.ofDefinition {document : Document} (collected : document.IsCollected)
    {twin : Definition} (same : twin.unplaced = document.definition.unplaced)
    (sourceFile : String) :
    Document.ofDefinition sourceFile (.executable twin) =
      .ok ⟨document.name, document.kind, twin, sourceFile⟩ := by
  obtain ⟨file, ⟨description, heading, directives, position, set⟩, made⟩ := collected
  obtain ⟨otherDescription, otherHeading, others, place, otherSet⟩ := twin
  cases heading with
  | operation kind name declared =>
    cases name with
    | none => cases made
    | some name =>
      cases made
      cases otherHeading with
      | operation =>
        obtain ⟨rfl, rfl, _⟩ := Heading.operation.inj (congrArg Definition.heading same)
        rfl
      | fragment => cases congrArg Definition.heading same
  | fragment name condition =>
    cases made
    cases otherHeading with
    | operation => cases congrArg Definition.heading same
    | fragment => cases congrArg Definition.heading same; rfl

/-- A text with a line end behind it gives the document again. -/
theorem collect_text {document : Document} (collected : document.IsCollected)
    (back : document.ReadsBack) (sourceFile : String) :
    ∃ twin, collect (document.text ++ "\n") sourceFile = .ok [twin] ∧
      twin.unplaced = document.unplaced := by
  obtain ⟨again, read, same⟩ := back
  have alone : parseSource document.text = .ok ([again].map .executable) := read
  obtain ⟨twins, readToo, alike⟩ := parseSource_extend alone
  obtain ⟨twin, _, sameToo, none, rfl⟩ := List.forall₂_cons_left_iff.1 alike
  cases none
  have same := sameToo.same.symm.trans same
  refine ⟨⟨document.name, document.kind, twin, sourceFile⟩, ?_, ?_⟩
  · have made := collected.ofDefinition same sourceFile
    exact collect_eq_ok_iff.2 ⟨_, readToo, .cons made .nil⟩
  · rw [unplaced, unplaced, same]

theorem mapM_collect_text {sources : List (Document × String)}
    (collected : ∀ source ∈ sources, source.1.IsCollected)
    (back : ∀ source ∈ sources, source.1.ReadsBack) :
    ∃ twins : List Document, sources.mapM (fun source => collect (source.1.text ++ "\n") source.2) =
        .ok (twins.map ([·])) ∧
      twins.map unplaced = (sources.map Prod.fst).map unplaced ∧
      ∀ twin ∈ twins, twin.IsCollected := by
  induction sources with
  | nil => exact ⟨[], rfl, rfl, fun _ member => nomatch member⟩
  | cons source rest ih =>
    obtain ⟨own, others⟩ := List.forall_mem_cons.1 collected
    obtain ⟨ownBack, othersBack⟩ := List.forall_mem_cons.1 back
    obtain ⟨twin, read, same⟩ := collect_text own ownBack source.2
    obtain ⟨twins, readToo, sameToo, kept⟩ := ih others othersBack
    refine ⟨twin :: twins, ?_, List.cons_eq_cons.2 ⟨same, sameToo⟩, ?_⟩
    · rw [List.mapM_cons, read, readToo]
      rfl
    · have first := isCollected_of_collect read
      exact List.forall_mem_cons.2 ⟨first twin List.mem_cons_self, kept⟩

end Document

/-- Compiled texts compile to themselves: collected again in any order, they give the same
texts. -/
theorem compileDocuments_texts {schema : Schema} {keys : List String} {documents : List Document}
    {run : Run} (collected : ∀ document ∈ documents, document.IsCollected)
    (compiled : compileDocuments schema documents (Pass.defaults keys) = .ok run)
    (whole : run.ok = true) (back : ∀ document ∈ run.store.documents, document.ReadsBack)
    {sources : List (Document × String)}
    (each : (sources.map Prod.fst).Perm run.store.documents) :
    ∃ collections later,
      sources.mapM (fun source => Document.collect (source.1.text ++ "\n") source.2) =
        .ok collections ∧
      compileDocuments schema collections.flatten (Pass.defaults keys) = .ok later ∧
      later.ok = true ∧
      ∀ name, (later.store.get? name).map Document.text =
        (run.store.get? name).map Document.text := by
  obtain ⟨store, kept, _, rfl⟩ := exists_store_of_compileDocuments collected compiled
  have valid := (Validation.anyFatal_findings_iff kept).1 (Run.valid_of_ok kept whole)
  have first := Run.isRewriting_of_isValid keys kept valid
  have among (source) (member : source ∈ sources) :=
    each.mem_iff.1 (List.mem_map_of_mem (f := Prod.fst) member)
  obtain ⟨twins, read, same, twinsCollected⟩ := Document.mapM_collect_text
    (fun source member => first.collected.of_mem_documents (among source member))
    (fun source member => back source.1 (among source member))
  have alike : (twins.map Document.unplaced).Perm
      ((Run.ofPasses schema store (Pass.defaults keys)).store.documents.map Document.unplaced) :=
    same ▸ each.map _
  have distinct : (twins.map Document.name).Nodup := by
    have names := alike.map Document.name
    rw [List.map_map, List.map_map] at names
    exact names.nodup_iff.2 first.collected.nodup_names
  obtain ⟨reprint, madeToo, entries⟩ := Store.ofDocuments_of_nodup distinct
  have keptToo := Store.isCollected_of_entries twinsCollected entries
  have isReprint : (Run.ofPasses schema store (Pass.defaults keys)).store.IsReprint reprint := by
    rw [Store.IsReprint, Store.documents_of_entries entries]
    exact alike.symm
  -- The passes have nothing left to do on what they made, wherever it stands by now.
  have second := Run.isRewriting_of_isValid keys keptToo
    (isReprint.isValid first.collected keptToo first.valid)
  refine ⟨_, _, read, ?_, second.ok, ?_⟩
  · rw [← List.flatMap_def, List.flatMap_singleton', compileDocuments, madeToo]
    rfl
  · have settled := isReprint.ofPasses keys first.collected keptToo first.valid
    rw [(Run.ofPasses_ofPasses schema kept (Pass.isStandard_defaults keys)).2] at settled
    exact fun name => (settled.text first.collected second.collected name).symm

namespace Sample

theorem readsBack_info : (Local.document schema ["id"] info).ReadsBack :=
  ⟨⟨none, .fragment "Info" "Node", [], some ⟨1, 1⟩, ⟨some ⟨1, 23⟩,
    [.leaf ⟨none, "id", [], [], some ⟨2, 3⟩⟩]⟩⟩, by cbv, by cbv⟩

theorem readsBack_page : (Local.document schema ["id"] page).ReadsBack :=
  ⟨⟨none, .operation .query (some "Page") [], [], some ⟨1, 1⟩, ⟨some ⟨1, 12⟩,
    [.branch ⟨none, "node", [], [], some ⟨2, 3⟩⟩ (some ⟨2, 8⟩)
      [.inline ⟨some "User", [], some ⟨3, 5⟩⟩ (some ⟨3, 17⟩)
          [.leaf ⟨none, "id", [], [], some ⟨4, 7⟩⟩],
        .spread ⟨"Info", [], some ⟨6, 5⟩⟩, .leaf ⟨none, "id", [], [], some ⟨7, 5⟩⟩,
        .leaf ⟨none, "__typename", [], [], some ⟨8, 5⟩⟩]]⟩⟩, by cbv, by cbv⟩

end Sample

theorem compileDocuments_texts_sample :
    let run := Run.ofPasses Sample.schema Sample.store (Pass.defaults ["id"])
    let sources := [(Local.document Sample.schema ["id"] Sample.info, ""),
      (Local.document Sample.schema ["id"] Sample.page, "compiled.graphql")]
    (∀ document ∈ [Sample.page, Sample.info], document.IsCollected) ∧
    compileDocuments Sample.schema [Sample.page, Sample.info] (Pass.defaults ["id"]) = .ok run ∧
    run.ok = true ∧
    (∀ document ∈ run.store.documents, document.ReadsBack) ∧
    (sources.map Prod.fst).Perm run.store.documents ∧
    ∃ collections later,
      sources.mapM (fun source => Document.collect (source.1.text ++ "\n") source.2) =
        .ok collections ∧
      compileDocuments Sample.schema collections.flatten (Pass.defaults ["id"]) = .ok later ∧
      later.ok = true ∧
      ∀ name, (later.store.get? name).map Document.text =
        (run.store.get? name).map Document.text := by
  intro run sources
  have collected : ∀ document ∈ [Sample.page, Sample.info], document.IsCollected :=
    List.forall_mem_cons.2 ⟨Sample.isCollected_page,
      List.forall_mem_singleton.2 Sample.isCollected_info⟩
  have compiled : compileDocuments Sample.schema [Sample.page, Sample.info]
      (Pass.defaults ["id"]) = .ok run := rfl
  have whole : run.ok = true := by decide +kernel
  have documents : run.store.documents = [Local.document Sample.schema ["id"] Sample.page,
      Local.document Sample.schema ["id"] Sample.info] := by
    have valid := Run.valid_of_ok Sample.isCollected whole
    exact (Run.isRewriting_of_isValid ["id"] Sample.isCollected
      ((Validation.anyFatal_findings_iff Sample.isCollected).1 valid)).documents
  have back : ∀ document ∈ run.store.documents, document.ReadsBack := by
    rw [documents]
    exact List.forall_mem_cons.2 ⟨Sample.readsBack_page,
      List.forall_mem_singleton.2 Sample.readsBack_info⟩
  have each : (sources.map Prod.fst).Perm run.store.documents := by
    rw [documents]
    exact .swap _ _ _
  exact ⟨collected, compiled, whole, back, each,
    compileDocuments_texts collected compiled whole back each⟩

end DocumentNormalizer
