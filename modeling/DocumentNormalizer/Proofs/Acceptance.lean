import DocumentNormalizer.Proofs.Verdict

namespace DocumentNormalizer

open Relation (TransGen)

/-- A spread where it stands: with an index, in the set at a place. -/
structure Occurrence where
  place : Place
  index : Nat
  use : Spread

namespace Store

/-- A spread stands somewhere in the documents. -/
def Has (store : Store) (occurrence : Occurrence) : Prop :=
  ∃ set, store.set? occurrence.place = some set ∧
    set.selections[occurrence.index]? = some (.spread occurrence.use)

def HasFragment (store : Store) (name : String) : Prop :=
  ∃ document, store.get? name = some document ∧ document.kind = .fragment

/-- A spread of a name stands somewhere in a fragment. -/
def Embeds (store : Store) (name next : String) : Prop :=
  store.HasFragment name ∧
    ∃ occurrence, store.Has occurrence ∧ occurrence.place.key = name ∧ occurrence.use.name = next

/-- Documents as validation asks for them. -/
structure IsWellFormed (schema : Schema) (store : Store) : Prop where
  operations : ∀ key document kind, store.get? key = some document →
    document.kind = .operation kind → ∃ type, schema.rootType? kind = some type
  fragments : ∀ key document condition, store.get? key = some document →
    document.definition.typeCondition = some condition →
    ∃ type, schema.type? condition = some type ∧
      (type.kind = .object ∨ type.kind = .interface ∨ type.kind = .union)
  spreads : ∀ occurrence, store.Has occurrence → store.HasFragment occurrence.use.name
  acyclic : ∀ name, ¬TransGen store.Embeds name name

end Store

def Occurrence.report (occurrence : Occurrence) : Diagnostic :=
  .unsigned (.unknownFragment occurrence.use.name) occurrence.place.key
    ⟨[], occurrence.use.position⟩

def Document.unusedReport (document : Document) : Diagnostic :=
  .unsigned (.unusedFragment document.name) document.name document.location

def Issue.isUnknownFragment : Issue → Bool
  | .unknownFragment _ => true
  | _ => false

def Issue.isUnusedFragment : Issue → Bool
  | .unusedFragment _ => true
  | _ => false

namespace Selection

mutual

/-- The spreads below the selection with an index, each with the way to its set and its index
there. -/
def sites (index : Nat) : Selection → List (List Nat × Nat × Spread)
  | .leaf _ => []
  | .branch _ _ selections | .inline _ _ selections =>
    (sitesFrom 0 selections).map fun (path, i, use) => (index :: path, i, use)
  | .spread use => [([], index, use)]

/-- The same for the selections of a set, the first of them with an index. -/
def sitesFrom (index : Nat) : List Selection → List (List Nat × Nat × Spread)
  | [] => []
  | head :: rest => head.sites index ++ sitesFrom (index + 1) rest

end

mutual

theorem map_sites (index : Nat) (selection : Selection) :
    (selection.sites index).map (·.2.2) = selection.spreads := by
  cases selection with
  | leaf => rfl
  | branch field position selections =>
    rw [sites, List.map_map, spreads, ← map_sitesFrom 0 selections]
    rfl
  | inline fragment position selections =>
    rw [sites, List.map_map, spreads, ← map_sitesFrom 0 selections]
    rfl
  | spread => rfl

theorem map_sitesFrom (index : Nat) (selections : List Selection) :
    (sitesFrom index selections).map (·.2.2) = spreadsOfAll selections := by
  cases selections with
  | nil => rfl
  | cons head rest => rw [sitesFrom, List.map_append, map_sites, map_sitesFrom, spreadsOfAll]

end

theorem mem_sites {selection : Selection} {index i : Nat} {path : List Nat} {use : Spread} :
    (path, i, use) ∈ selection.sites index ↔
      (selection = .spread use ∧ path = [] ∧ i = index) ∨
        ∃ inner rest, selection.set? = some inner ∧ path = index :: rest ∧
          (rest, i, use) ∈ sitesFrom 0 inner.selections := by
  cases selection with
  | leaf => simp [sites, set?]
  | branch field position selections => simp [sites, set?, and_comm, eq_comm]
  | inline fragment position selections => simp [sites, set?, and_comm, eq_comm]
  | spread other =>
    simp only [sites, List.mem_singleton, Prod.mk.injEq, set?, spread.injEq, reduceCtorEq,
      false_and, exists_false, or_false]
    constructor
    · rintro ⟨rfl, rfl, rfl⟩
      exact ⟨rfl, rfl, rfl⟩
    · rintro ⟨rfl, rfl, rfl⟩
      exact ⟨rfl, rfl, rfl⟩

theorem mem_sitesFrom {selections : List Selection} {index : Nat}
    {site : List Nat × Nat × Spread} :
    site ∈ sitesFrom index selections ↔
      ∃ (k : Nat) (selection : Selection), selections[k]? = some selection ∧
        site ∈ selection.sites (index + k) := by
  induction selections generalizing index with
  | nil => simp [sitesFrom]
  | cons head rest ih =>
    rw [sitesFrom, List.mem_append, ih]
    constructor
    · rintro (first | ⟨k, selection, chosen, member⟩)
      · exact ⟨0, head, rfl, first⟩
      · rw [Nat.add_right_comm, Nat.add_assoc] at member
        exact ⟨k + 1, selection, chosen, member⟩
    · rintro ⟨k, selection, chosen, member⟩
      cases k with
      | zero => cases chosen; exact .inl member
      | succ k =>
        rw [← Nat.add_assoc, Nat.add_right_comm] at member
        exact .inr ⟨k, selection, chosen, member⟩

/-- The first index on the way to a spread. -/
def lead (site : List Nat × Nat × Spread) : Nat := site.1.headD site.2.1

theorem lead_of_mem_sites {selection : Selection} {index : Nat} {site : List Nat × Nat × Spread}
    (member : site ∈ selection.sites index) : lead site = index := by
  obtain ⟨path, i, use⟩ := site
  obtain ⟨_, rfl, rfl⟩ | ⟨_, rest, _, rfl, _⟩ := mem_sites.1 member
  · rfl
  · rfl

mutual

theorem nodup_sites (index : Nat) (selection : Selection) : (selection.sites index).Nodup := by
  have longer : Function.Injective
      fun site : List Nat × Nat × Spread => (index :: site.1, site.2.1, site.2.2) := by
    rintro ⟨path, i, use⟩ ⟨other, j, also⟩ same
    simpa using same
  cases selection with
  | leaf => exact List.nodup_nil
  | branch field position selections => exact (nodup_sitesFrom 0 selections).map longer
  | inline fragment position selections => exact (nodup_sitesFrom 0 selections).map longer
  | spread use => exact List.nodup_singleton _

theorem nodup_sitesFrom (index : Nat) (selections : List Selection) :
    (sitesFrom index selections).Nodup := by
  cases selections with
  | nil => exact List.nodup_nil
  | cons head rest =>
    refine List.nodup_append.2 ⟨nodup_sites index head, nodup_sitesFrom (index + 1) rest, ?_⟩
    -- A spread of the head and one of the rest differ in the first index.
    rintro site here other later rfl
    obtain ⟨k, selection, _, there⟩ := mem_sitesFrom.1 later
    have first := lead_of_mem_sites here
    have second := lead_of_mem_sites there
    omega

end

theorem mem_sitesFrom_iff {set : SelectionSet} {path : List Nat} {i : Nat} {use : Spread} :
    (path, i, use) ∈ sitesFrom 0 set.selections ↔
      ∃ inner, set.at? path = some inner ∧ inner.selections[i]? = some (.spread use) := by
  induction path generalizing set with
  | nil =>
    rw [mem_sitesFrom]
    simp only [SelectionSet.at?, Option.some.injEq, exists_eq_left', Nat.zero_add]
    constructor
    · rintro ⟨k, selection, chosen, member⟩
      obtain ⟨rfl, _, rfl⟩ | ⟨_, _, _, impossible, _⟩ := mem_sites.1 member
      · exact chosen
      · cases impossible
    · intro chosen
      exact ⟨i, _, chosen, mem_sites.2 (.inl ⟨rfl, rfl, rfl⟩)⟩
  | cons index rest ih =>
    rw [mem_sitesFrom]
    constructor
    · rintro ⟨k, selection, chosen, member⟩
      obtain ⟨_, impossible, _⟩ | ⟨inner, path, has, same, below⟩ := mem_sites.1 member
      · cases impossible
      · cases same
        rw [Nat.zero_add, SelectionSet.at?, chosen]
        simpa only [has] using ih.1 below
    · rintro ⟨last, found, chosen⟩
      rw [SelectionSet.at?] at found
      cases here : set.selections[index]? with
      | none => simp [here] at found
      | some selection =>
        cases has : selection.set? with
        | none => simp [here, has] at found
        | some inner =>
          simp only [here, has] at found
          refine ⟨index, selection, here, mem_sites.2 (.inr ⟨inner, rest, has, ?_, ?_⟩)⟩
          · rw [Nat.zero_add]
          · exact ih.2 ⟨last, found, chosen⟩

end Selection

/-- The spreads of a document under a name, where they stand. -/
def Document.occurrences (document : Document) (key : String) : List Occurrence :=
  (Selection.sitesFrom 0 document.definition.selectionSet.selections).map
    fun (path, index, use) => ⟨⟨key, path⟩, index, use⟩

def Store.occurrences (store : Store) : List Occurrence :=
  store.entries.flatMap fun entry => entry.document.occurrences entry.key

namespace Document

theorem map_occurrences (document : Document) (key : String) :
    (document.occurrences key).map Occurrence.use = document.spreads := by
  rw [occurrences, List.map_map, spreads, ← Selection.map_sitesFrom 0]
  rfl

theorem mem_occurrences {document : Document} {key : String} {occurrence : Occurrence} :
    occurrence ∈ document.occurrences key ↔
      occurrence.place.key = key ∧
        ∃ set, document.definition.selectionSet.at? occurrence.place.path = some set ∧
          set.selections[occurrence.index]? = some (.spread occurrence.use) := by
  obtain ⟨⟨holder, path⟩, index, use⟩ := occurrence
  rw [occurrences, List.mem_map, ← Selection.mem_sitesFrom_iff]
  constructor
  · rintro ⟨⟨path, index, use⟩, member, same⟩
    cases same
    exact ⟨rfl, member⟩
  · rintro ⟨rfl, member⟩
    exact ⟨_, member, rfl⟩

theorem nodup_occurrences (document : Document) (key : String) :
    (document.occurrences key).Nodup := by
  refine (Selection.nodup_sitesFrom 0 _).map ?_
  rintro ⟨path, index, use⟩ ⟨other, i, also⟩ same
  simpa using same

end Document

namespace Store

variable {store : Store}

theorem mem_occurrences {occurrence : Occurrence} :
    occurrence ∈ store.occurrences ↔ store.Has occurrence := by
  simp only [occurrences, List.mem_flatMap, Document.mem_occurrences, Has, set?]
  constructor
  · rintro ⟨entry, member, here, set, found, chosen⟩
    refine ⟨set, ?_, chosen⟩
    rw [here, get?_of_mem member]
    exact found
  · rintro ⟨set, found, chosen⟩
    obtain ⟨document, there, inside⟩ := Option.bind_eq_some_iff.1 found
    exact ⟨_, mem_of_get? there, rfl, set, inside, chosen⟩

theorem nodup_occurrences (store : Store) : store.occurrences.Nodup := by
  refine List.nodup_flatMap.2
    ⟨fun entry _ => entry.document.nodup_occurrences entry.key, ?_⟩
  refine (List.pairwise_map.1 store.nodup_keys).imp fun {first second} apart => ?_
  intro occurrence here there
  have one := (Document.mem_occurrences.1 here).1
  have other := (Document.mem_occurrences.1 there).1
  exact apart (one.symm.trans other)

theorem mem_spreads_iff {key : String} {document : Document}
    (found : store.get? key = some document) {use : Spread} :
    use ∈ document.spreads ↔ ∃ path index, store.Has ⟨⟨key, path⟩, index, use⟩ := by
  rw [← document.map_occurrences key, List.mem_map]
  constructor
  · rintro ⟨⟨⟨holder, path⟩, index, use⟩, member, rfl⟩
    obtain ⟨rfl, set, inside, chosen⟩ := Document.mem_occurrences.1 member
    refine ⟨path, index, set, ?_, chosen⟩
    rw [set?, found]
    exact inside
  · rintro ⟨path, index, set, there, chosen⟩
    rw [set?, found] at there
    exact ⟨_, Document.mem_occurrences.2 ⟨rfl, set, there, chosen⟩, rfl⟩

theorem embeds_iff {name next : String} :
    store.Embeds name next ↔ store.Spreads name next := by
  constructor
  · rintro ⟨⟨document, found, fragment⟩, ⟨⟨key, path⟩, index, use⟩, there, rfl, rfl⟩
    refine ⟨document, found, by rw [fragment]; rfl, List.mem_map_of_mem ?_⟩
    exact (mem_spreads_iff found).2 ⟨path, index, there⟩
  · rintro ⟨document, found, fragment, member⟩
    obtain ⟨use, given, rfl⟩ := List.mem_map.1 member
    obtain ⟨path, index, there⟩ := (mem_spreads_iff found).1 given
    refine ⟨⟨document, found, ?_⟩, _, there, rfl, rfl⟩
    cases kind : document.kind with
    | operation operation => rw [kind] at fragment; cases fragment
    | fragment => rfl

theorem embeds_eq_spreads : store.Embeds = store.Spreads :=
  funext₂ fun _ _ => propext embeds_iff

variable (collected : store.IsCollected)

include collected

theorem IsCollected.kind_eq_fragment_iff {key : String} {document : Document}
    (found : store.get? key = some document) :
    document.kind = .fragment ↔ document.definition.typeCondition.isSome = true := by
  rw [(collected.of_get? found).isSome_typeCondition]
  cases document.kind <;> simp [DocumentKind.isFragment]

theorem IsCollected.hasFragment_iff (name : String) :
    store.HasFragment name ↔ (store.condition? name).isSome = true := by
  rw [condition?]
  constructor
  · rintro ⟨document, found, fragment⟩
    rw [found]
    exact (collected.kind_eq_fragment_iff found).1 fragment
  · intro known
    cases found : store.get? name with
    | none => simp [found] at known
    | some document =>
      rw [found] at known
      exact ⟨document, found, (collected.kind_eq_fragment_iff found).2 known⟩

theorem IsCollected.isRooted_iff {schema : Schema} {key : String} {document : Document}
    (found : store.get? key = some document) :
    document.IsRooted schema ↔
      (∀ kind, document.kind = .operation kind → ∃ type, schema.rootType? kind = some type) ∧
      ∀ condition, document.definition.typeCondition = some condition →
        ∃ type, schema.type? condition = some type ∧
          (type.kind = .object ∨ type.kind = .interface ∨ type.kind = .union) := by
  have alike := (collected.of_get? found).isSome_typeCondition
  unfold Document.IsRooted Document.rootType?
  cases kind : document.kind with
  | operation operation =>
    rw [kind, DocumentKind.isFragment, Option.isSome_eq_false_iff,
      Option.isNone_iff_eq_none] at alike
    simp [alike, DocumentKind.isFragment]
  | fragment =>
    rw [kind] at alike
    obtain ⟨condition, named⟩ := Option.isSome_iff_exists.1 alike
    simp [named, DocumentKind.isFragment, NamedType.isComposite, NamedType.isAbstract]

/-- What validation asks for is what its search for faults establishes. -/
theorem IsCollected.isWellFormed_iff {schema : Schema} :
    store.IsWellFormed schema ↔ store.IsValid schema := by
  constructor
  · intro wellFormed
    constructor
    · intro document member
      obtain ⟨entry, there, rfl⟩ := List.mem_map.1 member
      have found := get?_of_mem there
      exact (collected.isRooted_iff found).2
        ⟨fun kind => wellFormed.operations _ _ kind found,
          fun condition => wellFormed.fragments _ _ condition found⟩
    · intro document member use given
      obtain ⟨entry, there, rfl⟩ := List.mem_map.1 member
      obtain ⟨path, index, has⟩ := (mem_spreads_iff (get?_of_mem there)).1 given
      exact (collected.hasFragment_iff _).1 (wellFormed.spreads _ has)
    · exact embeds_eq_spreads ▸ wellFormed.acyclic
  · intro valid
    constructor
    · intro key document kind found operation
      have rooted := valid.rooted document (mem_documents_of_get? found)
      exact ((collected.isRooted_iff found).1 rooted).1 kind operation
    · intro key document condition found named
      have rooted := valid.rooted document (mem_documents_of_get? found)
      exact ((collected.isRooted_iff found).1 rooted).2 condition named
    · rintro ⟨⟨key, path⟩, index, use⟩ has
      obtain ⟨set, there, _⟩ := id has
      obtain ⟨document, found, _⟩ := Option.bind_eq_some_iff.1 there
      apply (collected.hasFragment_iff _).2
      exact valid.resolved document (mem_documents_of_get? found) use
        ((mem_spreads_iff found).2 ⟨path, index, has⟩)
    · exact embeds_eq_spreads.symm ▸ valid.acyclic

end Store

namespace Validation

variable {schema : Schema} {store : Store}

theorem rootIssue?_cases {document : Document} {issue : Issue}
    (found : rootIssue? schema document = some issue) :
    (∃ kind, issue = .missingRoot kind) ∨ (∃ type, issue = .unknownCondition type) ∨
      ∃ kind type, issue = .leafCondition kind type := by
  unfold rootIssue? at found
  split at found
  · split at found <;> cases found
    exact .inl ⟨_, rfl⟩
  · dsimp only at found
    split at found
    · cases found; exact .inr (.inl ⟨_, rfl⟩)
    · split at found <;> cases found
      exact .inr (.inr ⟨_, _, rfl⟩)

/-- What is wrong with the type that a document selects from is neither about spreads nor about
fragments without spreads. -/
theorem filter_rootReport {p : Issue → Bool} (document : Document)
    (root : ∀ kind, p (.missingRoot kind) = false)
    (unknown : ∀ type, p (.unknownCondition type) = false)
    (leaf : ∀ kind type, p (.leafCondition kind type) = false) :
    (rootReport schema document).filter (p ·.issue) = [] := by
  rw [List.filter_eq_nil_iff]
  intro diagnostic member
  obtain ⟨issue, found, rfl⟩ := Option.map_eq_some_iff.1 (Option.mem_toList.1 member)
  have unlike : p issue = false := by
    obtain ⟨kind, rfl⟩ | ⟨type, rfl⟩ | ⟨kind, type, rfl⟩ := rootIssue?_cases found
    · exact root kind
    · exact unknown type
    · exact leaf kind type
  exact Bool.not_eq_true _ ▸ unlike

theorem filter_map_eq_nil {α : Type} {p : Issue → Bool} {report : α → Diagnostic}
    (unlike : ∀ item, p (report item).issue = false) (items : List α) :
    (items.map report).filter (p ·.issue) = [] := by
  simp [List.filter_eq_nil_iff, unlike]

theorem filter_map_eq_self {α : Type} {p : Issue → Bool} {report : α → Diagnostic}
    (alike : ∀ item, p (report item).issue = true) (items : List α) :
    (items.map report).filter (p ·.issue) = items.map report := by
  simp [List.filter_eq_self, alike]

theorem filter_documentReports {p : Issue → Bool} (document : Document)
    (root : ∀ kind, p (.missingRoot kind) = false)
    (unknown : ∀ type, p (.unknownCondition type) = false)
    (leaf : ∀ kind type, p (.leafCondition kind type) = false)
    (spread : ∀ name, p (.unknownFragment name) = false) :
    (rootReport schema document ++ unknownReports store document).filter (p ·.issue) = [] := by
  rw [List.filter_append, filter_rootReport document root unknown leaf, List.nil_append]
  exact filter_map_eq_nil (fun _ => spread _) _

/-- The reports of unknown fragments are those of the spreads that name none, each where it
stands. -/
theorem filter_unknown_findings (collected : store.IsCollected) :
    (findings schema store).filter (·.issue.isUnknownFragment) =
      (store.occurrences.filter fun occurrence =>
        (store.condition? occurrence.use.name).isNone).map Occurrence.report := by
  have cycles : ((dependencies store).cycles.map (cycleFinding store)).filter
      (·.issue.isUnknownFragment) = [] := filter_map_eq_nil (fun _ => rfl) _
  have unused : (unusedFragments store).filter (·.issue.isUnknownFragment) = [] :=
    filter_map_eq_nil (fun _ => rfl) _
  have unknown (document : Document) : (unknownReports store document).filter
      (·.issue.isUnknownFragment) = unknownReports store document :=
    filter_map_eq_self (fun _ => rfl) _
  have root (document : Document) :
      (rootReport schema document).filter (·.issue.isUnknownFragment) = [] :=
    filter_rootReport document (fun _ => rfl) (fun _ => rfl) fun _ _ => rfl
  rw [findings, List.filter_append, List.filter_append, cycles, unused, List.append_nil,
    List.append_nil, ← List.flatMap_def, List.filter_flatMap, Store.documents, List.flatMap_map,
    Store.occurrences, List.filter_flatMap, List.map_flatMap]
  apply List.flatMap_congr
  intro entry member
  rw [List.filter_append, root, unknown, List.nil_append, unknownReports,
    ← entry.document.map_occurrences entry.key, List.filter_map, List.map_map]
  apply List.map_congr_left
  intro occurrence here
  have holder := (Document.mem_occurrences.1 (List.mem_of_mem_filter here)).1
  rw [Function.comp_apply, Occurrence.report, holder, collected.named entry member]

/-- The reports of unused fragments are those of the fragments whose name no spread carries. -/
theorem filter_unused_findings :
    (findings schema store).filter (·.issue.isUnusedFragment) = unusedFragments store := by
  have cycles : ((dependencies store).cycles.map (cycleFinding store)).filter
      (·.issue.isUnusedFragment) = [] := filter_map_eq_nil (fun _ => rfl) _
  have unused : (unusedFragments store).filter (·.issue.isUnusedFragment) =
      unusedFragments store := filter_map_eq_self (fun _ => rfl) _
  have each (document : Document) : (rootReport schema document ++
      unknownReports store document).filter (·.issue.isUnusedFragment) = [] :=
    filter_documentReports document (fun _ => rfl) (fun _ => rfl) (fun _ _ => rfl) fun _ => rfl
  rw [findings, List.filter_append, List.filter_append, cycles, unused, ← List.flatMap_def,
    List.filter_flatMap]
  simp [each]

theorem mem_spreadNames {name : String} :
    name ∈ spreadNames store ↔ ∃ occurrence, store.Has occurrence ∧ occurrence.use.name = name := by
  rw [spreadNames, List.mem_flatMap]
  constructor
  · rintro ⟨document, member, carried⟩
    obtain ⟨entry, there, rfl⟩ := List.mem_map.1 member
    obtain ⟨use, given, rfl⟩ := List.mem_map.1 carried
    obtain ⟨path, index, has⟩ := (Store.mem_spreads_iff (Store.get?_of_mem there)).1 given
    exact ⟨_, has, rfl⟩
  · rintro ⟨⟨⟨key, path⟩, index, use⟩, has, rfl⟩
    obtain ⟨set, there, _⟩ := id has
    obtain ⟨document, found, _⟩ := Option.bind_eq_some_iff.1 there
    exact ⟨document, Store.mem_documents_of_get? found,
      List.mem_map_of_mem ((Store.mem_spreads_iff found).2 ⟨path, index, has⟩)⟩

/-- Validation accepts exactly well-formed documents. It reports each spread that names no fragment
once, and each fragment once whose name no spread carries. -/
theorem run_accepts_iff (schema : Schema) (collected : store.IsCollected) :
    ∃ reports, Pass.validateDocuments.run schema store = ⟨store, .ok reports⟩ ∧
      (anyFatal reports = false ↔ store.IsWellFormed schema) ∧
      (∃ dangling : List Occurrence, dangling.Nodup ∧
        (∀ occurrence, occurrence ∈ dangling ↔
          store.Has occurrence ∧ ¬store.HasFragment occurrence.use.name) ∧
        reports.filter (·.issue.isUnknownFragment) = dangling.map Occurrence.report) ∧
      ∃ unused : List Document, unused.Nodup ∧
        (∀ document, document ∈ unused ↔
          document ∈ store.documents ∧ document.kind = .fragment ∧
            ∀ occurrence, store.Has occurrence → occurrence.use.name ≠ document.name) ∧
        reports.filter (·.issue.isUnusedFragment) = unused.map Document.unusedReport := by
  refine ⟨_, run_eq schema collected, ?_, ⟨_, ?_, ?_, filter_unknown_findings collected⟩,
    ⟨_, ?_, ?_, filter_unused_findings⟩⟩
  · rw [collected.isWellFormed_iff, anyFatal_findings_iff collected]
  · exact store.nodup_occurrences.filter _
  · intro occurrence
    rw [List.mem_filter, Store.mem_occurrences, collected.hasFragment_iff]
    simp
  · refine List.Nodup.filter _ (List.Nodup.filter _ ?_)
    exact .of_map _ collected.nodup_names
  · intro document
    rw [List.mem_filter, Store.fragments, List.mem_filter]
    have fragment : document.kind.isFragment = true ↔ document.kind = .fragment := by
      cases document.kind <;> simp [DocumentKind.isFragment]
    have uncarried : (!(spreadNames store).contains document.name) = true ↔
        ∀ occurrence, store.Has occurrence → occurrence.use.name ≠ document.name := by
      rw [Bool.not_eq_true', ← Bool.not_eq_true, List.contains_iff_mem, mem_spreadNames]
      simp
    rw [fragment, uncarried, and_assoc]

theorem run_accepts_iff_sample :
    ∃ reports, Pass.validateDocuments.run Sample.schema Sample.store =
        ⟨Sample.store, .ok reports⟩ ∧
      (anyFatal reports = false ↔ Sample.store.IsWellFormed Sample.schema) ∧
      (∃ dangling : List Occurrence, dangling.Nodup ∧
        (∀ occurrence, occurrence ∈ dangling ↔
          Sample.store.Has occurrence ∧ ¬Sample.store.HasFragment occurrence.use.name) ∧
        reports.filter (·.issue.isUnknownFragment) = dangling.map Occurrence.report) ∧
      ∃ unused : List Document, unused.Nodup ∧
        (∀ document, document ∈ unused ↔
          document ∈ Sample.store.documents ∧ document.kind = .fragment ∧
            ∀ occurrence, Sample.store.Has occurrence → occurrence.use.name ≠ document.name) ∧
        reports.filter (·.issue.isUnusedFragment) = unused.map Document.unusedReport :=
  run_accepts_iff Sample.schema Sample.isCollected

end Validation

end DocumentNormalizer
