import DocumentNormalizer.Proofs.Acceptance
import DocumentNormalizer.Proofs.Termination

namespace DocumentNormalizer

open Relation (ReflTransGen TransGen)

namespace Store

def LeadsTo (store : Store) (key name : String) : Prop :=
  (∃ occurrence, store.Has occurrence ∧ occurrence.place.key = key ∧ occurrence.use.name = name) ∧
    store.HasFragment name

/-- Spreads lead from a document to one that names no fragment, or to a fragment that contains
itself. -/
def LeadsAstray (store : Store) (key : String) : Prop :=
  ∃ holder, ReflTransGen store.LeadsTo key holder ∧
    ((∃ occurrence, store.Has occurrence ∧ occurrence.place.key = holder ∧
        ¬store.HasFragment occurrence.use.name) ∨
      TransGen store.Embeds holder holder)

variable {store : Store}

theorem HasFragment.mem_keys {name : String} (fragment : store.HasFragment name) :
    name ∈ store.keys := by
  obtain ⟨document, found, _⟩ := fragment
  exact mem_keys_of_get? found

theorem Has.mem_keys {occurrence : Occurrence} (has : store.Has occurrence) :
    occurrence.place.key ∈ store.keys := by
  obtain ⟨set, there, _⟩ := has
  obtain ⟨document, found, _⟩ := Option.bind_eq_some_iff.1 there
  exact mem_keys_of_get? found

theorem transGen_leadsTo {name last : String} (embeds : TransGen store.Embeds name last)
    (fragment : store.HasFragment last) : TransGen store.LeadsTo name last := by
  induction embeds with
  | single embeds => exact .single ⟨embeds.2, fragment⟩
  | tail _ embeds ih => exact (ih embeds.1).tail ⟨embeds.2, fragment⟩

theorem hasFragment_of_transGen {name last : String} (embeds : TransGen store.Embeds name last) :
    store.HasFragment name := by
  obtain ⟨next, first, _⟩ := TransGen.head'_iff.1 embeds
  exact first.1

/-- Some document leads astray exactly if some spread names no fragment or some fragment contains
itself, since a document leads to itself. -/
theorem exists_leadsAstray_iff :
    (∃ key ∈ store.keys, store.LeadsAstray key) ↔
      (∃ occurrence, store.Has occurrence ∧ ¬store.HasFragment occurrence.use.name) ∨
        ∃ name, TransGen store.Embeds name name := by
  constructor
  · rintro ⟨key, _, holder, _, ⟨occurrence, has, _, unknown⟩ | cycle⟩
    · exact .inl ⟨occurrence, has, unknown⟩
    · exact .inr ⟨holder, cycle⟩
  · rintro (⟨occurrence, has, unknown⟩ | ⟨name, cycle⟩)
    · exact ⟨_, has.mem_keys, _, .refl, .inl ⟨occurrence, has, rfl, unknown⟩⟩
    · exact ⟨name, (hasFragment_of_transGen cycle).mem_keys, name, .refl, .inr cycle⟩

end Store

namespace Walk

variable {schema : Schema} {store : Store} {document : String} {scope : Scope} {key : String}
  {type : NamedType}

/-- A spread in the set of a scope leads nowhere, since it names a fragment that is open or none at
all. -/
def IsStuck (store : Store) (scope : Scope) : Prop :=
  ∃ (index : Nat) (use : Spread),
    (store.setAt scope.place).selections[index]? = some (.spread use) ∧
      (use.name ∈ scope.openFragments ∨ ¬store.HasFragment use.name)

section Fatal

variable (collected : store.IsCollected)

include collected

theorem fatal_step {index : Nat} {use : Spread}
    (stuck : use.name ∈ scope.openFragments ∨ ¬store.HasFragment use.name) :
    ∃ diagnostic ∈ (step schema store document scope index (.spread use)).reports,
      diagnostic.isFatal = true := by
  rw [step_spread collected]
  by_cases isOpen : use.name ∈ scope.openFragments
  · simp only [isOpen, if_true]
    exact ⟨_, List.mem_singleton_self _, rfl⟩
  · have unknown : store.condition? use.name = none := by
      have missing := stuck.resolve_left isOpen
      rw [collected.hasFragment_iff] at missing
      exact Option.not_isSome_iff_eq_none.1 missing
    simp only [isOpen, if_false, unknown]
    exact ⟨_, List.mem_singleton_self _, rfl⟩

/-- A walk reports something fatal exactly if it comes to a set with a spread that it cannot
follow. -/
theorem anyFatal_events_iff {depth : Nat} (room : HasRoom store depth scope) :
    anyFatal (reports (events schema store document depth scope)) = true ↔
      ∃ last, ReflTransGen (Leads schema store) scope last ∧ IsStuck store last := by
  rw [anyFatal, List.any_eq_true]
  constructor
  · rintro ⟨diagnostic, member, fatal⟩
    obtain ⟨last, index, selection, reaches, chosen, reported⟩ :=
      reaches_of_report collected (mem_reports.1 member)
    refine ⟨last, reaches, ?_⟩
    by_contra free
    have resolved : ∀ use, selection = .spread use →
        use.name ∉ last.openFragments ∧ (store.condition? use.name).isSome = true := by
      rintro use rfl
      rw [← collected.hasFragment_iff]
      constructor
      · intro isOpen
        exact free ⟨index, use, chosen, .inl isOpen⟩
      · by_contra unknown
        exact free ⟨index, use, chosen, .inr unknown⟩
    rw [advisory_step collected resolved diagnostic reported] at fatal
    cases fatal
  · rintro ⟨last, reaches, index, use, chosen, stuck⟩
    obtain ⟨diagnostic, reported, fatal⟩ := fatal_step collected stuck
    exact ⟨diagnostic, mem_reports.2 (report_of_reaches collected reaches room chosen reported),
      fatal⟩

end Fatal

section Stuck

theorem has_of_chosen {index : Nat} {use : Spread}
    (chosen : (store.setAt scope.place).selections[index]? = some (.spread use)) :
    store.Has ⟨scope.place, index, use⟩ := by
  cases there : store.set? scope.place with
  | none => simp [Store.setAt, there] at chosen
  | some set =>
    rw [Store.setAt_of_set? there] at chosen
    exact ⟨set, there, chosen⟩

variable (collected : store.IsCollected)

include collected

theorem leadsTo_of_reaches (reaches : ReflTransGen (Leads schema store) (root key type) scope) :
    ReflTransGen store.LeadsTo key scope.place.key := by
  induction reaches with
  | refl => exact .refl
  | tail _ leads ih =>
    obtain ⟨index, selection, chosen, follows⟩ := leads
    cases follows with
    | inside has => exact ih
    | across fresh named =>
      have fragment := (collected.hasFragment_iff _).2 (Option.isSome_of_eq_some named)
      exact ih.tail ⟨⟨_, has_of_chosen chosen, rfl, rfl⟩, fragment⟩

theorem leadsAstray_of_isStuck
    (reaches : ReflTransGen (Leads schema store) (root key type) scope)
    (stuck : IsStuck store scope) : store.LeadsAstray key := by
  obtain ⟨index, use, chosen, reason⟩ := stuck
  refine ⟨scope.place.key, leadsTo_of_reaches collected reaches, ?_⟩
  rcases reason with isOpen | unknown
  · -- What is open has led here, and the spread leads back to it.
    have chain := hasChain_of_reaches collected reaches
    have spreads := chain.spreads collected (List.ne_nil_of_mem isOpen) chosen
    rw [Store.embeds_eq_spreads]
    exact .inr (.head' spreads (chain.leads _ isOpen))
  · exact .inl ⟨_, has_of_chosen chosen, rfl, unknown⟩

end Stuck

section Free

/-- A walk from here can follow all spreads that it comes to. -/
def IsFree (schema : Schema) (store : Store) (scope : Scope) : Prop :=
  ∀ last, ReflTransGen (Leads schema store) scope last → ¬IsStuck store last

variable {start : Scope} {name last : String}

theorem IsFree.hasFragment (free : IsFree schema store start)
    (reaches : ReflTransGen (Leads schema store) start scope) (here : scope.place = ⟨name, []⟩)
    {occurrence : Occurrence} (has : store.Has occurrence) (inside : occurrence.place.key = name) :
    store.HasFragment occurrence.use.name := by
  obtain ⟨⟨holder, path⟩, index, use⟩ := occurrence
  obtain rfl : holder = name := inside
  obtain ⟨set, there, chosen⟩ := has
  obtain ⟨below, further, place, _⟩ := exists_reaches_below schema here there
  rw [← Store.setAt_of_set? there, ← place] at chosen
  by_contra unknown
  exact free below (reaches.trans further) ⟨index, use, chosen, .inr unknown⟩

variable (collected : store.IsCollected)

include collected

theorem IsFree.follow (free : IsFree schema store start)
    (reaches : ReflTransGen (Leads schema store) start scope) (here : scope.place = ⟨name, []⟩)
    (leads : store.LeadsTo name last) :
    ∃ next, ReflTransGen (Leads schema store) start next ∧ next.place = ⟨last, []⟩ ∧
      next.openFragments = scope.openFragments ++ [last] := by
  obtain ⟨⟨⟨⟨holder, path⟩, index, use⟩, ⟨set, there, chosen⟩, rfl, rfl⟩, fragment⟩ := leads
  obtain ⟨below, further, place, same⟩ := exists_reaches_below schema here there
  rw [← Store.setAt_of_set? there, ← place] at chosen
  have reached := reaches.trans further
  have fresh : use.name ∉ below.openFragments := by
    intro isOpen
    exact free below reached ⟨index, use, chosen, .inl isOpen⟩
  obtain ⟨condition, named⟩ :=
    Option.isSome_iff_exists.1 ((collected.hasFragment_iff _).1 fragment)
  refine ⟨_, reached.tail ⟨index, _, chosen, .across fresh named⟩, rfl, ?_⟩
  rw [same]

theorem IsFree.follow_all (free : IsFree schema store start) (here : start.place = ⟨name, []⟩)
    (leads : ReflTransGen store.LeadsTo name last) :
    ∃ next, ReflTransGen (Leads schema store) start next ∧ next.place = ⟨last, []⟩ := by
  induction leads with
  | refl => exact ⟨start, .refl, here⟩
  | tail _ leads ih =>
    obtain ⟨between, reaches, place⟩ := ih
    obtain ⟨next, further, there, _⟩ := free.follow collected reaches place leads
    exact ⟨next, further, there⟩

/-- Fragments that were followed are open, behind those that were open before. -/
theorem IsFree.opens (free : IsFree schema store start)
    (reaches : ReflTransGen (Leads schema store) start scope) (here : scope.place = ⟨name, []⟩)
    (leads : TransGen store.LeadsTo name last) :
    ∃ next, ReflTransGen (Leads schema store) start next ∧ next.place = ⟨last, []⟩ ∧
      (scope.openFragments ++ [last]).Sublist next.openFragments := by
  induction leads with
  | single leads =>
    obtain ⟨next, further, there, same⟩ := free.follow collected reaches here leads
    exact ⟨next, further, there, same ▸ List.Sublist.refl _⟩
  | tail _ leads ih =>
    obtain ⟨between, reached, place, kept⟩ := ih
    obtain ⟨next, further, there, same⟩ := free.follow collected reached place leads
    refine ⟨next, further, there, ?_⟩
    rw [same]
    exact ((List.sublist_append_left _ _).trans kept).append_right _

/-- A fragment that contains itself would be open twice after two rounds. -/
theorem IsFree.not_transGen (free : IsFree schema store (root key type))
    (reaches : ReflTransGen (Leads schema store) (root key type) scope)
    (here : scope.place = ⟨name, []⟩) : ¬TransGen store.LeadsTo name name := by
  intro cycle
  obtain ⟨once, reached, place, first⟩ := free.opens collected reaches here cycle
  obtain ⟨twice, again, _, second⟩ := free.opens collected reached place cycle
  have nodup := (hasOpen_of_reaches collected again).nodup.sublist second
  have isOpen : name ∈ once.openFragments := first.subset (List.mem_append_right _ (by simp))
  exact List.disjoint_of_nodup_append nodup isOpen (List.mem_singleton_self name)

theorem IsFree.not_leadsAstray (free : IsFree schema store (root key type)) :
    ¬store.LeadsAstray key := by
  rintro ⟨holder, leads, astray⟩
  have here : (root key type).place = ⟨key, []⟩ := rfl
  obtain ⟨scope, reaches, place⟩ := free.follow_all collected here leads
  rcases astray with ⟨occurrence, has, inside, unknown⟩ | cycle
  · exact unknown (free.hasFragment reaches place has inside)
  · have fragment := Store.hasFragment_of_transGen cycle
    exact free.not_transGen collected reaches place (Store.transGen_leadsTo cycle fragment)

end Free

theorem anyFatal_documentEvents_iff (collected : store.IsCollected) {document : Document}
    (found : store.get? key = some document) (typed : document.rootType? schema = some type) :
    anyFatal (reports (documentEvents schema store key)) = true ↔ store.LeadsAstray key := by
  have room : HasRoom store store.walkDepth (root key type) := HasRoom.root found type
  simp only [documentEvents, found, typed]
  rw [anyFatal_events_iff collected room]
  constructor
  · rintro ⟨last, reaches, stuck⟩
    exact leadsAstray_of_isStuck collected reaches stuck
  · intro astray
    by_contra spared
    have free : IsFree schema store (root key type) :=
      fun last reaches stuck => spared ⟨last, reaches, stuck⟩
    exact free.not_leadsAstray collected astray

end Walk

def Issue.isFragmentCycle : Issue → Bool
  | .fragmentCycle _ => true
  | _ => false

namespace Validation

variable {schema : Schema} {store : Store}

theorem filter_cycle_findings :
    (findings schema store).filter (·.issue.isFragmentCycle) =
      (dependencies store).cycles.map (cycleFinding store) := by
  have cycles : ((dependencies store).cycles.map (cycleFinding store)).filter
      (·.issue.isFragmentCycle) = (dependencies store).cycles.map (cycleFinding store) :=
    filter_map_eq_self (fun _ => rfl) _
  have unused : (unusedFragments store).filter (·.issue.isFragmentCycle) = [] :=
    filter_map_eq_nil (fun _ => rfl) _
  have each (document : Document) : (rootReport schema document ++
      unknownReports store document).filter (·.issue.isFragmentCycle) = [] :=
    filter_documentReports document (fun _ => rfl) (fun _ => rfl) (fun _ _ => rfl) fun _ => rfl
  rw [findings, List.filter_append, List.filter_append, cycles, unused, ← List.flatMap_def,
    List.filter_flatMap]
  simp [each]

theorem needs_eq_embeds (collected : store.IsCollected) :
    (dependencies store).Needs = store.Embeds := by
  funext name next
  rw [needs_iff_spreads collected, Store.embeds_eq_spreads]

theorem exists_cycle_finding_iff (collected : store.IsCollected) :
    (∃ report ∈ findings schema store, report.issue.isFragmentCycle = true) ↔
      ∃ name, TransGen store.Embeds name name := by
  have clean : (findings schema store).filter (·.issue.isFragmentCycle) = [] ↔
      ∀ name, ¬TransGen store.Embeds name name := by
    rw [filter_cycle_findings, List.map_eq_nil_iff, Dependencies.cycles_eq_nil_iff,
      needs_eq_embeds collected]
  rw [← not_iff_not]
  simpa [List.filter_eq_nil_iff] using clean

theorem exists_unknown_finding_iff (collected : store.IsCollected) :
    (∃ report ∈ findings schema store, report.issue.isUnknownFragment = true) ↔
      ∃ occurrence, store.Has occurrence ∧ ¬store.HasFragment occurrence.use.name := by
  have clean : (findings schema store).filter (·.issue.isUnknownFragment) = [] ↔
      ∀ occurrence, store.Has occurrence → store.HasFragment occurrence.use.name := by
    rw [filter_unknown_findings collected, List.map_eq_nil_iff, List.filter_eq_nil_iff]
    refine forall_congr' fun occurrence => ?_
    rw [Store.mem_occurrences, collected.hasFragment_iff]
    simp [Option.isSome_iff_ne_none]
  rw [← not_iff_not]
  simpa [List.filter_eq_nil_iff] using clean

end Validation

namespace Walk

variable {σ : Type} {visitor : Visitor σ} {store : Store}

/-- The walk of a document has something fatal to report exactly if the document leads astray. Where
all documents have a type to start from, some walk has exactly if validation reports an unknown
fragment or a cycle. -/
theorem anyFatal_document_iff (schema : Schema) (collected : store.IsCollected)
    (leaves : visitor.AppendsLeaves) (memory : σ) :
    (∀ key document type, store.get? key = some document → document.rootType? schema = some type →
      (Walk.document schema visitor store.walkDepth key ⟨store, memory, [], none⟩).fault = none ∧
      (anyFatal (Walk.document schema visitor store.walkDepth key
          ⟨store, memory, [], none⟩).diagnostics = true ↔ store.LeadsAstray key)) ∧
    ((∀ document ∈ store.documents, ∃ type, document.rootType? schema = some type) →
      ∃ reports, Pass.validateDocuments.run schema store = ⟨store, .ok reports⟩ ∧
        ((∃ key ∈ store.keys, anyFatal (Walk.document schema visitor store.walkDepth key
            ⟨store, memory, [], none⟩).diagnostics = true) ↔
          (∃ report ∈ reports, report.issue.isUnknownFragment = true) ∨
            ∃ report ∈ reports, report.issue.isFragmentCycle = true)) := by
  have start := Grown.start store memory
  have each : ∀ key document type, store.get? key = some document →
      document.rootType? schema = some type →
      (anyFatal (Walk.document schema visitor store.walkDepth key
        ⟨store, memory, [], none⟩).diagnostics = true ↔ store.LeadsAstray key) := by
    intro key document type found typed
    rw [document_eq_foldl collected leaves key start, diagnostics_foldl, List.nil_append]
    exact anyFatal_documentEvents_iff collected found typed
  constructor
  · intro key document type found typed
    refine ⟨?_, each key document type found typed⟩
    rw [document_eq_foldl collected leaves key start]
    exact (start.foldl leaves _).sound
  · intro rooted
    refine ⟨_, Validation.run_eq schema collected, ?_⟩
    rw [Validation.exists_unknown_finding_iff collected,
      Validation.exists_cycle_finding_iff collected, ← Store.exists_leadsAstray_iff]
    refine exists_congr fun key => and_congr_right fun member => ?_
    obtain ⟨entry, there, rfl⟩ := List.mem_map.1 member
    obtain ⟨type, typed⟩ := rooted entry.document (List.mem_map_of_mem there)
    exact each entry.key entry.document type (Store.get?_of_mem there) typed

theorem anyFatal_document_iff_knot :
    (∃ type, Sample.page.rootType? Sample.schema = some type) ∧
    anyFatal (Walk.document Sample.schema Typename.visitor Sample.knot.walkDepth "Page"
      ⟨Sample.knot, (), [], none⟩).diagnostics = true ∧
    Sample.knot.LeadsAstray "Page" ∧
    ∃ reports, Pass.validateDocuments.run Sample.schema Sample.knot = ⟨Sample.knot, .ok reports⟩ ∧
      ((∃ report ∈ reports, report.issue.isUnknownFragment = true) ∨
        ∃ report ∈ reports, report.issue.isFragmentCycle = true) := by
  have agrees := anyFatal_document_iff Sample.schema Sample.isCollected_knot
    Typename.completes.appendsLeaves ()
  have fatal : anyFatal (Walk.document Sample.schema Typename.visitor Sample.knot.walkDepth "Page"
      ⟨Sample.knot, (), [], none⟩).diagnostics = true := by decide +kernel
  have rooted : ∀ document ∈ Sample.knot.documents,
      ∃ type, document.rootType? Sample.schema = some type :=
    List.forall_mem_cons.2 ⟨⟨_, rfl⟩, List.forall_mem_singleton.2 ⟨_, rfl⟩⟩
  have astray := ((agrees.1 "Page" Sample.page _ rfl rfl).2).1 fatal
  obtain ⟨reports, ran, found⟩ := agrees.2 rooted
  exact ⟨⟨_, rfl⟩, fatal, astray, reports, ran, found.1 ⟨"Page", List.mem_cons_self, fatal⟩⟩

end Walk

end DocumentNormalizer
