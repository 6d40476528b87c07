import DocumentNormalizer.Compile
import DocumentNormalizer.Proofs.Idempotence
import DocumentNormalizer.Proofs.Validity
import Mathlib.Order.RelClasses

namespace DocumentNormalizer

open Relation (ReflTransGen TransGen)

namespace Selection

theorem spreads_subset {selections : List Selection} {selection : Selection}
    (member : selection ∈ selections) : selection.spreads ⊆ spreadsOfAll selections := by
  induction selections with
  | nil => cases member
  | cons head rest ih =>
    rw [spreadsOfAll]
    rcases List.mem_cons.1 member with rfl | later
    · exact List.subset_append_left _ _
    · exact List.Subset.trans (ih later) (List.subset_append_right _ _)

theorem spreads_of_set? {selection : Selection} {inner : SelectionSet}
    (has : selection.set? = some inner) : selection.spreads = spreadsOfAll inner.selections := by
  cases selection with
  | leaf => cases has
  | branch field position selections => cases has; rw [spreads]
  | inline fragment position selections => cases has; rw [spreads]
  | spread => cases has

end Selection

theorem SelectionSet.spreads_subset {set inner : SelectionSet} {path : List Nat}
    (found : set.at? path = some inner) :
    Selection.spreadsOfAll inner.selections ⊆ Selection.spreadsOfAll set.selections := by
  induction path generalizing set with
  | nil =>
    cases found
    exact List.Subset.refl _
  | cons index rest ih =>
    rw [at?] at found
    cases chosen : set.selections[index]? with
    | none => simp [chosen] at found
    | some selection =>
      cases has : selection.set? with
      | none => simp [chosen, has] at found
      | some between =>
        simp only [chosen, has] at found
        have inside := Selection.spreads_subset (List.mem_of_getElem? chosen)
        rw [Selection.spreads_of_set? has] at inside
        exact List.Subset.trans (ih found) inside

namespace Walk

variable {schema : Schema} {store : Store} {scope next : Scope}

structure HasChain (store : Store) (scope : Scope) : Prop where
  leads : ∀ name ∈ scope.openFragments, ReflTransGen store.Spreads name scope.place.key
  fragment : scope.openFragments ≠ [] → (store.condition? scope.place.key).isSome = true

theorem mem_spreads {document : Document} {index : Nat} {use : Spread}
    (found : store.get? scope.place.key = some document)
    (chosen : (store.setAt scope.place).selections[index]? = some (.spread use)) :
    use ∈ document.spreads := by
  cases there : store.set? scope.place with
  | none => simp [Store.setAt, there] at chosen
  | some set =>
    rw [Store.setAt_of_set? there] at chosen
    rw [Store.set?, found] at there
    apply SelectionSet.spreads_subset there
    apply Selection.spreads_subset (List.mem_of_getElem? chosen)
    rw [Selection.spreads]
    exact List.mem_singleton_self use

theorem HasChain.spreads {index : Nat} {use : Spread} (chain : HasChain store scope)
    (collected : store.IsCollected) (isOpen : scope.openFragments ≠ [])
    (chosen : (store.setAt scope.place).selections[index]? = some (.spread use)) :
    store.Spreads scope.place.key use.name := by
  obtain ⟨condition, named⟩ := Option.isSome_iff_exists.1 (chain.fragment isOpen)
  obtain ⟨document, found, typed⟩ := Option.bind_eq_some_iff.1 named
  refine ⟨document, found, ?_, List.mem_map_of_mem (mem_spreads found chosen)⟩
  rw [← (collected.of_get? found).isSome_typeCondition, typed]
  rfl

theorem HasChain.leads_to (chain : HasChain store scope) (collected : store.IsCollected)
    (step : Leads schema store scope next) : HasChain store next := by
  obtain ⟨index, selection, chosen, follows⟩ := step
  cases follows with
  | inside has => exact ⟨chain.leads, chain.fragment⟩
  | @across use condition fresh named =>
    refine ⟨fun name member => ?_, fun _ => by rw [named]; rfl⟩
    rcases List.mem_append.1 member with earlier | last
    · have isOpen : scope.openFragments ≠ [] := List.ne_nil_of_mem earlier
      exact (chain.leads name earlier).tail (chain.spreads collected isOpen chosen)
    · rw [List.mem_singleton.1 last]

theorem hasChain_of_reaches {key : String} {type : NamedType} (collected : store.IsCollected)
    (reaches : ReflTransGen (Leads schema store) (root key type) scope) :
    HasChain store scope := by
  induction reaches with
  | refl => exact ⟨fun _ member => (nomatch member), fun isOpen => absurd rfl isOpen⟩
  | tail _ step ih => exact ih.leads_to collected step

theorem HasChain.not_mem_of_acyclic {index : Nat} {use : Spread} (chain : HasChain store scope)
    (collected : store.IsCollected) (acyclic : ∀ name, ¬TransGen store.Spreads name name)
    (chosen : (store.setAt scope.place).selections[index]? = some (.spread use)) :
    use.name ∉ scope.openFragments := by
  intro isOpen
  have spreads := chain.spreads collected (List.ne_nil_of_mem isOpen) chosen
  exact acyclic use.name (.tail' (chain.leads _ isOpen) spreads)

theorem HasChain.not_mem {index : Nat} {use : Spread} (chain : HasChain store scope)
    (collected : store.IsCollected) (sound : store.IsSound schema)
    (chosen : (store.setAt scope.place).selections[index]? = some (.spread use)) :
    use.name ∉ scope.openFragments := by
  refine chain.not_mem_of_acyclic collected (fun name cycle => ?_) chosen
  have backwards := Relation.transGen_swap.2 cycle
  exact sound.acyclic.transGen.asymmetric _ _ backwards backwards

theorem mem_reports {events : List Event} {diagnostic : Diagnostic} :
    diagnostic ∈ reports events ↔ .report diagnostic ∈ events := by
  rw [reports, List.mem_filterMap]
  constructor
  · rintro ⟨event, member, same⟩
    cases event with
    | visit document scope => cases same
    | report other => cases same; exact member
  · exact fun member => ⟨_, member, rfl⟩

theorem advisory_followField {document : String} {index : Nat} (field : Field) :
    ∀ diagnostic ∈ (followField schema document scope index field).reports,
      diagnostic.isFatal = false := by
  intro diagnostic member
  rw [followField] at member
  cases found : schema.fieldType? scope.type field.name with
  | some type => simp [found] at member
  | none =>
    simp only [found, List.mem_singleton] at member
    rw [member]
    rfl

theorem advisory_followInline {document : String} {index : Nat} (fragment : InlineFragment) :
    ∀ diagnostic ∈ (followInline schema document scope index fragment).reports,
      diagnostic.isFatal = false := by
  intro diagnostic member
  rw [followInline] at member
  cases condition : fragment.typeCondition with
  | none => simp [condition] at member
  | some name =>
    cases found : schema.type? name with
    | some type => simp [condition, found] at member
    | none =>
      simp only [condition, found, List.mem_singleton] at member
      rw [member]
      rfl

theorem advisory_step {document : String} {index : Nat} {selection : Selection}
    (collected : store.IsCollected)
    (resolved : ∀ use, selection = .spread use →
      use.name ∉ scope.openFragments ∧ (store.condition? use.name).isSome = true) :
    ∀ diagnostic ∈ (step schema store document scope index selection).reports,
      diagnostic.isFatal = false := by
  cases selection with
  | leaf field => exact fun _ member => nomatch member
  | branch field position selections => exact advisory_followField field
  | inline fragment position selections => exact advisory_followInline fragment
  | spread use =>
    obtain ⟨fresh, known⟩ := resolved use rfl
    obtain ⟨condition, named⟩ := Option.isSome_iff_exists.1 known
    intro diagnostic member
    simp only [step_spread collected, fresh, if_false, named] at member
    split at member
    · cases member
    · rw [List.mem_singleton.1 member]
      rfl

theorem advisory_reports (collected : store.IsCollected) (sound : store.IsSound schema)
    (key : String) : anyFatal (reports (documentEvents schema store key)) = false := by
  rw [anyFatal, List.any_eq_false]
  intro diagnostic member
  rw [mem_reports, documentEvents] at member
  cases found : store.get? key with
  | none => simp [found] at member
  | some document =>
    cases typed : document.rootType? schema with
    | none =>
      have rooted := sound.rooted found
      rw [typed] at rooted
      cases rooted
    | some type =>
      simp only [found, typed] at member
      obtain ⟨last, index, selection, reaches, chosen, reported⟩ :=
        reaches_of_report collected member
      have chain := hasChain_of_reaches collected reaches
      rw [advisory_step collected ?_ diagnostic reported]
      · exact Bool.false_ne_true
      · rintro use rfl
        refine ⟨chain.not_mem collected sound chosen, ?_⟩
        have start : (store.set? (root key type).place).isSome := by
          simp [root, Store.set?_root, found]
        obtain ⟨set, there⟩ := Option.isSome_iff_exists.1 (found_of_reaches reaches start)
        obtain ⟨holder, held, _⟩ := Option.bind_eq_some_iff.1 there
        exact sound.resolved held use (mem_spreads held chosen)

end Walk

namespace KeyFields

variable {schema : Schema} {keys : List String} {store : Store}

theorem advisory_reject (visit : Visit) (unusable : List String) (memory : Memory)
    (before : anyFatal memory.reports = false) :
    anyFatal (unusable.foldl (reject visit) memory).reports = false := by
  induction unusable generalizing memory with
  | nil => exact before
  | cons key rest ih =>
    apply ih
    rw [reject]
    split
    · exact before
    · rw [anyFatal_append, before]
      rfl

theorem advisory_remember (memory : Memory) (event : Walk.Event)
    (before : anyFatal memory.reports = false) :
    anyFatal (remember schema keys store memory event).reports = false := by
  cases event with
  | report diagnostic => exact before
  | visit document scope =>
    simp only [remember, visitor]
    split
    · exact before
    · split
      · exact before
      · exact advisory_reject _ _ _ before

theorem advisory_memory (events : List Walk.Event) (memory : Memory)
    (before : anyFatal memory.reports = false) :
    anyFatal (events.foldl (remember schema keys store) memory).reports = false := by
  induction events generalizing memory with
  | nil => exact before
  | cons event rest ih => exact ih _ (advisory_remember memory event before)

theorem advisory_reportsFrom (rejected : List (String × String)) (names : List String)
    (walks : ∀ key, anyFatal (Walk.reports (Walk.documentEvents schema store key)) = false) :
    anyFatal (reportsFrom schema keys store rejected names) = false := by
  induction names generalizing rejected with
  | nil => rfl
  | cons key rest ih =>
    have own : anyFatal (memoryAfter schema keys store ⟨rejected, []⟩ key).reports = false :=
      advisory_memory _ _ rfl
    simp only [reportsFrom, anyFatal_append, own, walks, ih, Bool.or_false]

end KeyFields

/-- A pass lets documents grow and reports nothing fatal. -/
def Pass.IsQuiet (pass : Pass) (schema : Schema) (store : Store) : Prop :=
  ∃ growth reports, pass.run schema store = ⟨store.grow growth, .ok reports⟩ ∧
    anyFatal reports = false

variable {schema : Schema} {store : Store}

theorem Walk.advisory_storeEvents (collected : store.IsCollected) (sound : store.IsSound schema) :
    anyFatal (reports (storeEvents schema store)) = false := by
  rw [storeEvents, reports, List.filterMap_flatMap, anyFatal, List.any_flatMap, List.any_eq_false]
  intro key _
  have quiet := advisory_reports collected sound key
  rw [anyFatal, reports] at quiet
  simp [quiet]

namespace Pass.IsStandard

theorem isQuiet {pass : Pass} (standard : pass.IsStandard) (collected : store.IsCollected)
    (valid : anyFatal (Validation.findings schema store) = false) : pass.IsQuiet schema store := by
  have sound := Validation.isSound_of_findings collected valid
  cases standard with
  | validateDocuments =>
    refine ⟨fun _ => [], Validation.findings schema store, ?_, valid⟩
    rw [Store.grow_empty, Validation.run_eq schema collected]
  | addKeyFields keys =>
    by_cases used : keys = []
    · subst used
      exact ⟨fun _ => [], [], by rw [Store.grow_empty]; rfl, rfl⟩
    · exact ⟨_, _, KeyFields.run_eq used collected,
        KeyFields.advisory_reportsFrom _ _ (Walk.advisory_reports collected sound)⟩
  | addTypename =>
    exact ⟨_, _, Typename.run_eq schema collected, Walk.advisory_storeEvents collected sound⟩

end Pass.IsStandard

namespace Run

/-- A run over documents that validation lets pass has nothing fatal to report. -/
theorem ofPasses_quiet {passes : List Pass} (collected : store.IsCollected)
    (valid : anyFatal (Validation.findings schema store) = false)
    (standard : ∀ pass ∈ passes, pass.IsStandard) :
    (ofPasses schema store passes).fault = none ∧
      anyFatal (ofPasses schema store passes).diagnostics = false := by
  induction passes generalizing store with
  | nil => exact ⟨rfl, rfl⟩
  | cons pass passes ih =>
    obtain ⟨growth, reports, ran, quiet⟩ :=
      (standard pass List.mem_cons_self).isQuiet collected valid
    obtain ⟨sound, rest⟩ := ih (collected.grow growth) (by rw [Validation.findings_grow, valid])
      fun other member => standard other (List.mem_cons_of_mem _ member)
    rw [ofPasses_cons_advisory ran quiet]
    refine ⟨sound, ?_⟩
    rw [after, anyFatal_append, anyFatal_map_sign, quiet, rest]
    rfl

end Run

theorem Validation.unsigned_findings {diagnostic : Diagnostic}
    (member : diagnostic ∈ findings schema store) : diagnostic.pass = "" := by
  simp only [findings, List.mem_append, List.mem_flatten, List.mem_map] at member
  obtain (⟨_, ⟨document, _, rfl⟩, reported⟩ | ⟨cycle, _, rfl⟩) | unused := member
  · rcases List.mem_append.1 reported with root | unknown
    · obtain ⟨issue, _, rfl⟩ := Option.map_eq_some_iff.1 (Option.mem_toList.1 root)
      rfl
    · obtain ⟨use, _, rfl⟩ := List.mem_map.1 unknown
      rfl
  · rfl
  · obtain ⟨document, _, rfl⟩ := List.mem_map.1 unused
    rfl

theorem Pass.isStandard_defaults (keys : List String) :
    ∀ pass ∈ Pass.defaults keys, pass.IsStandard := by
  intro pass member
  rw [defaults] at member
  rcases List.mem_append.1 member with first | last
  · rcases List.mem_append.1 first with validation | rewriting
    · rw [List.mem_singleton.1 validation]
      exact .validateDocuments
    · split at rewriting
      · cases rewriting
      · rw [List.mem_singleton.1 rewriting]
        exact .addKeyFields keys
  · rw [List.mem_singleton.1 last]
    exact .addTypename

theorem exists_store_of_compileDocuments {schema : Schema} {documents : List Document}
    {passes : List Pass} {run : Run} (collected : ∀ document ∈ documents, document.IsCollected)
    (compiled : compileDocuments schema documents passes = .ok run) :
    ∃ store : Store, store.IsCollected ∧ store.documents = documents ∧
      Run.ofPasses schema store passes = run := by
  cases made : Store.ofDocuments documents with
  | error => rw [compileDocuments, made] at compiled; cases compiled
  | ok store =>
    rw [compileDocuments, made] at compiled
    have entries := Store.entries_of_ofDocuments made
    exact ⟨store, Store.isCollected_of_entries collected entries,
      Store.documents_of_entries entries, Except.ok.inj compiled⟩

/-- Compiling distinct documents comes to an end. Only validation reports anything fatal, and then
the documents are as they were. -/
theorem compileDocuments_safe (schema : Schema) (keys : List String) {documents : List Document}
    (collected : ∀ document ∈ documents, document.IsCollected)
    (distinct : (documents.map Document.name).Nodup) :
    ∃ run, compileDocuments schema documents (Pass.defaults keys) = .ok run ∧ run.fault = none ∧
      (∀ diagnostic ∈ run.diagnostics, diagnostic.isFatal = true →
        diagnostic.pass = "validate_documents") ∧
      (run.ok = false → run.store.documents = documents) := by
  obtain ⟨store, made, entries⟩ := Store.ofDocuments_of_nodup distinct
  have kept : store.IsCollected := Store.isCollected_of_entries collected entries
  have same : store.documents = documents := by
    rw [Store.documents, entries, List.map_map]
    exact List.map_id documents
  refine ⟨Run.ofPasses schema store (Pass.defaults keys), by rw [compileDocuments, made]; rfl, ?_⟩
  have first := Validation.run_eq schema kept
  cases valid : anyFatal (Validation.findings schema store) with
  | true =>
    rw [Pass.defaults, List.singleton_append, List.cons_append, Run.ofPasses_cons_fatal first valid]
    refine ⟨rfl, fun diagnostic member _ => ?_, fun _ => same⟩
    obtain ⟨finding, found, rfl⟩ := List.mem_map.1 member
    rw [Diagnostic.sign, if_pos (Validation.unsigned_findings found)]
    rfl
  | false =>
    obtain ⟨sound, advisory⟩ := Run.ofPasses_quiet kept valid (Pass.isStandard_defaults keys)
    refine ⟨sound, fun diagnostic member fatal => ?_, fun failed => ?_⟩
    · exact absurd fatal (List.any_eq_false.1 advisory diagnostic member)
    · rw [Run.ok, sound, advisory] at failed
      cases failed

theorem compileDocuments_safe_sample :
    ∃ run, compileDocuments Sample.schema [Sample.page, Sample.info] (Pass.defaults ["id"]) =
        .ok run ∧ run.fault = none ∧
      (∀ diagnostic ∈ run.diagnostics, diagnostic.isFatal = true →
        diagnostic.pass = "validate_documents") ∧
      (run.ok = false → run.store.documents = [Sample.page, Sample.info]) :=
  compileDocuments_safe Sample.schema ["id"]
    (List.forall_mem_cons.2 ⟨Sample.isCollected_page,
      List.forall_mem_singleton.2 Sample.isCollected_info⟩)
    (by decide)

end DocumentNormalizer
