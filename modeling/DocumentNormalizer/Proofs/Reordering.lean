import DocumentNormalizer.Proofs.Safety
import DocumentNormalizer.Proofs.Verdict

namespace DocumentNormalizer

/-- Two stores hold the same documents under the same names. -/
def Store.IsReordering (first second : Store) : Prop := first.entries.Perm second.entries

namespace Store

theorem get?_eq_some_iff {store : Store} {key : String} {document : Document} :
    store.get? key = some document ↔ ⟨key, document⟩ ∈ store.entries :=
  ⟨mem_of_get?, get?_of_mem⟩

namespace IsReordering

variable {first second : Store} {schema : Schema} (same : first.IsReordering second)

include same

theorem symm : second.IsReordering first := List.Perm.symm same

theorem keys : first.keys.Perm second.keys := List.Perm.map _ same

theorem documents : first.documents.Perm second.documents := List.Perm.map _ same

theorem grow (growth : Growth) : (first.grow growth).IsReordering (second.grow growth) :=
  List.Perm.map _ same

theorem isCollected (collected : first.IsCollected) : second.IsCollected where
  named entry member := collected.named entry ((List.Perm.mem_iff same).2 member)
  collected entry member := collected.collected entry ((List.Perm.mem_iff same).2 member)

theorem get? (key : String) : first.get? key = second.get? key := by
  apply Option.ext
  intro document
  rw [get?_eq_some_iff, get?_eq_some_iff]
  exact List.Perm.mem_iff same

theorem fragment? (name : String) : first.fragment? name = second.fragment? name := by
  rw [Store.fragment?, same.get?, Store.fragment?]

theorem condition? (name : String) : first.condition? name = second.condition? name := by
  rw [Store.condition?, same.get?, Store.condition?]

theorem setAt (place : Place) : first.setAt place = second.setAt place := by
  rw [Store.setAt, set?, same.get?, Store.setAt, set?]

theorem walkDepth : first.walkDepth = second.walkDepth := by
  have deepest : first.deepest = second.deepest := by
    have depths := same.documents.map fun document =>
      Selection.depthOfAll document.definition.selectionSet.selections + 1
    rw [Store.deepest, Store.deepest]
    congr 1
    apply Option.ext
    intro depth
    simp only [List.max?_eq_some_iff, depths.mem_iff]
  rw [walkDepth_eq, walkDepth_eq, List.Perm.length_eq same, deepest]

theorem events (document : String) (depth : Nat) (scope : Scope) :
    Walk.events schema first document depth scope =
      Walk.events schema second document depth scope := by
  have step (scope : Scope) (index : Nat) (selection : Selection) :
      Walk.step schema first document scope index selection =
        Walk.step schema second document scope index selection := by
    rw [Walk.step, Walk.step]
    cases selection with
    | leaf => rfl
    | branch => rfl
    | inline => rfl
    | spread use => rw [Walk.follow, Walk.followSpread, same.fragment?]; rfl
  induction depth generalizing scope with
  | zero => rfl
  | succ depth ih =>
    rw [Walk.events, Walk.events, same.setAt]
    simp only [step, funext ih]

theorem documentEvents (key : String) :
    Walk.documentEvents schema first key = Walk.documentEvents schema second key := by
  rw [Walk.documentEvents, same.get?, same.walkDepth, Walk.documentEvents]
  simp only [same.events]

theorem storeEvents : (Walk.storeEvents schema first).Perm (Walk.storeEvents schema second) := by
  have each : Walk.documentEvents schema first = Walk.documentEvents schema second :=
    funext same.documentEvents
  rw [Walk.storeEvents, Walk.storeEvents, each]
  exact same.keys.flatMap_right _

theorem growth (completion : Completion) :
    completion.growth first (Walk.storeEvents schema first) =
      completion.growth second (Walk.storeEvents schema second) := by
  funext place
  have asks : completion.asks first place = completion.asks second place := by
    funext event
    cases event with
    | report => rfl
    | visit document scope => rw [Completion.asks, same.setAt, Completion.asks]
  rw [Completion.growth, Completion.growth, Completion.supplement, Completion.supplement, asks,
    same.storeEvents.any_eq, same.setAt]

theorem spreads : first.Spreads = second.Spreads := by
  funext name next
  simp only [Store.Spreads, same.get?]

theorem isValid (valid : first.IsValid schema) : second.IsValid schema where
  rooted document member := valid.rooted document (same.documents.mem_iff.2 member)
  resolved document member use given := by
    rw [← same.condition?]
    exact valid.resolved document (same.documents.mem_iff.2 member) use given
  acyclic := same.spreads ▸ valid.acyclic

theorem anyFatal_findings (collected : first.IsCollected) :
    anyFatal (Validation.findings schema first) = anyFatal (Validation.findings schema second) := by
  rw [Bool.eq_iff_iff, ← not_iff_not, Bool.not_eq_true, Bool.not_eq_true,
    Validation.anyFatal_findings_iff collected,
    Validation.anyFatal_findings_iff (same.isCollected collected)]
  exact ⟨same.isValid, same.symm.isValid⟩

theorem anyFatal_storeEvents :
    anyFatal (Walk.reports (Walk.storeEvents schema first)) =
      anyFatal (Walk.reports (Walk.storeEvents schema second)) :=
  (same.storeEvents.filterMap _).any_eq

end IsReordering

end Store

theorem KeyFields.anyFatal_reportsFrom {schema : Schema} {keys : List String} {store : Store}
    (rejected : List (String × String)) (names : List String) :
    anyFatal (reportsFrom schema keys store rejected names) =
      names.any fun key => anyFatal (Walk.reports (Walk.documentEvents schema store key)) := by
  induction names generalizing rejected with
  | nil => rfl
  | cons key rest ih =>
    have own : anyFatal (memoryAfter schema keys store ⟨rejected, []⟩ key).reports = false :=
      advisory_memory _ _ rfl
    simp only [reportsFrom, anyFatal_append, own, ih, Bool.false_or, List.any_cons]

namespace Pass

variable {schema : Schema} {first second : Store}

/-- A pass does the same to the documents of two stores, and it stops a run on both or on
neither. -/
def IgnoresOrder (pass : Pass) (schema : Schema) (first second : Store) : Prop :=
  ∃ growth reports others, pass.run schema first = ⟨first.grow growth, .ok reports⟩ ∧
    pass.run schema second = ⟨second.grow growth, .ok others⟩ ∧
    anyFatal reports = anyFatal others

theorem IsStandard.ignoresOrder {pass : Pass} (standard : pass.IsStandard)
    (same : first.IsReordering second) (collected : first.IsCollected) :
    pass.IgnoresOrder schema first second := by
  have others := same.isCollected collected
  cases standard with
  | validateDocuments =>
    refine ⟨fun _ => [], Validation.findings schema first, Validation.findings schema second, ?_, ?_,
      same.anyFatal_findings collected⟩
    · rw [Store.grow_empty, Validation.run_eq schema collected]
    · rw [Store.grow_empty, Validation.run_eq schema others]
  | addKeyFields keys =>
    by_cases used : keys = []
    · subst used
      refine ⟨fun _ => [], [], [], ?_, ?_, rfl⟩
      · rw [Store.grow_empty, KeyFields.run_nil]
      · rw [Store.grow_empty, KeyFields.run_nil]
    · refine ⟨_, _, KeyFields.reportsFrom schema keys second [] second.keys,
        KeyFields.run_eq used collected, ?_, ?_⟩
      · rw [KeyFields.run_eq used others, same.growth]
      · rw [KeyFields.anyFatal_reportsFrom, KeyFields.anyFatal_reportsFrom, same.keys.any_eq]
        simp only [same.documentEvents]
  | addTypename =>
    refine ⟨_, _, _, Typename.run_eq schema collected, ?_, same.anyFatal_storeEvents⟩
    rw [Typename.run_eq schema others, same.growth]

end Pass

namespace Run

variable {schema : Schema} {first second : Store} {passes : List Pass}

theorem fault_ofPasses (collected : first.IsCollected)
    (standard : ∀ pass ∈ passes, pass.IsStandard) :
    (ofPasses schema first passes).fault = none := by
  obtain ⟨growth, diagnostics, events, ran, _⟩ := ofPasses_settles schema collected standard
  rw [ran]

theorem ok_after (run : Run) {reports : List Diagnostic} (advisory : anyFatal reports = false)
    (event : RunEvent) : (run.after reports event).ok = run.ok := by
  rw [ok, after, anyFatal_append, advisory, Bool.false_or, ok]

/-- Runs over the same documents in another order make them grow the same. -/
theorem ofPasses_ignoresOrder (same : first.IsReordering second) (collected : first.IsCollected)
    (standard : ∀ pass ∈ passes, pass.IsStandard) :
    ∃ growth, (ofPasses schema first passes).store = first.grow growth ∧
      (ofPasses schema second passes).store = second.grow growth ∧
      (ofPasses schema first passes).ok = (ofPasses schema second passes).ok := by
  induction passes generalizing first second with
  | nil => exact ⟨fun _ => [], (Store.grow_empty first).symm, (Store.grow_empty second).symm, rfl⟩
  | cons pass passes ih =>
    obtain ⟨growth, reports, others, ran, ranToo, alike⟩ :=
      (standard pass List.mem_cons_self).ignoresOrder same collected
    cases fatal : anyFatal reports with
    | true =>
      rw [ofPasses_cons_fatal ran fatal, ofPasses_cons_fatal ranToo (alike ▸ fatal)]
      refine ⟨growth, rfl, rfl, ?_⟩
      rw [ok, ok, anyFatal_map_sign, anyFatal_map_sign, alike]
    | false =>
      obtain ⟨further, store, storeToo, verdict⟩ := ih (same.grow growth) (collected.grow growth)
        fun other member => standard other (List.mem_cons_of_mem _ member)
      rw [ofPasses_cons_advisory ran fatal, ofPasses_cons_advisory ranToo (alike ▸ fatal)]
      refine ⟨fun place => growth place ++ further place, ?_, ?_, ?_⟩
      · rw [← Store.grow_grow]
        exact store
      · rw [← Store.grow_grow]
        exact storeToo
      · rw [ok_after _ (by rw [anyFatal_map_sign, fatal]),
          ok_after _ (by rw [anyFatal_map_sign, ← alike, fatal]), verdict]

end Run

/-- The order of documents does not matter to what they are compiled to, nor to the verdict. -/
theorem compileDocuments_perm (schema : Schema) {documents others : List Document}
    {passes : List Pass} (collected : ∀ document ∈ documents, document.IsCollected)
    (distinct : (documents.map Document.name).Nodup) (reordered : documents.Perm others)
    (standard : ∀ pass ∈ passes, pass.IsStandard) :
    ∃ run other, compileDocuments schema documents passes = .ok run ∧
      compileDocuments schema others passes = .ok other ∧
      run.fault = none ∧ other.fault = none ∧ run.ok = other.ok ∧
      run.store.documents.Perm other.store.documents ∧
      ∀ name, run.store.get? name = other.store.get? name := by
  obtain ⟨first, made, entries⟩ := Store.ofDocuments_of_nodup distinct
  obtain ⟨second, madeToo, entriesToo⟩ :=
    Store.ofDocuments_of_nodup ((reordered.map Document.name).nodup_iff.1 distinct)
  have same : first.IsReordering second := by
    rw [Store.IsReordering, entries, entriesToo]
    exact reordered.map _
  have kept : first.IsCollected := Store.isCollected_of_entries collected entries
  obtain ⟨growth, store, storeToo, verdict⟩ := Run.ofPasses_ignoresOrder same kept standard
  refine ⟨Run.ofPasses schema first passes, Run.ofPasses schema second passes,
    by rw [compileDocuments, made]; rfl, by rw [compileDocuments, madeToo]; rfl,
    Run.fault_ofPasses kept standard, Run.fault_ofPasses (same.isCollected kept) standard,
    verdict, ?_⟩
  rw [store, storeToo]
  exact ⟨(same.grow growth).documents, (same.grow growth).get?⟩

theorem compileDocuments_perm_sample :
    ∃ run other,
      compileDocuments Sample.schema [Sample.page, Sample.info] [.addKeyFields ["id"],
        .addTypename] = .ok run ∧
      compileDocuments Sample.schema [Sample.info, Sample.page] [.addKeyFields ["id"],
        .addTypename] = .ok other ∧
      run.fault = none ∧ other.fault = none ∧ run.ok = other.ok ∧
      run.store.documents.Perm other.store.documents ∧
      ∀ name, run.store.get? name = other.store.get? name :=
  compileDocuments_perm Sample.schema
    (List.forall_mem_cons.2 ⟨Sample.isCollected_page,
      List.forall_mem_singleton.2 Sample.isCollected_info⟩)
    (by decide) (.swap _ _ _)
    (List.forall_mem_cons.2 ⟨.addKeyFields ["id"], List.forall_mem_singleton.2 .addTypename⟩)

end DocumentNormalizer
