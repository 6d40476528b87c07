import DocumentNormalizer.Artifacts
import DocumentNormalizer.Proofs.Composition

namespace DocumentNormalizer

/-- A pass that leaves documents under the names that they were collected under. What they go by and
what they hold it may change. -/
def Pass.KeepsKeys (pass : Pass) (schema : Schema) : Prop :=
  ∀ store, (pass.run schema store).store.keys = store.keys

theorem Sample.keepsKeys_swap : Sample.swap.KeepsKeys Sample.schema :=
  fun store => store.keys_mapDocuments _

namespace Store

variable {store : Store}

theorem names_eq_keys_iff :
    store.names = store.keys ↔ ∀ entry ∈ store.entries, entry.document.name = entry.key := by
  rw [names, documents, List.map_map, keys]
  exact List.map_inj_left

theorem names_ne_keys_iff :
    store.names ≠ store.keys ↔ ∃ entry ∈ store.entries, entry.document.name ≠ entry.key := by
  rw [Ne, names_eq_keys_iff]
  simp only [not_forall, exists_prop, ne_eq]

theorem confirms_print (named : store.names = store.keys) {document : Document}
    (member : document ∈ store.documents) : store.confirms document.print = true := by
  obtain ⟨entry, held, rfl⟩ := List.mem_map.1 member
  have found : store.get? entry.document.print.name = some entry.document := by
    have same : entry.document.print.name = entry.key := names_eq_keys_iff.1 named entry held
    rw [same]
    exact get?_of_mem held
  rw [confirms, found, Option.any_some]
  exact decide_eq_true rfl

theorem print_eq (named : store.names = store.keys) :
    store.print = .ok (store.documents.map Document.print) := by
  have stable : (store.documents.map Document.print).find? (!store.confirms ·) = none := by
    rw [List.find?_eq_none]
    intro printed member
    obtain ⟨document, held, rfl⟩ := List.mem_map.1 member
    rw [confirms_print named held]
    exact Bool.false_ne_true
  rw [print, stable]

end Store

namespace Run

variable {schema : Schema} {documents : List Document} {passes : List Pass} {run : Run}
  {count : Nat}

theorem keys_ofPasses (store : Store) (keeps : ∀ pass ∈ passes, pass.KeepsKeys schema) :
    (ofPasses schema store passes).store.keys = store.keys := by
  induction passes generalizing store with
  | nil => rfl
  | cons pass passes ih =>
    obtain ⟨own, others⟩ := List.forall_mem_cons.1 keeps
    rw [ofPasses, ← own store]
    cases (pass.run schema store).reports with
    | error fault => rfl
    | ok given =>
      dsimp only
      split
      · rfl
      · exact ih _ others

theorem checked_eq_ok (sound : run.fault = none) (named : run.store.names = run.store.keys)
    (counted : run.store.keys.length = count) : run.checked count = .ok run := by
  rw [checked, sound]
  exact if_pos ⟨named, counted⟩

theorem checked_eq_error (sound : run.fault = none) (renamed : run.store.names ≠ run.store.keys) :
    run.checked count = .error (.namesChanged run.store.keys run.store.names) := by
  rw [checked, sound]
  exact if_neg fun accepted => renamed accepted.1

theorem print_eq (named : run.store.names = run.store.keys) :
    run.print = .ok ⟨run.store.documents.map Document.print, run.diagnostics⟩ := by
  rw [print, Store.print_eq named]
  rfl

end Run

/-- Whatever passes do to the names of documents, a compile is held back if and only if a document
ends with another name than it was collected under. What is let through is printed, one text for
each document, in order and under the names that they were collected under. -/
theorem compileDocuments_checked (schema : Schema) {documents : List Document}
    {passes : List Pass} (distinct : (documents.map Document.name).Nodup)
    (ends : ∀ pass ∈ passes, pass.Ends schema) (keeps : ∀ pass ∈ passes, pass.KeepsKeys schema) :
    ∃ run, compileDocuments schema documents passes = .ok run ∧
      run.store.keys = documents.map Document.name ∧
      (∀ fault, run.checked documents.length = .error fault ↔
        fault = .namesChanged (documents.map Document.name) run.store.names ∧
          ∃ entry ∈ run.store.entries, entry.document.name ≠ entry.key) ∧
      ∀ passed, run.checked documents.length = .ok passed →
        ∃ artifacts, passed.print = .ok artifacts ∧
          artifacts.documents = run.store.documents.map Document.print ∧
          artifacts.documents.map PrintedDocument.name = documents.map Document.name ∧
          artifacts.diagnostics = run.diagnostics := by
  obtain ⟨store, made, entries⟩ := Store.ofDocuments_of_nodup distinct
  obtain ⟨sound, _⟩ := Run.exists_isRecord store ends
  have keys : (Run.ofPasses schema store passes).store.keys = documents.map Document.name := by
    rw [Run.keys_ofPasses store keeps, Store.keys, entries, List.map_map]
    rfl
  refine ⟨Run.ofPasses schema store passes, by rw [compileDocuments, made]; rfl, keys, ?_⟩
  generalize Run.ofPasses schema store passes = run at sound keys
  by_cases named : run.store.names = run.store.keys
  · have counted : run.store.keys.length = documents.length := by rw [keys, List.length_map]
    rw [Run.checked_eq_ok sound named counted]
    constructor
    · intro fault
      constructor
      · intro held
        cases held
      · rintro ⟨_, renamed⟩
        exact absurd named (Store.names_ne_keys_iff.2 renamed)
    · intro passed same
      cases same
      refine ⟨_, Run.print_eq named, rfl, ?_, rfl⟩
      rw [← keys, ← named, Store.names, List.map_map]
      rfl
  · rw [Run.checked_eq_error sound named, keys]
    constructor
    · intro fault
      constructor
      · intro held
        cases held
        exact ⟨rfl, Store.names_ne_keys_iff.1 named⟩
      · rintro ⟨rfl, _⟩
        rfl
    · intro passed other
      cases other

/-- Two documents that have changed names are held back, and let through once they have changed
back. -/
theorem compileDocuments_checked_swap :
    (∃ run, compileDocuments Sample.schema [Sample.page, Sample.info] [Sample.swap] = .ok run ∧
      run.checked 2 = .error (.namesChanged ["Page", "Info"] ["Info", "Page"])) ∧
    ∃ run artifacts,
      compileDocuments Sample.schema [Sample.page, Sample.info] [Sample.swap, Sample.swap] =
        .ok run ∧
      run.checked 2 = .ok run ∧ run.print = .ok artifacts ∧
      artifacts.documents.map PrintedDocument.name = ["Page", "Info"] := by
  have distinct : ([Sample.page, Sample.info].map Document.name).Nodup := by decide
  have ends : ∀ pass ∈ [Sample.swap, Sample.swap], pass.Ends Sample.schema :=
    List.forall_mem_cons.2 ⟨Sample.ends_swap, List.forall_mem_singleton.2 Sample.ends_swap⟩
  have keeps : ∀ pass ∈ [Sample.swap, Sample.swap], pass.KeepsKeys Sample.schema :=
    List.forall_mem_cons.2
      ⟨Sample.keepsKeys_swap, List.forall_mem_singleton.2 Sample.keepsKeys_swap⟩
  constructor
  · obtain ⟨run, compiled, _, fails, _⟩ := compileDocuments_checked Sample.schema distinct
      (List.forall_mem_singleton.2 Sample.ends_swap)
      (List.forall_mem_singleton.2 Sample.keepsKeys_swap)
    refine ⟨run, compiled, ?_⟩
    cases compiled
    exact (fails _).2 ⟨rfl, _, List.mem_cons_self, by decide⟩
  · obtain ⟨run, compiled, _, fails, prints⟩ := compileDocuments_checked Sample.schema distinct
      ends keeps
    have passed : run.checked 2 = .ok run := by
      cases compiled
      rfl
    obtain ⟨artifacts, printed, _, named, _⟩ := prints run passed
    exact ⟨run, artifacts, compiled, passed, printed, named⟩

end DocumentNormalizer
