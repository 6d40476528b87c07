import DocumentNormalizer.Proofs.Rewriting
import DocumentNormalizer.Proofs.Validation

namespace DocumentNormalizer

/-- The passes that a compile can be put together from. -/
inductive Pass.IsStandard : Pass → Prop
  | validateDocuments : IsStandard .validateDocuments
  | addKeyFields (keys : List String) : IsStandard (.addKeyFields keys)
  | addTypename : IsStandard .addTypename

/-- A pass makes the documents of a store grow. After that it leaves them as they are and has the
same to report, however much they grow further. -/
def Pass.Settles (pass : Pass) (schema : Schema) (store : Store) : Prop :=
  ∃ growth reports, pass.run schema store = ⟨store.grow growth, .ok reports⟩ ∧
    ∀ more, pass.run schema ((store.grow growth).grow more) =
      ⟨(store.grow growth).grow more, .ok reports⟩

namespace Completion

/-- A pass settles if it completes the sets that its events visit and reports what does not depend
on growth. -/
theorem settles {completion : Completion} {pass : Pass} {schema : Schema} {store : Store}
    {reports : Store → List Diagnostic} (collected : store.IsCollected)
    (run : ∀ {store : Store}, store.IsCollected → pass.run schema store =
      ⟨store.grow (completion.growth store (Walk.storeEvents schema store)),
        .ok (reports store)⟩)
    (reports_grow : ∀ growth, reports (store.grow growth) = reports store) :
    pass.Settles schema store := by
  refine ⟨_, _, run collected, fun more => ?_⟩
  have found (document : String) (scope : Scope)
      (member : .visit document scope ∈ Walk.storeEvents schema store) :
      (store.set? scope.place).isSome := Walk.found_of_visit_store collected member
  rw [run ((collected.grow _).grow more), Walk.storeEvents_grow, Walk.storeEvents_grow,
    growth_settled found, Store.grow_empty, Store.grow_grow, reports_grow]

end Completion

namespace Pass

variable {schema : Schema} {store : Store}

theorem settles_validateDocuments (collected : store.IsCollected) :
    validateDocuments.Settles schema store := by
  refine ⟨fun _ => [], Validation.findings schema store, ?_, fun more => ?_⟩
  · rw [Validation.run_eq schema collected, Store.grow_empty]
  · rw [Store.grow_empty, Validation.run_eq schema (collected.grow more), Validation.findings_grow]

theorem settles_addKeyFields (keys : List String) (collected : store.IsCollected) :
    (addKeyFields keys).Settles schema store := by
  by_cases used : keys = []
  · subst used
    have idle (store : Store) : (addKeyFields []).run schema store = ⟨store, .ok []⟩ := rfl
    exact ⟨fun _ => [], [], by rw [idle, Store.grow_empty], fun more => idle _⟩
  · apply Completion.settles collected (KeyFields.run_eq used)
    intro growth
    rw [KeyFields.reportsFrom_grow, Store.keys_grow]

theorem settles_addTypename (collected : store.IsCollected) :
    addTypename.Settles schema store := by
  apply Completion.settles collected (Typename.run_eq schema)
  intro growth
  rw [Walk.storeEvents_grow]

theorem IsStandard.settles {pass : Pass} (standard : pass.IsStandard) (schema : Schema)
    (collected : store.IsCollected) : pass.Settles schema store := by
  cases standard with
  | validateDocuments => exact settles_validateDocuments collected
  | addKeyFields keys => exact settles_addKeyFields keys collected
  | addTypename => exact settles_addTypename collected

end Pass

namespace Run

variable {passes : List Pass}

/-- A run makes the documents grow, and it finds nothing more to do in them afterwards. -/
theorem ofPasses_settles {store : Store} (schema : Schema) (collected : store.IsCollected)
    (standard : ∀ pass ∈ passes, pass.IsStandard) :
    ∃ growth diagnostics events,
      ofPasses schema store passes = ⟨store.grow growth, diagnostics, events, none⟩ ∧
      ∀ more, ofPasses schema ((store.grow growth).grow more) passes =
        ⟨(store.grow growth).grow more, diagnostics, events, none⟩ := by
  induction passes generalizing store with
  | nil => exact ⟨fun _ => [], [], [], by rw [Store.grow_empty]; rfl, fun more => rfl⟩
  | cons pass passes ih =>
    obtain ⟨growth, reports, first, again⟩ :=
      (standard pass List.mem_cons_self).settles schema collected
    cases fatal : anyFatal reports with
    | true =>
      refine ⟨growth, _, _, ofPasses_cons_fatal first fatal passes, fun more => ?_⟩
      rw [ofPasses_cons_fatal (again more) fatal, Store.length_entries_grow,
        Store.length_entries_grow]
    | false =>
      obtain ⟨further, diagnostics, events, rest, restAgain⟩ :=
        ih (collected.grow growth) fun other member =>
          standard other (List.mem_cons_of_mem _ member)
      refine ⟨fun place => growth place ++ further place,
        reports.map (·.sign pass.name) ++ diagnostics,
        .running pass.name store.entries.length :: events, ?_, fun more => ?_⟩
      · rw [ofPasses_cons_advisory first fatal, rest, Store.grow_grow]
        rfl
      · have regrouped : (store.grow fun place => growth place ++ further place).grow more =
            (store.grow growth).grow fun place => further place ++ more place := by
          simp only [Store.grow_grow, List.append_assoc]
        rw [regrouped, ofPasses_cons_advisory (again _) fatal, ← Store.grow_grow, restAgain,
          Store.length_entries_grow, Store.length_entries_grow, Store.length_entries_grow]
        rfl

/-- A second run of the same passes changes no document and reports the same diagnostics. -/
theorem ofPasses_ofPasses {store : Store} (schema : Schema) (collected : store.IsCollected)
    (standard : ∀ pass ∈ passes, pass.IsStandard) :
    (ofPasses schema store passes).fault = none ∧
      ofPasses schema (ofPasses schema store passes).store passes =
        ofPasses schema store passes := by
  obtain ⟨growth, diagnostics, events, first, again⟩ :=
    ofPasses_settles schema collected standard
  have second := again fun _ => []
  rw [Store.grow_empty] at second
  rw [first]
  exact ⟨rfl, second⟩

theorem ofPasses_ofPasses_sample :
    let passes := [Pass.addTypename, .validateDocuments, .addKeyFields ["id"], .addTypename]
    (ofPasses Sample.schema Sample.store passes).fault = none ∧
      ofPasses Sample.schema (ofPasses Sample.schema Sample.store passes).store passes =
        ofPasses Sample.schema Sample.store passes := by
  apply ofPasses_ofPasses Sample.schema Sample.isCollected
  simp [Pass.IsStandard.validateDocuments, Pass.IsStandard.addKeyFields,
    Pass.IsStandard.addTypename]

end Run

end DocumentNormalizer
