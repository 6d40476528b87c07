import DocumentNormalizer.Pass.KeyFields
import DocumentNormalizer.Proofs.Completion

namespace DocumentNormalizer

open Walk (Event attend reports documentEvents storeEvents)

@[simp]
theorem anyFatal_append (first second : List Diagnostic) :
    anyFatal (first ++ second) = (anyFatal first || anyFatal second) :=
  List.any_append

@[simp]
theorem anyFatal_map_sign (pass : String) (diagnostics : List Diagnostic) :
    anyFatal (diagnostics.map (·.sign pass)) = anyFatal diagnostics := by
  have same (diagnostic : Diagnostic) : (diagnostic.sign pass).isFatal = diagnostic.isFatal := by
    rw [Diagnostic.sign]
    split <;> rfl
  simp only [anyFatal, List.any_map, Function.comp_def, same]

namespace Run

variable {schema : Schema} {store next : Store} {pass : Pass} {given : List Diagnostic}

theorem ofPasses_cons_fatal (ran : pass.run schema store = ⟨next, .ok given⟩)
    (fatal : anyFatal given = true) (passes : List Pass) :
    ofPasses schema store (pass :: passes) =
      ⟨next, given.map (·.sign pass.name),
        [.running pass.name store.entries.length, .stopping pass.name], none⟩ := by
  rw [ofPasses, ran]
  simp only [anyFatal_map_sign, fatal, if_true]

theorem ofPasses_cons_advisory (ran : pass.run schema store = ⟨next, .ok given⟩)
    (advisory : anyFatal given = false) (passes : List Pass) :
    ofPasses schema store (pass :: passes) =
      (ofPasses schema next passes).after (given.map (·.sign pass.name))
        (.running pass.name store.entries.length) := by
  rw [ofPasses, ran]
  simp only [anyFatal_map_sign, advisory, Bool.false_eq_true, if_false]

theorem ofPasses_singleton (ran : pass.run schema store = ⟨next, .ok given⟩) :
    (ofPasses schema store [pass]).store = next ∧ (ofPasses schema store [pass]).fault = none := by
  cases fatal : anyFatal given with
  | true => rw [ofPasses_cons_fatal ran fatal]; exact ⟨rfl, rfl⟩
  | false => rw [ofPasses_cons_advisory ran fatal]; exact ⟨rfl, rfl⟩

end Run

namespace Typename

def completion : Completion where
  names := [typenameField]
  wanted scope set := scope.type.isAbstract && set.hasTypedInline
  wanted_grow scope set added := by rw [SelectionSet.hasTypedInline_grow]

theorem completes : visitor.Completes completion := by
  intro visit memory
  simp only [visitor, isMissing, completion]
  by_cases narrows : (visit.scope.type.isAbstract && visit.set.hasTypedInline) = true
  · by_cases selected : visit.set.selects typenameField = true
    · simp [narrows, KeyFields.missing, selected]
    · simp [narrows, KeyFields.missing, selected, Selection.bare]
      rfl
  · simp [narrows]

theorem run_eq (schema : Schema) {store : Store} (collected : store.IsCollected) :
    Pass.addTypename.run schema store =
      ⟨store.grow (completion.growth store (storeEvents schema store)),
        .ok (reports (storeEvents schema store))⟩ := by
  have start := Walk.Grown.start store ()
  have same : store = store.grow (completion.growth store []) := (store.grow_empty).symm
  have walked : Walk.documents schema visitor () store = _ :=
    Walk.documents_eq_foldl collected completes.appendsLeaves ()
  have sound := (start.foldl completes.appendsLeaves (storeEvents schema store)).sound
  simp only [Pass.addTypename, run, walked, sound, Walk.diagnostics_foldl]
  rw [Completion.store_foldl completes same fun document scope member =>
    Walk.found_of_visit_store collected member]
  rfl

end Typename

namespace KeyFields

/-- Sets of entities whose keys are usable are to select the keys, unless they are the bodies of
inline fragments. -/
def completion (schema : Schema) (keys : List String) : Completion where
  names := keys
  wanted scope _ := scope.entrance ≠ .inline && isEntity schema keys scope.type &&
    (unusable schema keys scope.type).isEmpty
  wanted_grow _ _ _ := rfl

theorem completes (schema : Schema) (keys : List String) :
    (visitor schema keys).Completes (completion schema keys) := by
  intro visit memory
  simp only [visitor, completion]
  by_cases inline : visit.scope.entrance = .inline
  · simp [inline]
  · by_cases entity : isEntity schema keys visit.scope.type = true
    · simp only [inline, entity, decide_false, Bool.not_true, Bool.or_self, Bool.false_eq_true,
        if_false, ne_eq, not_false_eq_true, decide_true, Bool.true_and]
      cases unusable schema keys visit.scope.type <;> simp [Selection.bare, Function.comp_def]
    · simp [inline, entity]

variable {schema : Schema} {keys : List String} {store : Store}

def remember (schema : Schema) (keys : List String) (store : Store) (memory : Memory) :
    Event → Memory
  | .visit document scope =>
    (visitor schema keys ⟨document, scope, store.setAt scope.place⟩ memory).2
  | .report _ => memory

theorem reject_congr (first second : Visit) (document : first.document = second.document)
    (scope : first.scope = second.scope) (position : first.set.position = second.set.position) :
    reject first = reject second := by
  funext memory key
  rw [reject, reject, document, scope, position]

theorem remember_grow (growth : Growth) :
    remember schema keys (store.grow growth) = remember schema keys store := by
  funext memory event
  cases event with
  | report diagnostic => rfl
  | visit document scope =>
    have same := reject_congr ⟨document, scope, (store.grow growth).setAt scope.place⟩
      ⟨document, scope, store.setAt scope.place⟩ rfl rfl
      (Walk.position_setAt_grow growth scope.place)
    simp only [remember, visitor, same]
    split
    · rfl
    · split <;> rfl

theorem memory_foldl {progress : Progress Memory} (grown : Walk.Grown store progress)
    (events : List Event) :
    (events.foldl (attend (visitor schema keys)) progress).memory =
      events.foldl (remember schema keys store) progress.memory := by
  induction events generalizing progress with
  | nil => rfl
  | cons event rest ih =>
    obtain ⟨growth, same⟩ := grown.growth
    have first : (attend (visitor schema keys) progress event).memory =
        remember schema keys store progress.memory event := by
      rw [← remember_grow growth, ← same]
      cases event <;> rfl
    rw [List.foldl_cons, ih (grown.attend (completes schema keys).appendsLeaves event), first]
    rfl

def memoryAfter (schema : Schema) (keys : List String) (store : Store) (memory : Memory)
    (key : String) : Memory :=
  (documentEvents schema store key).foldl (remember schema keys store) memory

/-- What is reported for documents, given what was rejected before. -/
def reportsFrom (schema : Schema) (keys : List String) (store : Store)
    (rejected : List (String × String)) : List String → List Diagnostic
  | [] => []
  | key :: rest =>
    let memory := memoryAfter schema keys store ⟨rejected, []⟩ key
    memory.reports ++ reports (documentEvents schema store key) ++
      reportsFrom schema keys store memory.rejected rest

theorem document_eq (collected : store.IsCollected) (before : List Event)
    (rejected : List (String × String)) (diagnostics : List Diagnostic) (key : String) :
    document schema keys store.walkDepth key
        ⟨store.grow ((completion schema keys).growth store before), ⟨rejected, []⟩, diagnostics,
          none⟩ =
      ⟨store.grow ((completion schema keys).growth store
          (before ++ documentEvents schema store key)),
        ⟨(memoryAfter schema keys store ⟨rejected, []⟩ key).rejected, []⟩,
        diagnostics ++ (memoryAfter schema keys store ⟨rejected, []⟩ key).reports ++
          reports (documentEvents schema store key), none⟩ := by
  have completes := completes schema keys
  have leaves := completes.appendsLeaves
  have grown : Walk.Grown store (⟨store.grow ((completion schema keys).growth store before),
      ⟨rejected, []⟩, [], none⟩ : Progress Memory) := ⟨⟨_, rfl⟩, rfl⟩
  rw [document, Walk.document_eq_foldl collected leaves key grown]
  have found (other : String) (scope : Scope)
      (member : .visit other scope ∈ documentEvents schema store key) :
      (store.set? scope.place).isSome := Walk.found_of_visit collected member
  have start : (⟨store.grow ((completion schema keys).growth store before), ⟨rejected, []⟩, [],
      none⟩ : Progress Memory).store = store.grow ((completion schema keys).growth store before) :=
    rfl
  have same := Completion.store_foldl completes start found
  have sound := (grown.foldl leaves (documentEvents schema store key)).sound
  simp only [same, sound, memory_foldl grown, Walk.diagnostics_foldl, List.nil_append, memoryAfter]

theorem foldl_document (collected : store.IsCollected) (before : List Event)
    (rejected : List (String × String)) (diagnostics : List Diagnostic) (names : List String) :
    ∃ rest, names.foldl (fun progress key =>
        if progress.fault.isSome then progress
        else document schema keys store.walkDepth key progress)
        ⟨store.grow ((completion schema keys).growth store before), ⟨rejected, []⟩, diagnostics,
          none⟩ =
      ⟨store.grow ((completion schema keys).growth store
          (before ++ names.flatMap (documentEvents schema store))),
        rest, diagnostics ++ reportsFrom schema keys store rejected names, none⟩ := by
  induction names generalizing before rejected diagnostics with
  | nil => exact ⟨⟨rejected, []⟩, by simp [reportsFrom]⟩
  | cons key names ih =>
    obtain ⟨rest, later⟩ := ih (before ++ documentEvents schema store key)
      (memoryAfter schema keys store ⟨rejected, []⟩ key).rejected
      (diagnostics ++ (memoryAfter schema keys store ⟨rejected, []⟩ key).reports ++
        reports (documentEvents schema store key))
    refine ⟨rest, ?_⟩
    simp only [List.foldl_cons, Option.isSome_none, Bool.false_eq_true, if_false,
      document_eq collected]
    rw [later]
    simp only [List.flatMap_cons, reportsFrom, List.append_assoc]

theorem reportsFrom_grow (growth : Growth) (rejected : List (String × String))
    (names : List String) :
    reportsFrom schema keys (store.grow growth) rejected names =
      reportsFrom schema keys store rejected names := by
  induction names generalizing rejected with
  | nil => rfl
  | cons key rest ih =>
    simp only [reportsFrom, memoryAfter, remember_grow, Walk.documentEvents_grow, ih]

theorem run_nil (schema : Schema) (store : Store) :
    (Pass.addKeyFields []).run schema store = ⟨store, .ok []⟩ :=
  rfl

theorem run_eq (used : keys ≠ []) (collected : store.IsCollected) :
    (Pass.addKeyFields keys).run schema store =
      ⟨store.grow ((completion schema keys).growth store (storeEvents schema store)),
        .ok (reportsFrom schema keys store [] store.keys)⟩ := by
  obtain ⟨rest, walked⟩ := foldl_document collected [] [] [] store.keys
  have start : store.grow ((completion schema keys).growth store []) = store := store.grow_empty
  rw [start] at walked
  simp only [Pass.addKeyFields]
  rw [run, if_neg (by simpa using used)]
  simp only [walked, List.nil_append]
  rfl

end KeyFields

end DocumentNormalizer
