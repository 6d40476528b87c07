import DocumentNormalizer.Proofs.Collected

namespace DocumentNormalizer

namespace Validation

theorem filterM_ok {α ε : Type} {p : α → Except ε Bool} {q : α → Bool}
    (same : ∀ item, p item = .ok (q item)) (items : List α) :
    items.filterM p = .ok (items.filter q) := by
  have behind (kept : List α) :
      items.filterAuxM p kept = .ok ((items.filter q).reverse ++ kept) := by
    induction items generalizing kept with
    | nil => rfl
    | cons head rest ih =>
      rw [List.filterAuxM, same head]
      change rest.filterAuxM p (cond (q head) (head :: kept) kept) = _
      rw [ih]
      cases keep : q head <;> simp [keep]
  rw [List.filterM, behind]
  simp [bind, Except.bind, pure, Except.pure]

/-- The report of what is wrong with the type that a document selects from. -/
def rootReport (schema : Schema) (document : Document) : List Diagnostic :=
  ((rootIssue? schema document).map fun issue =>
    Diagnostic.unsigned issue document.name document.location).toList

def unknownReports (store : Store) (document : Document) : List Diagnostic :=
  (document.spreads.filter fun use => (store.condition? use.name).isNone).map fun use =>
    .unsigned (.unknownFragment use.name) document.name ⟨[], use.position⟩

/-- The report of a cycle among collected documents. -/
def cycleFinding (store : Store) (cycle : List String) : Diagnostic :=
  let name := cycle.headD ""
  .unsigned (.fragmentCycle cycle) name
    (match store.condition? name, store.get? name with
      | some _, some document => document.location
      | _, _ => .nowhere)

/-- What validation finds in collected documents. -/
def findings (schema : Schema) (store : Store) : List Diagnostic :=
  (store.documents.map fun document =>
      rootReport schema document ++ unknownReports store document).flatten ++
    (dependencies store).cycles.map (cycleFinding store) ++ unusedFragments store

variable {schema : Schema} {store : Store}

theorem checkDocument_eq (collected : store.IsCollected) (document : Document) :
    checkDocument schema store document =
      .ok (rootReport schema document ++ unknownReports store document) := by
  have unknown : (document.spreads.filterM fun use => do
      return (← store.fragment? use.name).isNone) =
        .ok (document.spreads.filter fun use => (store.condition? use.name).isNone) :=
    filterM_ok (fun use => by rw [collected.fragment?_eq]; rfl) _
  rw [checkDocument, unknownSpreads, unknown]
  rfl

theorem cycleReport_eq (collected : store.IsCollected) (cycle : List String) :
    cycleReport store cycle = .ok (cycleFinding store cycle) := by
  rw [cycleReport, fragmentLocation, collected.fragment?_eq, cycleFinding]
  cases store.condition? (cycle.headD "") <;> cases store.get? (cycle.headD "") <;> rfl

theorem reports_eq (collected : store.IsCollected) :
    reports schema store = .ok (findings schema store) := by
  have documents : checkDocument schema store = fun document =>
      pure (rootReport schema document ++ unknownReports store document) :=
    funext (checkDocument_eq collected)
  have cycles : cycleReport store = fun cycle => pure (cycleFinding store cycle) :=
    funext (cycleReport_eq collected)
  rw [reports, documents, cycles, List.mapM_pure, List.mapM_pure]
  rfl

theorem run_eq (schema : Schema) (collected : store.IsCollected) :
    Pass.validateDocuments.run schema store = ⟨store, .ok (findings schema store)⟩ := by
  simp only [Pass.validateDocuments]
  rw [run, reports_eq collected]

section Grow

variable {growth : Growth}

theorem map_documents_grow {α : Type} {f : Document → α}
    (same : ∀ (document : Document) added, f (document.grow added) = f document) :
    (store.grow growth).documents.map f = store.documents.map f := by
  rw [Store.documents_grow, Store.documents, List.map_map, List.map_map]
  apply List.map_congr_left
  intro entry _
  exact same _ _

theorem map_filter_documents_grow {α : Type} {p : Document → Bool} {f : Document → α}
    (kept : ∀ (document : Document) added, p (document.grow added) = p document)
    (same : ∀ (document : Document) added, f (document.grow added) = f document) :
    ((store.grow growth).documents.filter p).map f = (store.documents.filter p).map f := by
  have grown : (p ∘ fun entry : Entry => entry.document.grow fun path => growth ⟨entry.key, path⟩) =
      p ∘ Entry.document := funext fun entry => kept _ _
  rw [Store.documents_grow, Store.documents, List.filter_map, List.filter_map, List.map_map,
    List.map_map, grown]
  apply List.map_congr_left
  intro entry _
  exact same _ _

theorem condition?_grow (name : String) :
    (store.grow growth).condition? name = store.condition? name := by
  rw [Store.condition?, Store.get?_grow, Store.condition?]
  cases store.get? name <;> rfl

theorem unknownReports_grow (document : Document) :
    unknownReports (store.grow growth) document = unknownReports store document := by
  simp only [unknownReports, condition?_grow]

theorem spreadNames_grow : spreadNames (store.grow growth) = spreadNames store := by
  have same : (store.grow growth).documents.map (fun document => document.spreads.map (·.name)) =
      store.documents.map fun document => document.spreads.map (·.name) :=
    map_documents_grow fun document added => by rw [Document.spreads_grow]
  rw [spreadNames, spreadNames, List.flatMap_def, List.flatMap_def, same]

theorem dependencies_grow : dependencies (store.grow growth) = dependencies store := by
  have pairs (store : Store) : dependencies store =
      (store.fragments.map fun document => (document.name, document.spreads.map (·.name))).foldl
        (fun found entry => Dependencies.set found entry.1 entry.2) [] := by
    rw [List.foldl_map]
    rfl
  rw [pairs, pairs, Store.fragments, Store.fragments, map_filter_documents_grow]
  · intro document added
    rfl
  · intro document added
    rw [Document.spreads_grow]
    rfl

theorem cycleFinding_grow (cycle : List String) :
    cycleFinding (store.grow growth) cycle = cycleFinding store cycle := by
  simp only [cycleFinding, condition?_grow, Store.get?_grow]
  cases store.condition? (cycle.headD "") <;> cases store.get? (cycle.headD "") <;> rfl

theorem unusedFragments_grow : unusedFragments (store.grow growth) = unusedFragments store := by
  simp only [unusedFragments, Store.fragments, List.filter_filter, spreadNames_grow]
  apply map_filter_documents_grow
  · intro document added
    rfl
  · intro document added
    rfl

theorem findings_grow : findings schema (store.grow growth) = findings schema store := by
  have documents : (store.grow growth).documents.map (fun document =>
      rootReport schema document ++ unknownReports store document) =
        store.documents.map fun document =>
          rootReport schema document ++ unknownReports store document := by
    apply map_documents_grow
    intro document added
    simp only [unknownReports, Document.spreads_grow]
    rfl
  have cycles : cycleFinding (store.grow growth) = cycleFinding store := funext cycleFinding_grow
  simp only [findings, unknownReports_grow, documents, dependencies_grow, unusedFragments_grow,
    cycles]

end Grow

end Validation

end DocumentNormalizer
