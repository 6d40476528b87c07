import DocumentNormalizer.Proofs.Cycles
import DocumentNormalizer.Proofs.Depth
import DocumentNormalizer.Proofs.Validation

namespace DocumentNormalizer

/-- A fragment spreads another name. -/
def Store.Spreads (store : Store) (name next : String) : Prop :=
  ∃ document, store.get? name = some document ∧ document.kind.isFragment = true ∧
    next ∈ document.spreads.map (·.name)

/-- Documents that walks go through without a fatal report. -/
structure Store.IsSound (schema : Schema) (store : Store) : Prop where
  rooted : ∀ {key document}, store.get? key = some document →
    (document.rootType? schema).isSome = true
  resolved : ∀ {key document}, store.get? key = some document → ∀ use ∈ document.spreads,
    (store.condition? use.name).isSome = true
  acyclic : WellFounded fun next name => store.Spreads name next

@[simp]
theorem Diagnostic.isFatal_unsigned (issue : Issue) (document : String) (location : Location) :
    (Diagnostic.unsigned issue document location).isFatal = decide (issue.severity = .fatal) :=
  rfl

namespace Dependencies

theorem of?_set (dependencies : Dependencies) (name other : String) (needed : List String) :
    (dependencies.set other needed).of? name =
      if name = other then some needed else dependencies.of? name := by
  rw [set, of?, of?]
  split
  · next present =>
    have named (entry : String × List String) :
        (if entry.1 = other then (other, needed) else entry).1 = entry.1 := by
      split
      · next same => exact same.symm
      · rfl
    simp only [List.find?_map, Function.comp_def, named]
    cases found : dependencies.find? (·.1 = name) with
    | none =>
      have apart : name ≠ other := by
        rintro rfl
        obtain ⟨entry, member, same⟩ := List.any_eq_true.1 present
        exact List.find?_eq_none.1 found entry member same
      rw [if_neg apart]
      rfl
    | some entry =>
      have here : entry.1 = name := by simpa using List.find?_some found
      by_cases same : name = other <;> simp [here, same]
  · next absent =>
    rw [List.find?_append]
    by_cases same : name = other
    · subst same
      have missing : dependencies.find? (·.1 = name) = none :=
        List.find?_eq_none.2 fun entry member here =>
          absent (List.any_eq_true.2 ⟨entry, member, here⟩)
      simp [missing]
    · simp [same, Ne.symm same]

end Dependencies

namespace Validation

variable {schema : Schema} {store : Store}

theorem of?_foldl_set {documents : List Document} (distinct : (documents.map Document.name).Nodup)
    {document : Document} (member : document ∈ documents) (found : Dependencies) :
    (documents.foldl (fun found document =>
      found.set document.name (document.spreads.map (·.name))) found).of? document.name =
        some (document.spreads.map (·.name)) := by
  have others (rest : List Document) (fresh : document.name ∉ rest.map Document.name)
      (found : Dependencies) : (rest.foldl (fun found document =>
        found.set document.name (document.spreads.map (·.name))) found).of? document.name =
          found.of? document.name := by
    induction rest generalizing found with
    | nil => rfl
    | cons head rest ih =>
      simp only [List.map_cons, List.mem_cons, not_or] at fresh
      rw [List.foldl_cons, ih fresh.2, Dependencies.of?_set, if_neg fresh.1]
  induction documents generalizing found with
  | nil => cases member
  | cons head rest ih =>
    rw [List.map_cons, List.nodup_cons] at distinct
    rw [List.foldl_cons]
    rcases List.mem_cons.1 member with rfl | later
    · rw [others rest distinct.1, Dependencies.of?_set, if_pos rfl]
    · exact ih distinct.2 later _

theorem needs_of_spreads (collected : store.IsCollected) {name next : String}
    (spreads : store.Spreads name next) : (dependencies store).Needs name next := by
  obtain ⟨document, found, fragment, member⟩ := spreads
  refine ⟨_, ?_, member⟩
  rw [← collected.name_of_get? found]
  apply of?_foldl_set
  · exact collected.nodup_names.sublist (List.filter_sublist.map _)
  · exact List.mem_filter.2 ⟨Store.mem_documents_of_get? found, fragment⟩

theorem isSome_rootType? {document : Document}
    (advisory : ∀ diagnostic ∈ rootReport schema document, diagnostic.isFatal = false) :
    (document.rootType? schema).isSome = true := by
  unfold rootReport rootIssue? at advisory
  unfold Document.rootType?
  cases kind : document.kind with
  | operation operation =>
    cases found : schema.rootType? operation with
    | some type => simp [found]
    | none => simp [kind, found, Issue.severity] at advisory
  | fragment =>
    cases found : schema.type? (document.definition.typeCondition.getD "") with
    | some type => rfl
    | none => simp [kind, found, Issue.severity] at advisory

theorem isSound_of_findings (collected : store.IsCollected)
    (valid : anyFatal (findings schema store) = false) : store.IsSound schema := by
  have advisory (diagnostic : Diagnostic) (member : diagnostic ∈ findings schema store) :
      diagnostic.isFatal = false := by
    simpa using List.any_eq_false.1 valid diagnostic member
  simp only [findings, List.mem_append] at advisory
  have perDocument {document : Document} (member : document ∈ store.documents)
      {diagnostic : Diagnostic}
      (reported : diagnostic ∈ rootReport schema document ++ unknownReports store document) :
      diagnostic.isFatal = false :=
    advisory diagnostic
      (.inl (.inl (List.mem_flatten_of_mem (List.mem_map_of_mem member) reported)))
  constructor
  · intro key document found
    exact isSome_rootType? fun diagnostic reported =>
      perDocument (Store.mem_documents_of_get? found) (List.mem_append_left _ reported)
  · intro key document found use member
    by_contra unknown
    have reported : .unsigned (.unknownFragment use.name) document.name ⟨[], use.position⟩ ∈
        unknownReports store document :=
      List.mem_map_of_mem (List.mem_filter.2 ⟨member, by simpa using unknown⟩)
    have advice :=
      perDocument (Store.mem_documents_of_get? found) (List.mem_append_right _ reported)
    simp [Issue.severity] at advice
  · have none : (dependencies store).cycles = [] := by
      apply List.eq_nil_iff_forall_not_mem.2
      intro cycle member
      have advice := advisory _ (.inl (.inr (List.mem_map_of_mem member)))
      simp [cycleFinding, Issue.severity] at advice
    exact Subrelation.wf (needs_of_spreads collected)
      (Dependencies.wellFounded_of_cycles_eq_nil none)

end Validation

end DocumentNormalizer
