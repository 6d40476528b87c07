import DocumentNormalizer.Proofs.Acceptance
import DocumentNormalizer.Proofs.Inlining

namespace DocumentNormalizer

open Relation (ReflTransGen)

/-- A walk without the record of its visits. -/
def Progress.unrecorded {σ : Type} (progress : Progress (σ × List Visit)) : Progress σ :=
  ⟨progress.store, progress.memory.1, progress.diagnostics, progress.fault⟩

namespace Walk

variable {σ : Type} {schema : Schema} {store : Store} {visitor : Visitor σ} {document : String}
  {depth more : Nat} {scope next : Scope}

section Enter

variable {progress : Progress σ} {index : Nat} {selection : Selection} {step : Step}
  (sound : progress.fault = none)

include sound

theorem enter_of_error {fault : WalkFault}
    (stops : follow schema progress.store document scope index selection = .error fault) :
    enter schema visitor document depth scope progress (selection, index) =
      { progress with fault := some fault } := by
  simp only [enter, sound, Option.isSome_none, Bool.false_eq_true, if_false, stops]

theorem enter_of_next_eq_none
    (follows : follow schema progress.store document scope index selection = .ok step)
    (stays : step.next = none) :
    enter schema visitor document depth scope progress (selection, index) =
      { progress with diagnostics := progress.diagnostics ++ step.reports } := by
  simp only [enter, sound, Option.isSome_none, Bool.false_eq_true, if_false, follows, stays]

theorem enter_of_next_eq_some
    (follows : follow schema progress.store document scope index selection = .ok step)
    (leads : step.next = some next) :
    enter schema visitor document depth scope progress (selection, index) =
      into schema visitor document depth next
        { progress with diagnostics := progress.diagnostics ++ step.reports } := by
  simp only [enter, sound, Option.isSome_none, Bool.false_eq_true, if_false, follows, leads]

end Enter

section Record

theorem unrecorded_enter {indexed : Selection × Nat} {progress : Progress (σ × List Visit)}
    (inside : ∀ scope progress,
      (into schema visitor.recording document depth scope progress).unrecorded =
        into schema visitor document depth scope progress.unrecorded) :
    (enter schema visitor.recording document depth scope progress indexed).unrecorded =
      enter schema visitor document depth scope progress.unrecorded indexed := by
  obtain ⟨selection, index⟩ := indexed
  cases faulty : progress.fault with
  | some fault => simp [enter, Progress.unrecorded, faulty]
  | none =>
    have sound : progress.unrecorded.fault = none := faulty
    cases follows : follow schema progress.store document scope index selection with
    | error fault =>
      rw [enter_of_error faulty follows, enter_of_error sound follows]
      rfl
    | ok step =>
      cases leads : step.next with
      | none =>
        rw [enter_of_next_eq_none faulty follows leads, enter_of_next_eq_none sound follows leads]
        rfl
      | some next =>
        rw [enter_of_next_eq_some faulty follows leads, enter_of_next_eq_some sound follows leads,
          inside]
        rfl

/-- A walk goes the same way with and without a record. -/
theorem unrecorded_into (scope : Scope) (progress : Progress (σ × List Visit)) :
    (into schema visitor.recording document depth scope progress).unrecorded =
      into schema visitor document depth scope progress.unrecorded := by
  induction depth generalizing scope progress with
  | zero => rfl
  | succ depth ih =>
    rw [into_succ, into_succ]
    exact (List.foldl_hom Progress.unrecorded fun _ _ => (unrecorded_enter ih).symm).symm

theorem unrecorded_document (key : String) (progress : Progress (σ × List Visit)) :
    (Walk.document schema visitor.recording depth key progress).unrecorded =
      Walk.document schema visitor depth key progress.unrecorded := by
  obtain ⟨store, memory, diagnostics, fault⟩ := progress
  simp only [Walk.document, Progress.unrecorded]
  cases store.get? key with
  | none => rfl
  | some document =>
    cases starts : start? schema key document with
    | error issue => simp only [starts]
    | ok scope =>
      simp only [starts]
      exact unrecorded_into scope _

end Record

section Fault

theorem fault_of_enter {progress : Progress σ} {indexed : Selection × Nat}
    (ends : (enter schema visitor document depth scope progress indexed).fault = none) :
    progress.fault = none := by
  cases faulty : progress.fault with
  | none => rfl
  | some fault => simp [enter, faulty] at ends

theorem fault_of_foldl_enter {progress : Progress σ} {selections : List (Selection × Nat)}
    (ends : (selections.foldl (enter schema visitor document depth scope) progress).fault = none) :
    progress.fault = none := by
  induction selections generalizing progress with
  | nil => exact ends
  | cons first rest ih => exact fault_of_enter (ih ends)

theorem enter_of_le {progress : Progress σ} {indexed : Selection × Nat}
    (inside : ∀ scope progress, (into schema visitor document depth scope progress).fault = none →
      into schema visitor document more scope progress =
        into schema visitor document depth scope progress)
    (ends : (enter schema visitor document depth scope progress indexed).fault = none) :
    enter schema visitor document more scope progress indexed =
      enter schema visitor document depth scope progress indexed := by
  obtain ⟨selection, index⟩ := indexed
  have sound := fault_of_enter ends
  cases follows : follow schema progress.store document scope index selection with
  | error fault => rw [enter_of_error sound follows, enter_of_error sound follows]
  | ok step =>
    cases leads : step.next with
    | none =>
      rw [enter_of_next_eq_none sound follows leads, enter_of_next_eq_none sound follows leads]
    | some next =>
      rw [enter_of_next_eq_some sound follows leads] at ends ⊢
      rw [enter_of_next_eq_some sound follows leads]
      exact inside next _ ends

theorem foldl_enter_of_le {progress : Progress σ} {selections : List (Selection × Nat)}
    (inside : ∀ scope progress, (into schema visitor document depth scope progress).fault = none →
      into schema visitor document more scope progress =
        into schema visitor document depth scope progress)
    (ends : (selections.foldl (enter schema visitor document depth scope) progress).fault = none) :
    selections.foldl (enter schema visitor document more scope) progress =
      selections.foldl (enter schema visitor document depth scope) progress := by
  induction selections generalizing progress with
  | nil => rfl
  | cons first rest ih =>
    have here := enter_of_le inside (fault_of_foldl_enter ends)
    rw [List.foldl_cons, List.foldl_cons, here]
    exact ih ends

/-- A walk that ends at some depth goes the same way at every greater one. -/
theorem into_of_le {progress : Progress σ} (deeper : depth ≤ more)
    (ends : (into schema visitor document depth scope progress).fault = none) :
    into schema visitor document more scope progress =
      into schema visitor document depth scope progress := by
  induction depth generalizing more scope progress with
  | zero => cases ends
  | succ depth ih =>
    obtain ⟨more, rfl⟩ := Nat.exists_eq_succ_of_ne_zero (Nat.ne_zero_of_lt deeper)
    rw [into_succ] at ends
    rw [into_succ, into_succ]
    exact foldl_enter_of_le (fun _ _ => ih (Nat.le_of_succ_le_succ deeper)) ends

theorem document_of_le {key : String} {progress : Progress σ} (deeper : depth ≤ more)
    (ends : (Walk.document schema visitor depth key progress).fault = none) :
    Walk.document schema visitor more key progress =
      Walk.document schema visitor depth key progress := by
  simp only [Walk.document] at ends ⊢
  cases found : progress.store.get? key with
  | none => rfl
  | some document =>
    simp only [found] at ends ⊢
    cases starts : start? schema key document with
    | error issue => rfl
    | ok scope =>
      rw [starts] at ends
      exact into_of_le deeper ends

end Fault

structure HasOpen (store : Store) (scope : Scope) : Prop where
  nodup : scope.openFragments.Nodup
  fragments : ∀ name ∈ scope.openFragments, store.HasFragment name

theorem HasOpen.leads (isOpen : HasOpen store scope) (collected : store.IsCollected)
    (leads : Leads schema store scope next) : HasOpen store next := by
  obtain ⟨index, selection, chosen, follows⟩ := leads
  cases follows with
  | inside has => exact ⟨isOpen.nodup, isOpen.fragments⟩
  | across fresh named =>
    refine ⟨by simpa using isOpen.nodup.concat fresh, fun name member => ?_⟩
    rcases List.mem_append.1 member with earlier | last
    · exact isOpen.fragments name earlier
    · rw [List.mem_singleton.1 last]
      exact (collected.hasFragment_iff _).2 (by rw [named]; rfl)

theorem hasOpen_of_reaches {key : String} {type : NamedType} (collected : store.IsCollected)
    (reaches : ReflTransGen (Leads schema store) (root key type) scope) : HasOpen store scope := by
  induction reaches with
  | refl => exact ⟨List.nodup_nil, fun _ member => nomatch member⟩
  | tail _ leads ih => exact ih.leads collected leads

theorem HasOpen.length_le (isOpen : HasOpen store scope) (collected : store.IsCollected) :
    scope.openFragments.length ≤ store.fragments.length := by
  have known : scope.openFragments ⊆ store.fragments.map Document.name := by
    intro name member
    obtain ⟨document, found, fragment⟩ := isOpen.fragments name member
    rw [← collected.name_of_get? found]
    refine List.mem_map_of_mem (List.mem_filter.2 ⟨Store.mem_documents_of_get? found, ?_⟩)
    rw [fragment]
    rfl
  have fits := (List.subperm_of_subset isOpen.nodup known).length_le
  rwa [List.length_map] at fits

/-- A visit on record comes with open fragments that are distinct fragments of the store. -/
theorem hasOpen_of_trace (collected : store.IsCollected) (leaves : visitor.AppendsLeaves)
    {key : String} {memory : σ} {visit : Visit}
    (member : visit ∈ (trace schema visitor store key memory).memory.2) :
    HasOpen store visit.scope := by
  rw [trace_eq_foldl collected leaves] at member
  rcases event_of_record _ _ visit member with before | happened
  · cases before
  · obtain ⟨_, _, _, _, _, reaches⟩ := exists_root_of_visit collected happened
    exact hasOpen_of_reaches collected reaches

/-- The walk of a document ends without a fault, and no greater depth makes a difference. At each of
its visits, the open fragments are distinct fragments of the store, so they are never more than
there are. -/
theorem document_ends (schema : Schema) (collected : store.IsCollected)
    (leaves : visitor.AppendsLeaves) (key : String) (memory : σ) :
    (trace schema visitor store key memory).fault = none ∧
    (∀ depth, store.walkDepth ≤ depth →
      Walk.document schema visitor depth key ⟨store, memory, [], none⟩ =
        (trace schema visitor store key memory).unrecorded) ∧
    ∀ visit ∈ (trace schema visitor store key memory).memory.2,
      visit.scope.openFragments.Nodup ∧
      (∀ name ∈ visit.scope.openFragments, store.HasFragment name) ∧
      visit.scope.openFragments.length ≤ store.fragments.length := by
  have sound : (trace schema visitor store key memory).fault = none := by
    rw [trace_eq_foldl collected leaves]
    exact ((Grown.start store _).foldl leaves.recording _).sound
  refine ⟨sound, fun depth deeper => ?_, fun visit member => ?_⟩
  · have same : (trace schema visitor store key memory).unrecorded =
        Walk.document schema visitor store.walkDepth key ⟨store, memory, [], none⟩ :=
      unrecorded_document key _
    rw [same]
    apply document_of_le deeper
    rw [← same]
    exact sound
  · have isOpen := hasOpen_of_trace collected leaves member
    exact ⟨isOpen.nodup, isOpen.fragments, isOpen.length_le collected⟩

/-- The spread inside the fragment that it names is not followed. -/
theorem document_ends_knot :
    (trace Sample.schema Typename.visitor Sample.knot "Page" ()).fault = none ∧
    (∀ depth, Sample.knot.walkDepth ≤ depth →
      Walk.document Sample.schema Typename.visitor depth "Page" ⟨Sample.knot, (), [], none⟩ =
        (trace Sample.schema Typename.visitor Sample.knot "Page" ()).unrecorded) ∧
    (∀ visit ∈ (trace Sample.schema Typename.visitor Sample.knot "Page" ()).memory.2,
      visit.scope.openFragments.Nodup ∧
      (∀ name ∈ visit.scope.openFragments, Sample.knot.HasFragment name) ∧
      visit.scope.openFragments.length ≤ Sample.knot.fragments.length) ∧
    (trace Sample.schema Typename.visitor Sample.knot "Page" ()).memory.2.map
      (·.scope.openFragments) = [[], [], [], ["Info"]] := by
  have ends := document_ends Sample.schema Sample.isCollected_knot Typename.completes.appendsLeaves
    "Page" ()
  exact ⟨ends.1, ends.2.1, ends.2.2, by decide +kernel⟩

end Walk

end DocumentNormalizer
