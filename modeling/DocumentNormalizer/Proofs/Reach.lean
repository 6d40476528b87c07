import DocumentNormalizer.Proofs.Depth
import Mathlib.Data.List.Induction
import Mathlib.Logic.Relation

namespace DocumentNormalizer

namespace Walk

open Relation (ReflTransGen)

variable {schema : Schema} {store : Store} {document : String} {depth : Nat}
  {scope next last : Scope}

theorem found_of_reaches (reaches : ReflTransGen (Leads schema store) scope last)
    (found : (store.set? scope.place).isSome) : (store.set? last.place).isSome := by
  induction reaches with
  | refl => exact found
  | tail _ leads ih => exact leads.found ih

theorem mem_events_succ (collected : store.IsCollected) {event : Event}
    (member : event ∈ events schema store document (depth + 1) scope) :
    event = .visit document scope ∨
      ∃ index selection, (store.setAt scope.place).selections[index]? = some selection ∧
        ((∃ diagnostic ∈ (step schema store document scope index selection).reports,
            event = .report diagnostic) ∨
          ∃ next, Follows schema store scope index selection next ∧
            event ∈ events schema store document depth next) := by
  rw [events, List.mem_cons] at member
  refine member.imp_right fun member => ?_
  obtain ⟨⟨selection, index⟩, chosen, member⟩ := List.mem_flatMap.1 member
  refine ⟨index, selection, List.mk_mem_zipIdx_iff_getElem?.1 chosen, ?_⟩
  rcases List.mem_append.1 member with reported | inside
  · obtain ⟨diagnostic, given, rfl⟩ := List.mem_map.1 reported
    exact .inl ⟨diagnostic, given, rfl⟩
  · cases leads : (step schema store document scope index selection).next with
    | none => simp [leads] at inside
    | some next =>
      rw [leads] at inside
      exact .inr ⟨next, (step_next_iff collected).1 leads, inside⟩

theorem reaches_of_visit (collected : store.IsCollected) {other : String}
    (member : .visit other last ∈ events schema store document depth scope) :
    other = document ∧ ReflTransGen (Leads schema store) scope last := by
  induction depth generalizing scope with
  | zero => cases member
  | succ depth ih =>
    obtain same | ⟨index, selection, chosen, ⟨diagnostic, _, same⟩ | ⟨next, follows, member⟩⟩ :=
      mem_events_succ collected member
    · cases same
      exact ⟨rfl, .refl⟩
    · cases same
    · obtain ⟨same, reaches⟩ := ih member
      exact ⟨same, .head ⟨index, selection, chosen, follows⟩ reaches⟩

theorem reaches_of_report (collected : store.IsCollected) {diagnostic : Diagnostic}
    (member : .report diagnostic ∈ events schema store document depth scope) :
    ∃ last index selection, ReflTransGen (Leads schema store) scope last ∧
      (store.setAt last.place).selections[index]? = some selection ∧
      diagnostic ∈ (step schema store document last index selection).reports := by
  induction depth generalizing scope with
  | zero => cases member
  | succ depth ih =>
    obtain same | ⟨index, selection, chosen, ⟨diagnostic, reported, same⟩ |
      ⟨next, follows, member⟩⟩ := mem_events_succ collected member
    · cases same
    · cases same
      exact ⟨scope, index, selection, .refl, chosen, reported⟩
    · obtain ⟨last, i, other, reaches, found⟩ := ih member
      exact ⟨last, i, other, .head ⟨index, selection, chosen, follows⟩ reaches, found⟩

theorem mem_events_of_leads (collected : store.IsCollected) {event : Event}
    (leads : Leads schema store scope next)
    (member : event ∈ events schema store document depth next) :
    event ∈ events schema store document (depth + 1) scope := by
  obtain ⟨index, selection, chosen, follows⟩ := leads
  refine List.mem_cons_of_mem _ (List.mem_flatMap.2
    ⟨(selection, index), List.mk_mem_zipIdx_iff_getElem?.2 chosen, List.mem_append_right _ ?_⟩)
  rw [(step_next_iff collected).2 follows]
  exact member

/-- With room enough nothing is left out that happens in a scope that selections lead to. -/
theorem mem_events_of_reaches (collected : store.IsCollected) {event : Event}
    (reaches : ReflTransGen (Leads schema store) scope last) (room : HasRoom store depth scope)
    (here : ∀ depth, event ∈ events schema store document (depth + 1) last) :
    event ∈ events schema store document depth scope := by
  induction reaches using ReflTransGen.head_induction_on generalizing depth with
  | refl =>
    cases depth with
    | zero => exact absurd room.enough (Nat.not_lt_zero _)
    | succ depth => exact here depth
  | head leads _ ih =>
    cases depth with
    | zero => exact absurd room.enough (Nat.not_lt_zero _)
    | succ depth => exact mem_events_of_leads collected leads (ih (room.leads leads))

theorem visit_of_reaches (collected : store.IsCollected)
    (reaches : ReflTransGen (Leads schema store) scope last)
    (room : HasRoom store depth scope) :
    .visit document last ∈ events schema store document depth scope :=
  mem_events_of_reaches collected reaches room fun _ => List.mem_cons_self

theorem report_of_reaches (collected : store.IsCollected)
    (reaches : ReflTransGen (Leads schema store) scope last) (room : HasRoom store depth scope)
    {index : Nat} {selection : Selection} {diagnostic : Diagnostic}
    (chosen : (store.setAt last.place).selections[index]? = some selection)
    (reported : diagnostic ∈ (step schema store document last index selection).reports) :
    .report diagnostic ∈ events schema store document depth scope := by
  refine mem_events_of_reaches collected reaches room fun depth => ?_
  refine List.mem_cons_of_mem _ (List.mem_flatMap.2
    ⟨(selection, index), List.mk_mem_zipIdx_iff_getElem?.2 chosen, ?_⟩)
  exact List.mem_append_left _ (List.mem_map_of_mem reported)

/-- From the root of a document a walk comes to all of its sets, with the same fragments open. -/
theorem exists_reaches_below (schema : Schema) {key : String} {path : List Nat}
    {set : SelectionSet} (root : scope.place = ⟨key, []⟩)
    (there : store.set? ⟨key, path⟩ = some set) :
    ∃ last, ReflTransGen (Leads schema store) scope last ∧ last.place = ⟨key, path⟩ ∧
      last.openFragments = scope.openFragments := by
  induction path using List.reverseRecOn generalizing set with
  | nil => exact ⟨scope, .refl, root, rfl⟩
  | append_singleton path index ih =>
    obtain ⟨outer, above⟩ := Store.exists_set?_above there
    obtain ⟨last, reaches, here, same⟩ := ih above
    rw [Store.set?_below above] at there
    obtain ⟨selection, chosen, has⟩ := Option.bind_eq_some_iff.1 there
    rw [← Store.setAt_of_set? above, ← here] at chosen
    refine ⟨_, reaches.tail ⟨index, selection, chosen, .inside has⟩, ?_, same⟩
    rw [below, here]

theorem exists_root_of_visit (collected : store.IsCollected) {key other : String}
    (member : .visit other last ∈ documentEvents schema store key) :
    ∃ document type, store.get? key = some document ∧ document.rootType? schema = some type ∧
      other = document.name ∧ ReflTransGen (Leads schema store) (root key type) last := by
  rw [documentEvents] at member
  cases found : store.get? key with
  | none => simp [found] at member
  | some document =>
    cases typed : document.rootType? schema with
    | none => simp [found, typed] at member
    | some type =>
      simp only [found, typed] at member
      obtain ⟨same, reaches⟩ := reaches_of_visit collected member
      exact ⟨document, type, rfl, typed, same, reaches⟩

theorem found_of_visit (collected : store.IsCollected) {key other : String}
    (member : .visit other last ∈ documentEvents schema store key) :
    (store.set? last.place).isSome := by
  obtain ⟨document, type, found, _, _, reaches⟩ := exists_root_of_visit collected member
  apply found_of_reaches reaches
  simp [root, Store.set?_root, found]

theorem found_of_visit_store (collected : store.IsCollected) {other : String}
    (member : .visit other last ∈ storeEvents schema store) :
    (store.set? last.place).isSome := by
  obtain ⟨key, _, member⟩ := List.mem_flatMap.1 member
  exact found_of_visit collected member

end Walk

end DocumentNormalizer
