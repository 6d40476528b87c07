import DocumentNormalizer.Proofs.Reach

namespace DocumentNormalizer

theorem nodup_eraseDups {α : Type} [BEq α] [LawfulBEq α] (items : List α) :
    items.eraseDups.Nodup := by
  match items with
  | [] => exact List.nodup_nil
  | item :: rest =>
    rw [List.eraseDups_cons]
    refine List.nodup_cons.2 ⟨?_, nodup_eraseDups _⟩
    intro member
    simp at member
termination_by items.length
decreasing_by exact Nat.lt_succ_of_le (List.length_filter_le _ _)

namespace KeyFields

theorem filter_eraseDups (p : String → Bool) (names : List String) :
    (names.filter p).eraseDups = names.eraseDups.filter p := by
  match names with
  | [] => rfl
  | name :: rest =>
    have others := filter_eraseDups p (rest.filter fun other => !other == name)
    have swap : (rest.filter p).filter (fun other => !other == name) =
        (rest.filter fun other => !other == name).filter p := by
      simp only [List.filter_filter, Bool.and_comm]
    cases kept : p name with
    | true =>
      rw [List.filter_cons_of_pos kept, List.eraseDups_cons, List.eraseDups_cons,
        List.filter_cons_of_pos kept, swap, others]
    | false =>
      have gone : (rest.filter fun other => !other == name).filter p = rest.filter p := by
        rw [List.filter_filter]
        apply List.filter_congr
        intro other _
        cases same : other == name with
        | true => rw [eq_of_beq same, kept]; rfl
        | false => simp
      have drop : ¬p name = true := by simp [kept]
      rw [List.filter_cons_of_neg drop, List.eraseDups_cons, List.filter_cons_of_neg drop, ← others,
        gone]
termination_by names.length
decreasing_by exact Nat.lt_succ_of_le (List.length_filter_le _ _)

variable {names : List String} {set other : SelectionSet}

theorem missing_eq (names : List String) (set : SelectionSet) :
    missing names set = names.eraseDups.filter (!set.selects ·) :=
  filter_eraseDups _ _

theorem mem_missing {name : String} :
    name ∈ missing names set ↔ name ∈ names ∧ set.selects name = false := by
  simp [missing]

theorem missing_eq_nil_iff : missing names set = [] ↔ ∀ name ∈ names, set.selects name = true := by
  simp [List.eq_nil_iff_forall_not_mem, mem_missing]

theorem missing_congr (same : ∀ name ∈ names, set.selects name = other.selects name) :
    missing names set = missing names other := by
  rw [missing, missing, List.filter_congr fun name member => by rw [same name member]]

end KeyFields

open KeyFields (missing)

theorem SelectionSet.selects_grow_bare {set : SelectionSet} {added : List Nat → List Field}
    {names : List String} (same : added [] = names.map Field.bare) (name : String) :
    (set.grow added).selects name = (set.selects name || names.contains name) := by
  have given : (names.map Field.bare).any
      (fun field => field.name = name && field.label.isNone) = names.contains name := by
    rw [Bool.eq_iff_iff, List.any_map, List.any_eq_true, List.contains_iff_mem]
    constructor
    · rintro ⟨other, member, same⟩
      have named := of_decide_eq_true (Bool.and_eq_true_iff.1 same).1
      exact named ▸ member
    · intro member
      exact ⟨name, member, Bool.and_eq_true_iff.2 ⟨decide_eq_true rfl, rfl⟩⟩
  rw [selects_grow, same, given]

/-- Names that some sets are to select. What a set has got at its end does not change whether it is
wanted. -/
structure Completion where
  names : List String
  wanted : Scope → SelectionSet → Bool
  wanted_grow : ∀ scope set added, wanted scope (set.grow added) = wanted scope set

/-- The visitor appends the names that wanted sets lack, and nothing else. -/
def Visitor.Completes {σ : Type} (visitor : Visitor σ) (completion : Completion) : Prop :=
  ∀ visit memory, (visitor visit memory).1 =
    ((if completion.wanted visit.scope visit.set then missing completion.names visit.set
      else []).map Field.bare).map .leaf

theorem Visitor.Completes.appendsLeaves {σ : Type} {visitor : Visitor σ} {completion : Completion}
    (completes : visitor.Completes completion) : visitor.AppendsLeaves :=
  fun visit memory => ⟨_, completes visit memory⟩

namespace Completion

open Walk (Event attend)

def asks (completion : Completion) (store : Store) (place : Place) : Event → Bool
  | .visit _ scope => scope.place = place && completion.wanted scope (store.setAt place)
  | .report _ => false

/-- The names that a set gets in the course of some events. -/
def supplement (completion : Completion) (store : Store) (events : List Event) (place : Place) :
    List String :=
  if events.any (completion.asks store place) then missing completion.names (store.setAt place)
  else []

def growth (completion : Completion) (store : Store) (events : List Event) : Growth :=
  fun place => (completion.supplement store events place).map Field.bare

variable {σ : Type} {completion : Completion} {visitor : Visitor σ} {store : Store}
  {events : List Event}

theorem growth_append_nil (place : Place) :
    completion.growth store events ⟨place.key, place.path ++ []⟩ =
      (completion.supplement store events place).map Field.bare := by
  rw [List.append_nil]
  rfl

theorem supplement_append (place : Place) (event : Event) :
    completion.supplement store (events ++ [event]) place =
      if events.any (completion.asks store place) || completion.asks store place event then
        missing completion.names (store.setAt place)
      else [] := by
  simp only [supplement, List.any_append, List.any_cons, List.any_nil, Bool.or_false]

theorem missing_grow {place : Place} {added : List Nat → List Field}
    (given : added [] = (completion.supplement store events place).map Field.bare) :
    missing completion.names ((store.setAt place).grow added) =
      if events.any (completion.asks store place) then []
      else missing completion.names (store.setAt place) := by
  have selects (name : String) : ((store.setAt place).grow added).selects name =
      ((store.setAt place).selects name ||
        (completion.supplement store events place).contains name) :=
    SelectionSet.selects_grow_bare given name
  split
  · next asked =>
    rw [KeyFields.missing_eq_nil_iff]
    intro name member
    rw [selects, supplement, if_pos asked]
    cases already : (store.setAt place).selects name with
    | true => rfl
    | false => simpa using KeyFields.mem_missing.2 ⟨member, already⟩
  · next unasked =>
    apply KeyFields.missing_congr
    intro name _
    rw [selects, supplement, if_neg unasked, List.contains_nil, Bool.or_false]

theorem growth_append_report (diagnostic : Diagnostic) :
    completion.growth store (events ++ [.report diagnostic]) = completion.growth store events := by
  funext place
  have silent : completion.asks store place (.report diagnostic) = false := rfl
  simp only [growth, supplement_append, silent, Bool.or_false]
  rfl

theorem growth_append_visit (document : String) (scope : Scope) :
    completion.growth store (events ++ [.visit document scope]) =
      (completion.growth store events).put scope.place
        ((if completion.wanted scope (store.setAt scope.place) then
          if events.any (completion.asks store scope.place) then []
          else missing completion.names (store.setAt scope.place)
        else []).map .bare) := by
  funext place
  simp only [Growth.put, growth, supplement_append]
  by_cases here : place = scope.place
  · subst here
    simp only [if_true, asks, decide_true, Bool.true_and, ← List.map_append, supplement]
    cases events.any (completion.asks store scope.place) <;>
      cases completion.wanted scope (store.setAt scope.place) <;> simp
  · have elsewhere : completion.asks store place (.visit document scope) = false := by
      simp [asks, Ne.symm here]
    rw [if_neg here, elsewhere, Bool.or_false]
    rfl

/-- A visit adds what the set at its place still lacks. -/
theorem store_attend {progress : Progress σ} {event : Event}
    (completes : visitor.Completes completion)
    (same : progress.store = store.grow (completion.growth store events))
    (found : ∀ document scope, event = .visit document scope → (store.set? scope.place).isSome) :
    (attend visitor progress event).store =
      store.grow (completion.growth store (events ++ [event])) := by
  cases event with
  | report diagnostic =>
    rw [growth_append_report]
    exact same
  | visit document scope =>
    have set := Walk.setAt_grow (found document scope rfl) (completion.growth store events)
    have lacks : missing completion.names ((store.setAt scope.place).grow fun path =>
        completion.growth store events ⟨scope.place.key, scope.place.path ++ path⟩) =
          if events.any (completion.asks store scope.place) then []
          else missing completion.names (store.setAt scope.place) :=
      missing_grow (growth_append_nil scope.place)
    have added := completes ⟨document, scope, progress.store.setAt scope.place⟩ progress.memory
    simp only [attend, added]
    rw [same, set, completion.wanted_grow, lacks, Store.append_grow, growth_append_visit]

theorem store_foldl {before : List Event} {progress : Progress σ}
    (completes : visitor.Completes completion)
    (same : progress.store = store.grow (completion.growth store before))
    (found : ∀ document scope, .visit document scope ∈ events → (store.set? scope.place).isSome) :
    (events.foldl (attend visitor) progress).store =
      store.grow (completion.growth store (before ++ events)) := by
  induction events generalizing before progress with
  | nil => rw [List.append_nil]; exact same
  | cons event rest ih =>
    have first := store_attend completes same fun document scope here =>
      found document scope (here ▸ List.mem_cons_self)
    rw [List.foldl_cons, ih first fun document scope member =>
      found document scope (List.mem_cons_of_mem _ member), List.append_assoc]
    rfl

theorem missing_grow_of_eq_nil {names : List String} {set : SelectionSet}
    (full : missing names set = []) (added : List Nat → List Field) :
    missing names (set.grow added) = [] := by
  rw [KeyFields.missing_eq_nil_iff] at full ⊢
  intro name member
  rw [SelectionSet.selects_grow, full name member, Bool.true_or]

/-- Sets that have got their supplements lack nothing, even when they have grown further. -/
theorem growth_settled
    (found : ∀ document scope, .visit document scope ∈ events → (store.set? scope.place).isSome)
    (more : Growth) :
    completion.growth ((store.grow (completion.growth store events)).grow more) events =
      fun _ => [] := by
  funext place
  rw [growth, List.map_eq_nil_iff, supplement]
  split
  · next asked =>
    obtain ⟨event, member, asks⟩ := List.any_eq_true.1 asked
    cases event with
    | report diagnostic => cases asks
    | visit document scope =>
      obtain ⟨here, wanted⟩ := Bool.and_eq_true_iff.1 asks
      have here := of_decide_eq_true here
      subst here
      have there := found document scope member
      have set := Walk.setAt_grow there (completion.growth store events)
      have grown : ((store.grow (completion.growth store events)).set? scope.place).isSome := by
        rw [Store.set?_grow, Option.isSome_map]
        exact there
      rw [Walk.setAt_grow grown, set] at wanted ⊢
      apply missing_grow_of_eq_nil
      rw [completion.wanted_grow, completion.wanted_grow] at wanted
      have asked : events.any (completion.asks store scope.place) = true :=
        List.any_eq_true.2 ⟨_, member, by simp [Completion.asks, wanted]⟩
      exact (missing_grow (growth_append_nil scope.place)).trans (if_pos asked)
  · rfl

end Completion

end DocumentNormalizer
