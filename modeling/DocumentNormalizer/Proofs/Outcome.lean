import Mathlib.Data.List.Forall2

namespace DocumentNormalizer

theorem exists_of_bind_eq_ok {ε α β : Type} {first : Except ε α} {rest : α → Except ε β}
    {result : β} (done : first >>= rest = .ok result) :
    ∃ value, first = .ok value ∧ rest value = .ok result := by
  cases first with
  | error => cases done
  | ok value => exact ⟨value, rfl, done⟩

theorem eq_ok_of_toOption {ε α : Type} {outcome : Except ε α} {value : α}
    (done : outcome.toOption = some value) : outcome = .ok value := by
  cases outcome with
  | error error => cases done
  | ok other =>
    cases done
    rfl

theorem mapError_eq_ok_iff {ε ε' α : Type} {result : Except ε α} {f : ε → ε'} {value : α} :
    result.mapError f = .ok value ↔ result = .ok value := by
  cases result with
  | error => exact ⟨nofun, nofun⟩
  | ok => rw [Except.mapError, Except.ok.injEq, Except.ok.injEq]

theorem mapError_eq_error_iff {ε ε' α : Type} {result : Except ε α} {f : ε → ε'} {told : ε'} :
    result.mapError f = .error told ↔ ∃ error, told = f error ∧ result = .error error := by
  cases result with
  | error error =>
    constructor
    · intro same
      cases same
      exact ⟨error, rfl, rfl⟩
    · rintro ⟨_, rfl, same⟩
      cases same
      rfl
  | ok value => exact ⟨nofun, nofun⟩

theorem mapM_eq_ok_iff {ε α β : Type} {f : α → Except ε β} {items : List α} {results : List β} :
    items.mapM f = .ok results ↔
      List.Forall₂ (fun item result => f item = .ok result) items results := by
  induction items generalizing results with
  | nil =>
    rw [List.mapM_nil, List.forall₂_nil_left_iff]
    exact ⟨fun same => (Except.ok.inj same).symm, fun same => same ▸ rfl⟩
  | cons item rest ih =>
    rw [List.mapM_cons]
    constructor
    · intro done
      obtain ⟨first, here, done⟩ := exists_of_bind_eq_ok done
      obtain ⟨others, there, done⟩ := exists_of_bind_eq_ok done
      cases done
      exact .cons here (ih.1 there)
    · rintro (_ | ⟨here, there⟩)
      rw [here, ih.2 there]
      rfl

theorem exists_first_of_mapM_eq_error {ε α β : Type} {f : α → Except ε β} {items : List α}
    {error : ε} (failed : items.mapM f = .error error) :
    ∃ before item after, items = before ++ item :: after ∧
      (∀ other ∈ before, ∃ value, f other = .ok value) ∧ f item = .error error := by
  induction items with
  | nil => cases failed
  | cons item rest ih =>
    rw [List.mapM_cons] at failed
    cases first : f item with
    | error fault =>
      rw [first] at failed
      cases failed
      exact ⟨[], item, rest, rfl, List.forall_mem_nil _, first⟩
    | ok value =>
      cases others : rest.mapM f with
      | error fault =>
        rw [first, others] at failed
        cases failed
        obtain ⟨before, culprit, after, rfl, sound, same⟩ := ih others
        exact ⟨item :: before, culprit, after, rfl,
          List.forall_mem_cons.2 ⟨⟨value, first⟩, sound⟩, same⟩
      | ok values =>
        rw [first, others] at failed
        cases failed

theorem mapM_eq_error_of_first {ε α β : Type} {f : α → Except ε β} {before after : List α} {item : α}
    {error : ε} (sound : ∀ other ∈ before, ∃ value, f other = .ok value)
    (failed : f item = .error error) : (before ++ item :: after).mapM f = .error error := by
  induction before with
  | nil =>
    rw [List.nil_append, List.mapM_cons, failed]
    rfl
  | cons other rest ih =>
    obtain ⟨⟨value, first⟩, others⟩ := List.forall_mem_cons.1 sound
    rw [List.cons_append, List.mapM_cons, first]
    show ((rest ++ item :: after).mapM f >>= fun values => pure (value :: values)) = _
    rw [ih others]
    rfl

theorem exists_of_mapM_eq_error {ε α β : Type} {f : α → Except ε β} {items : List α} {error : ε}
    (failed : items.mapM f = .error error) : ∃ item ∈ items, f item = .error error := by
  obtain ⟨before, item, after, rfl, _, failed⟩ := exists_first_of_mapM_eq_error failed
  exact ⟨item, List.mem_append_right _ List.mem_cons_self, failed⟩

/-- From a state, an action ends with a value or with an error. What is `good` holds of a value and
the state it leaves, what is `bad` of an error and the state it leaves. -/
structure Yields {ε σ α : Type} (action : ExceptT ε (StateM σ) α) (state : σ)
    (good : α → σ → Prop) (bad : ε → σ → Prop) : Prop where
  run : match action.run state with
    | (.ok value, after) => good value after
    | (.error error, after) => bad error after

namespace Yields

variable {ε ε' σ α β : Type} {action : ExceptT ε (StateM σ) α} {state : σ}
  {good : α → σ → Prop} {bad : ε → σ → Prop}

theorem pure {value : α} (holds : good value state) :
    Yields (pure value : ExceptT ε (StateM σ) α) state good bad :=
  ⟨holds⟩

theorem throw {error : ε} (holds : bad error state) :
    Yields (throw error : ExceptT ε (StateM σ) α) state good bad :=
  ⟨holds⟩

theorem bind {f : α → ExceptT ε (StateM σ) β} {last : β → σ → Prop}
    (first : Yields action state good bad)
    (further : ∀ {value after}, good value after → Yields (f value) after last bad) :
    Yields (action >>= f) state last bad := by
  obtain ⟨holds⟩ := first
  constructor
  simp only [ExceptT.run, Bind.bind, ExceptT.bind, ExceptT.mk, StateT.bind] at holds ⊢
  generalize action state = result at holds
  obtain ⟨outcome, after⟩ := result
  cases outcome with
  | error error => exact holds
  | ok value => exact (further holds).run

theorem get {f : σ → ExceptT ε (StateM σ) α} (further : Yields (f state) state good bad) :
    Yields (MonadState.get >>= f) state good bad :=
  ⟨further.run⟩

theorem set {after : σ} {good : PUnit → σ → Prop} (holds : good ⟨⟩ after) :
    Yields (MonadStateOf.set after : ExceptT ε (StateM σ) PUnit) state good bad :=
  ⟨holds⟩

theorem mono {better : α → σ → Prop} {worse : ε → σ → Prop}
    (holds : Yields action state better worse)
    (ok : ∀ {value after}, better value after → good value after)
    (failed : ∀ {error after}, worse error after → bad error after) :
    Yields action state good bad := by
  obtain ⟨holds⟩ := holds
  constructor
  generalize action.run state = result at holds ⊢
  obtain ⟨outcome, after⟩ := result
  cases outcome with
  | error error => exact failed holds
  | ok value => exact ok holds

theorem adapt {f : ε → ε'} {bad : ε' → σ → Prop}
    (holds : Yields action state good fun error after => bad (f error) after) :
    Yields (ExceptT.adapt f action) state good bad := by
  obtain ⟨holds⟩ := holds
  constructor
  rw [ExceptT.run_adapt]
  simp only [Functor.map, StateT.map]
  generalize action.run state = result at holds ⊢
  obtain ⟨outcome, after⟩ := result
  cases outcome with
  | error error => exact holds
  | ok value => exact holds

end Yields

end DocumentNormalizer
