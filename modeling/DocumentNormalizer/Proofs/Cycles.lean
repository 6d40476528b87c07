import DocumentNormalizer.Pass.Cycles
import Mathlib.Data.List.Nodup
import Mathlib.Data.List.Perm.Subperm

namespace DocumentNormalizer

namespace Dependencies

variable {dependencies : Dependencies} {depth : Nat} {path : List String} {name : String}

/-- A name depends on another. -/
def Needs (dependencies : Dependencies) (name next : String) : Prop :=
  ∃ needed, dependencies.of? name = some needed ∧ next ∈ needed

/-- The last step of one of the cycles leads from a name to another. -/
def Closes (cycles : List (List String)) (name next : String) : Prop :=
  ∃ front, front ++ [name, next] ∈ cycles

/-- Every name comes before the names that it needs. Nothing is asked of names that nothing is known
about, nor of steps that close a cycle. -/
inductive Settled (dependencies : Dependencies) (cycles : List (List String)) :
    List String → Prop
  | nil : Settled dependencies cycles []
  | cons {name : String} {rest : List String}
    (needs : ∀ next, dependencies.Needs name next →
      next ∈ rest ∨ dependencies.of? next = none ∨ Closes cycles name next)
    (others : Settled dependencies cycles rest) : Settled dependencies cycles (name :: rest)

/-- A search goes on: cycles are found behind the others, names are finished before the others. -/
structure Search.Extends (search later : Search) : Prop where
  cycles : search.cycles <+: later.cycles
  finished : search.finished <:+ later.finished

def Handled (dependencies : Dependencies) (path : List String) (search : Search)
    (name : String) : Prop :=
  name ∈ search.finished ∨ dependencies.of? name = none ∨
    ∃ front last, path = front ++ [last] ∧ Closes search.cycles last name

structure Followed (dependencies : Dependencies) (path names : List String)
    (search later : Search) : Prop where
  onward : search.Extends later
  settled : Settled dependencies later.cycles later.finished
  handled : ∀ name ∈ names, Handled dependencies path later name

/-- A path of distinct names that leaves enough depth for the names that are not on it. -/
structure HasDepth (dependencies : Dependencies) (depth : Nat) (path : List String) : Prop where
  nodup : path.Nodup
  known : path ⊆ dependencies.map (·.1)
  enough : dependencies.length < depth + path.length

theorem Closes.mono {cycles more : List (List String)} {next : String}
    (closes : Closes cycles name next) (fewer : cycles <+: more) : Closes more name next := by
  obtain ⟨front, member⟩ := closes
  exact ⟨front, fewer.subset member⟩

theorem Settled.mono {cycles more : List (List String)} {finished : List String}
    (settled : Settled dependencies cycles finished) (fewer : cycles <+: more) :
    Settled dependencies more finished := by
  induction settled with
  | nil => exact .nil
  | cons needs _ ih =>
    refine .cons (fun next need => ?_) ih
    exact (needs next need).imp_right fun other => other.imp_right fun closes => closes.mono fewer

namespace Search.Extends

variable {first second third : Search}

theorem refl (search : Search) : search.Extends search :=
  ⟨List.prefix_refl _, List.suffix_refl _⟩

theorem trans (h : first.Extends second) (h' : second.Extends third) : first.Extends third :=
  ⟨h.cycles.trans h'.cycles, h.finished.trans h'.finished⟩

theorem handled (h : first.Extends second) (done : Handled dependencies path first name) :
    Handled dependencies path second name := by
  rcases done with finished | unknown | ⟨front, last, same, closes⟩
  · exact .inl (h.finished.subset finished)
  · exact .inr (.inl unknown)
  · exact .inr (.inr ⟨front, last, same, closes.mono h.cycles⟩)

end Search.Extends

theorem mem_names_of_of? {needed : List String} (known : dependencies.of? name = some needed) :
    name ∈ dependencies.map (·.1) := by
  rw [of?, Option.map_eq_some_iff] at known
  obtain ⟨entry, found, _⟩ := known
  have named : entry.1 = name := by simpa using List.find?_some found
  exact named ▸ List.mem_map_of_mem (List.mem_of_find?_eq_some found)

theorem HasDepth.length_le (room : HasDepth dependencies depth path) :
    path.length ≤ dependencies.length := by
  have fits := (List.subperm_of_subset room.nodup room.known).length_le
  rwa [List.length_map] at fits

theorem HasDepth.push {needed : List String} (room : HasDepth dependencies (depth + 1) path)
    (fresh : name ∉ path) (known : dependencies.of? name = some needed) :
    HasDepth dependencies depth (path ++ [name]) where
  nodup := by simpa using room.nodup.concat fresh
  known := List.append_subset.2 ⟨room.known, by simpa using mem_names_of_of? known⟩
  enough := by
    have enough := room.enough
    rw [List.length_append, List.length_singleton]
    omega

theorem followed_foldl {names : List String} {search : Search} {step : Search → String → Search}
    (each : ∀ name search, Settled dependencies search.cycles search.finished →
      Followed dependencies path [name] search (step search name))
    (settled : Settled dependencies search.cycles search.finished) :
    Followed dependencies path names search (names.foldl step search) := by
  induction names generalizing search with
  | nil => exact ⟨.refl search, settled, fun _ member => nomatch member⟩
  | cons name rest ih =>
    have first := each name search settled
    have others := ih first.settled
    refine ⟨first.onward.trans others.onward, others.settled, fun other member => ?_⟩
    rcases List.mem_cons.1 member with rfl | later
    · exact others.onward.handled (first.handled _ List.mem_cons_self)
    · exact others.handled other later

/-- The way that closes a cycle ends with the step from the last name of the path. -/
theorem closes_of_mem {last : String} (front : List String) (cycles : List (List String))
    (member : name ∈ front ++ [last]) :
    Closes (cycles ++ [(front ++ [last]).dropWhile (· ≠ name) ++ [name]]) last name := by
  have way : ∃ rest, (front ++ [last]).dropWhile (· ≠ name) = rest ++ [last] := by
    induction front with
    | nil =>
      have same : last = name := by simpa using (List.mem_singleton.1 member).symm
      exact ⟨[], by simp [same]⟩
    | cons head front ih =>
      by_cases here : head = name
      · exact ⟨head :: front, by simp [here]⟩
      · have later : name ∈ front ++ [last] :=
          (List.mem_cons.1 member).resolve_left fun same => here same.symm
        obtain ⟨rest, same⟩ := ih later
        refine ⟨rest, ?_⟩
        rw [List.cons_append, List.dropWhile_cons_of_pos (by simpa using here), same]
  obtain ⟨rest, same⟩ := way
  exact ⟨rest, by rw [same]; simp⟩

theorem followed_of_mem_path {search : Search} (onPath : name ∈ path)
    (settled : Settled dependencies search.cycles search.finished) :
    Followed dependencies path [name] search
      { search with cycles := search.cycles ++ [path.dropWhile (· ≠ name) ++ [name]] } := by
  have longer : search.Extends
      { search with cycles := search.cycles ++ [path.dropWhile (· ≠ name) ++ [name]] } :=
    ⟨List.prefix_append _ _, List.suffix_refl _⟩
  have split := List.dropLast_append_getLast (List.ne_nil_of_mem onPath)
  refine ⟨longer, settled.mono longer.cycles,
    List.forall_mem_singleton.2 (.inr (.inr ⟨_, _, split.symm, ?_⟩))⟩
  rw [← split] at onPath
  have closes := closes_of_mem _ search.cycles onPath
  rwa [split] at closes

theorem Followed.finish {needed : List String} {search later : Search}
    (known : dependencies.of? name = some needed)
    (inside : Followed dependencies (path ++ [name]) needed search later) :
    Followed dependencies path [name] search
      { later with finished := name :: later.finished } := by
  refine ⟨⟨inside.onward.cycles, inside.onward.finished.trans (List.suffix_cons _ _)⟩,
    .cons (fun next need => ?_) inside.settled,
    List.forall_mem_singleton.2 (.inl List.mem_cons_self)⟩
  obtain ⟨others, same, member⟩ := need
  rw [known] at same
  cases same
  rcases inside.handled next member with finished | unknown | ⟨front, last, same, closes⟩
  · exact .inl finished
  · exact .inr (.inl unknown)
  · obtain ⟨-, same⟩ := List.append_inj' same rfl
    cases same
    exact .inr (.inr closes)

theorem follow_followed {search : Search} (room : HasDepth dependencies depth path)
    (settled : Settled dependencies search.cycles search.finished) :
    Followed dependencies path [name] search (follow dependencies depth path name search) := by
  induction depth generalizing path name search with
  | zero =>
    have enough := room.enough
    have fits := room.length_le
    omega
  | succ depth ih =>
    rw [follow]
    by_cases onPath : name ∈ path
    · rw [if_pos (by simpa using onPath)]
      exact followed_of_mem_path onPath settled
    · rw [if_neg (by simpa using onPath)]
      by_cases done : name ∈ search.finished
      · rw [if_pos (by simpa using done)]
        exact ⟨.refl search, settled, List.forall_mem_singleton.2 (.inl done)⟩
      · rw [if_neg (by simpa using done)]
        cases known : dependencies.of? name with
        | none => exact ⟨.refl search, settled, List.forall_mem_singleton.2 (.inr (.inl known))⟩
        | some needed =>
          apply Followed.finish known
          exact followed_foldl (fun next search settled => ih (room.push onPath known) settled)
            settled

/-- The search finishes all names that something is known about. -/
theorem exists_settled (dependencies : Dependencies) :
    ∃ finished, Settled dependencies dependencies.cycles finished ∧
      ∀ name ∈ dependencies.map (·.1), dependencies.of? name ≠ none → name ∈ finished := by
  have room : HasDepth dependencies (dependencies.length + 1) [] :=
    ⟨List.nodup_nil, List.nil_subset _, Nat.lt_succ_self _⟩
  have all : Followed dependencies [] (dependencies.map (·.1)) ⟨[], []⟩
      ((dependencies.map (·.1)).foldl (fun search name =>
        follow dependencies (dependencies.length + 1) [] name search) ⟨[], []⟩) :=
    followed_foldl (fun name search settled => follow_followed room settled) .nil
  rw [List.foldl_map] at all
  refine ⟨_, all.settled, fun name member known => ?_⟩
  rcases all.handled name member with finished | unknown | ⟨front, last, same, _⟩
  · exact finished
  · exact absurd unknown known
  · exact absurd same (by simp)

/-- A name depends on another, and no cycle among some cycles ends with that step. -/
def NeedsBeside (dependencies : Dependencies) (cycles : List (List String))
    (name next : String) : Prop :=
  dependencies.Needs name next ∧ ¬Closes cycles name next

theorem acc_of_of?_eq_none (cycles : List (List String)) (unknown : dependencies.of? name = none) :
    Acc (fun next name => dependencies.NeedsBeside cycles name next) name := by
  constructor
  rintro next ⟨⟨needed, known, _⟩, _⟩
  rw [unknown] at known
  cases known

theorem acc_of_settled {cycles : List (List String)} {finished : List String}
    (settled : Settled dependencies cycles finished) : ∀ name ∈ finished,
      Acc (fun next name => dependencies.NeedsBeside cycles name next) name := by
  induction settled with
  | nil => intro name member; cases member
  | cons needs _ ih =>
    intro other member
    rcases List.mem_cons.1 member with rfl | later
    · constructor
      rintro next ⟨need, goesOn⟩
      rcases needs next need with later | unknown | closes
      · exact ih next later
      · exact acc_of_of?_eq_none cycles unknown
      · exact absurd closes goesOn
    · exact ih other later

/-- Without the steps that close the cycles that are found, following dependencies comes to an
end. -/
theorem wellFounded_beside_cycles (dependencies : Dependencies) :
    WellFounded fun next name => dependencies.NeedsBeside dependencies.cycles name next := by
  obtain ⟨finished, settled, all⟩ := exists_settled dependencies
  constructor
  intro name
  cases known : dependencies.of? name with
  | none => exact acc_of_of?_eq_none _ known
  | some needed =>
    exact acc_of_settled settled name (all name (mem_names_of_of? known) (by simp [known]))

theorem wellFounded_of_cycles_eq_nil (none : dependencies.cycles = []) :
    WellFounded fun next name => dependencies.Needs name next := by
  have beside := wellFounded_beside_cycles dependencies
  rw [none] at beside
  refine Subrelation.wf (fun {next name} need => ⟨need, ?_⟩) beside
  rintro ⟨front, member⟩
  cases member

end Dependencies

end DocumentNormalizer
