import DocumentNormalizer.Proofs.Verdict

namespace DocumentNormalizer

open Relation (TransGen)

namespace Dependencies

variable {dependencies : Dependencies} {depth more : Nat} {path : List String} {name : String}

/-- The cycles that are found when names are followed down to a depth. -/
def cyclesWithin (dependencies : Dependencies) (depth : Nat) : List (List String) :=
  (dependencies.foldl
    (fun search entry => follow dependencies depth [] entry.1 search) ⟨[], []⟩).cycles

/-- A path that leaves enough depth is followed in the same way however deep the search may go. -/
theorem HasDepth.follow_eq (room : HasDepth dependencies depth path) (deeper : depth ≤ more)
    (search : Search) :
    follow dependencies more path name search = follow dependencies depth path name search := by
  induction depth generalizing more path name search with
  | zero =>
    have enough := room.enough
    have fits := room.length_le
    omega
  | succ depth ih =>
    obtain ⟨more, rfl⟩ := Nat.exists_eq_succ_of_ne_zero (Nat.ne_zero_of_lt deeper)
    rw [follow, follow]
    by_cases onPath : name ∈ path
    · simp only [List.contains_iff_mem, onPath, if_true]
    · simp only [List.contains_iff_mem, onPath, if_false]
      cases known : dependencies.of? name with
      | none => rfl
      | some needed =>
        have inside : (fun search next => follow dependencies more (path ++ [name]) next search) =
            fun search next => follow dependencies depth (path ++ [name]) next search :=
          funext fun search => funext fun next =>
            ih (room.push onPath known) (Nat.le_of_succ_le_succ deeper) search
        simp only [inside]

theorem cyclesWithin_eq (deeper : dependencies.length < depth) :
    dependencies.cyclesWithin depth = dependencies.cycles := by
  have room : HasDepth dependencies (dependencies.length + 1) [] :=
    ⟨List.nodup_nil, List.nil_subset _, Nat.lt_succ_self _⟩
  rw [cyclesWithin, cycles]
  congr 2
  funext search entry
  exact room.follow_eq deeper search

/-- What is found are cycles, and the steps that close them meet all others: without these steps no
name comes back to itself. So nothing is found exactly where no name does. -/
theorem cycles_account (dependencies : Dependencies) :
    (∀ depth, dependencies.length < depth →
      dependencies.cyclesWithin depth = dependencies.cycles) ∧
    (∀ cycle ∈ dependencies.cycles, dependencies.IsCycle cycle) ∧
    (∀ name, ¬TransGen (dependencies.NeedsBeside dependencies.cycles) name name) ∧
    (dependencies.cycles = [] ↔ ∀ name, ¬TransGen dependencies.Needs name name) := by
  refine ⟨fun _ => cyclesWithin_eq, fun _ => isCycle_of_mem_cycles, fun name cycle => ?_,
    cycles_eq_nil_iff⟩
  have backwards := Relation.transGen_swap.2 cycle
  exact (wellFounded_beside_cycles dependencies).transGen.asymmetric _ _ backwards backwards

end Dependencies

end DocumentNormalizer
