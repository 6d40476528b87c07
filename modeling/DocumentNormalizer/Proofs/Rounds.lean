import DocumentNormalizer.Proofs.CycleSearch
import Mathlib.Data.List.Count
import Mathlib.Data.List.Rotate

namespace DocumentNormalizer

namespace Dependencies

/-- Two ways back to their first names go round through the same names in the same order. -/
def SameRound (cycle other : List String) : Prop := cycle.dropLast ~r other.dropLast

instance (cycle : List String) : DecidablePred (SameRound cycle) :=
  fun other => inferInstanceAs (Decidable (cycle.dropLast ~r other.dropLast))

/-- The way that closes a cycle when a path comes back to one of its names. -/
def closing (path : List String) (name : String) : List String :=
  path.dropWhile (· ≠ name) ++ [name]

def closings (path names : List String) : List (List String) :=
  (names.filter (path.contains ·)).map (closing path)

/-- A name that the search follows, behind the path that led to it. -/
structure Arrival where
  path : List String
  name : String

def Arrival.way (arrival : Arrival) : List String := arrival.path ++ [arrival.name]

/-- The cycles that are found among the dependencies of the name. -/
def Arrival.closings (dependencies : Dependencies) (arrival : Arrival) : List (List String) :=
  Dependencies.closings arrival.way ((dependencies.of? arrival.name).getD [])

variable {dependencies : Dependencies} {depth : Nat} {path front back : List String}
  {name next : String} {cycle found : List String}

section Closing

theorem exists_closing_eq (onPath : next ∈ front ++ [name]) :
    ∃ way, closing (front ++ [name]) next = way ++ [name, next] := by
  obtain ⟨way, member⟩ := closes_of_mem front [] onPath
  rw [List.nil_append, List.mem_singleton] at member
  exact ⟨way, member.symm⟩

theorem closing_injective (path : List String) : Function.Injective (closing path) := by
  intro name next same
  have last := congrArg List.getLast? same
  rw [closing, closing, List.getLast?_concat, List.getLast?_concat] at last
  exact Option.some.inj last

theorem count_closings (names : List String) (onPath : next ∈ path) :
    (closings path names).count (closing path next) = names.count next := by
  have kept : path.contains next = true := List.contains_iff_mem.2 onPath
  rw [closings, List.count_map_of_injective _ _ (closing_injective path), List.count_filter kept]

theorem mem_closings {names : List String} :
    cycle ∈ closings path names ↔ ∃ next ∈ names, next ∈ path ∧ cycle = closing path next := by
  rw [closings, List.mem_map]
  constructor
  · rintro ⟨next, kept, rfl⟩
    obtain ⟨member, onPath⟩ := List.mem_filter.1 kept
    exact ⟨next, member, List.contains_iff_mem.1 onPath, rfl⟩
  · rintro ⟨next, member, onPath, rfl⟩
    exact ⟨next, List.mem_filter.2 ⟨member, List.contains_iff_mem.2 onPath⟩, rfl⟩

theorem closings_append (path names others : List String) :
    closings path (names ++ others) = closings path names ++ closings path others := by
  rw [closings, List.filter_append, List.map_append, closings, closings]

theorem closings_of_mem (onPath : name ∈ path) : closings path [name] = [closing path name] := by
  have kept : path.contains name = true := List.contains_iff_mem.2 onPath
  rw [closings, List.filter_singleton, kept]
  rfl

theorem closings_of_not_mem (offPath : name ∉ path) : closings path [name] = [] := by
  have dropped : path.contains name = false := by simpa using offPath
  rw [closings, List.filter_singleton, dropped]
  rfl

end Closing

/-- A search has followed names from the end of a path, and it has come to some names so. -/
structure Explores (dependencies : Dependencies) (path names : List String)
    (search later : Search) (arrivals : List Arrival) : Prop where
  finished : later.finished = arrivals.map Arrival.name ++ search.finished
  nodup : (path ++ later.finished).Nodup
  ordered : ∀ arrival ∈ arrivals, arrival.way.Sublist (path ++ later.finished)
  count : ∀ cycle, later.cycles.count cycle = search.cycles.count cycle +
    (closings path names).count cycle +
      (arrivals.flatMap (Arrival.closings dependencies)).count cycle

section Explore

variable {search : Search}

theorem explores_of_idle (nodup : (path ++ search.finished).Nodup) (offPath : name ∉ path) :
    Explores dependencies path [name] search search [] := by
  constructor
  · rfl
  · exact nodup
  · intro arrival member
    cases member
  · intro cycle
    rw [closings_of_not_mem offPath]
    rfl

theorem explores_of_mem_path (nodup : (path ++ search.finished).Nodup) (onPath : name ∈ path) :
    Explores dependencies path [name] search
      { search with cycles := search.cycles ++ [closing path name] } [] := by
  constructor
  · rfl
  · exact nodup
  · intro arrival member
    cases member
  · intro cycle
    rw [closings_of_mem onPath, List.count_append]
    rfl

theorem Explores.arrive {needed : List String} {later : Search} {arrivals : List Arrival}
    (known : dependencies.of? name = some needed) (offPath : name ∉ path)
    (inside : Explores dependencies (path ++ [name]) needed search later arrivals) :
    Explores dependencies path [name] search { later with finished := name :: later.finished }
      (⟨path, name⟩ :: arrivals) := by
  have split : path ++ [name] ++ later.finished = path ++ name :: later.finished :=
    List.append_assoc _ _ _
  constructor
  · rw [inside.finished]
    rfl
  · rw [← split]
    exact inside.nodup
  · intro arrival member
    rw [← split]
    rcases List.mem_cons.1 member with rfl | earlier
    · exact List.sublist_append_left _ _
    · exact inside.ordered arrival earlier
  · intro cycle
    have own : Arrival.closings dependencies ⟨path, name⟩ = closings (path ++ [name]) needed := by
      rw [Arrival.closings, known]
      rfl
    have all := inside.count cycle
    rw [closings_of_not_mem offPath, List.flatMap_cons, own, List.count_append, List.count_nil, all]
    omega

theorem explores_foldl {names : List String} {step : Search → String → Search}
    (each : ∀ name search, (path ++ search.finished).Nodup →
      ∃ arrivals, Explores dependencies path [name] search (step search name) arrivals)
    (nodup : (path ++ search.finished).Nodup) :
    ∃ arrivals, Explores dependencies path names search (names.foldl step search) arrivals := by
  induction names generalizing search with
  | nil =>
    refine ⟨[], rfl, nodup, fun arrival member => ?_, fun cycle => rfl⟩
    cases member
  | cons name rest ih =>
    obtain ⟨early, first⟩ := each name search nodup
    obtain ⟨late, others⟩ := ih first.nodup
    refine ⟨late ++ early, ?_, others.nodup, ?_, ?_⟩
    · rw [List.foldl_cons, others.finished, first.finished, List.map_append, List.append_assoc]
    · intro arrival member
      rcases List.mem_append.1 member with now | before
      · exact others.ordered arrival now
      · apply (first.ordered arrival before).trans
        rw [List.foldl_cons, others.finished]
        exact (List.sublist_append_right _ _).append_left path
    · intro cycle
      have here := first.count cycle
      have there := others.count cycle
      have both := closings_append path [name] rest
      rw [List.singleton_append] at both
      rw [both, List.flatMap_append, List.count_append, List.count_append, List.foldl_cons]
      omega

theorem exists_explores (room : HasDepth dependencies depth path)
    (nodup : (path ++ search.finished).Nodup) :
    ∃ arrivals, Explores dependencies path [name] search
      (follow dependencies depth path name search) arrivals := by
  induction depth generalizing path name search with
  | zero =>
    have enough := room.enough
    have fits := room.length_le
    omega
  | succ depth ih =>
    rw [follow]
    by_cases onPath : name ∈ path
    · rw [if_pos (by simpa using onPath)]
      exact ⟨[], explores_of_mem_path nodup onPath⟩
    · rw [if_neg (by simpa using onPath)]
      by_cases done : name ∈ search.finished
      · rw [if_pos (by simpa using done)]
        exact ⟨[], explores_of_idle nodup onPath⟩
      · rw [if_neg (by simpa using done)]
        cases known : dependencies.of? name with
        | none => exact ⟨[], explores_of_idle nodup onPath⟩
        | some needed =>
          have fresh : (path ++ [name] ++ search.finished).Nodup := by
            rw [List.append_assoc, List.singleton_append, List.nodup_middle]
            refine List.nodup_cons.2 ⟨?_, nodup⟩
            simp [onPath, done]
          obtain ⟨arrivals, inside⟩ :=
            explores_foldl (fun next search => ih (room.push onPath known)) fresh
          exact ⟨_, inside.arrive known onPath⟩

end Explore

/-- The names that the search comes to, each once and behind names that are finished later, with the
cycles that it finds. -/
structure IsAccount (dependencies : Dependencies) (arrivals : List Arrival) : Prop where
  nodup : (arrivals.map Arrival.name).Nodup
  ordered : ∀ arrival ∈ arrivals, arrival.way.Sublist (arrivals.map Arrival.name)
  count : ∀ cycle, dependencies.cycles.count cycle =
    (arrivals.flatMap (Arrival.closings dependencies)).count cycle

theorem exists_isAccount (dependencies : Dependencies) :
    ∃ arrivals, dependencies.IsAccount arrivals := by
  have room : HasDepth dependencies (dependencies.length + 1) [] :=
    ⟨List.nodup_nil, List.nil_subset _, Nat.lt_succ_self _⟩
  have start : ([] ++ (⟨[], []⟩ : Search).finished).Nodup := List.nodup_nil
  have explored : ∃ arrivals, Explores dependencies [] (dependencies.map (·.1)) ⟨[], []⟩
      ((dependencies.map (·.1)).foldl (fun search name =>
        follow dependencies (dependencies.length + 1) [] name search) ⟨[], []⟩) arrivals :=
    explores_foldl (fun name search => exists_explores room) start
  obtain ⟨arrivals, explores⟩ := explored
  have finished := explores.finished
  rw [List.append_nil] at finished
  refine ⟨arrivals, ?_, ?_, ?_⟩
  · rw [← finished]
    exact explores.nodup
  · rw [← finished]
    exact explores.ordered
  · intro cycle
    have all := explores.count cycle
    have outside : closings [] (dependencies.map (·.1)) = [] := by simp [closings]
    rw [List.foldl_map, outside, List.count_nil, Nat.add_zero] at all
    exact all.trans (Nat.zero_add _)

theorem IsCycle.exists_eq (real : dependencies.IsCycle cycle) :
    ∃ first, cycle = cycle.dropLast ++ [first] ∧ cycle.dropLast.head? = some first := by
  obtain ⟨first, between, rfl, _⟩ := real.closed
  rw [List.dropLast_concat]
  exact ⟨first, rfl, rfl⟩

theorem IsCycle.head?_eq (real : dependencies.IsCycle (front ++ [name, next])) :
    (front ++ [name]).head? = some next := by
  obtain ⟨first, same, head⟩ := real.exists_eq
  rw [List.append_cons, List.dropLast_concat] at same head
  obtain ⟨_, last⟩ := List.append_inj' same rfl
  cases last
  exact head

theorem Arrival.of_mem_closings {arrival : Arrival}
    (found : front ++ [name, next] ∈ arrival.closings dependencies) :
    arrival.name = name ∧ next ∈ arrival.way ∧ front ++ [name, next] = closing arrival.way next ∧
      ∃ needed, dependencies.of? name = some needed := by
  obtain ⟨last, listed, onWay, same⟩ := mem_closings.1 found
  obtain ⟨way, ends⟩ := exists_closing_eq onWay
  obtain ⟨_, step⟩ := List.append_inj' (same.trans ends) rfl
  cases step
  refine ⟨rfl, onWay, same, ?_⟩
  cases known : dependencies.of? arrival.name with
  | none => simp [known] at listed
  | some needed => exact ⟨needed, rfl⟩

namespace IsAccount

variable {arrivals : List Arrival} (account : dependencies.IsAccount arrivals)

include account

theorem mem_cycles_iff : cycle ∈ dependencies.cycles ↔
    ∃ arrival ∈ arrivals, cycle ∈ arrival.closings dependencies := by
  rw [← List.count_pos_iff, account.count, List.count_pos_iff, List.mem_flatMap]

theorem eq_of_name_eq {arrival other : Arrival} (here : arrival ∈ arrivals)
    (there : other ∈ arrivals) (same : arrival.name = other.name) : arrival = other :=
  List.inj_on_of_nodup_map account.nodup here there same

theorem eq_of_step (member : front ++ [name, next] ∈ dependencies.cycles)
    (other : back ++ [name, next] ∈ dependencies.cycles) :
    front ++ [name, next] = back ++ [name, next] := by
  obtain ⟨first, here, found⟩ := account.mem_cycles_iff.1 member
  obtain ⟨second, there, also⟩ := account.mem_cycles_iff.1 other
  obtain ⟨named, _, same, _⟩ := first.of_mem_closings found
  obtain ⟨alike, _, again, _⟩ := second.of_mem_closings also
  rw [same, again, account.eq_of_name_eq here there (named.trans alike.symm)]

/-- A cycle is found each time that its last step is listed. -/
theorem count_cycles (member : front ++ [name, next] ∈ dependencies.cycles) :
    ∃ needed, dependencies.of? name = some needed ∧
      dependencies.cycles.count (front ++ [name, next]) = needed.count next := by
  obtain ⟨arrival, here, found⟩ := account.mem_cycles_iff.1 member
  obtain ⟨rfl, onWay, same, needed, known⟩ := arrival.of_mem_closings found
  refine ⟨needed, known, ?_⟩
  have own : (arrival.closings dependencies).count (front ++ [arrival.name, next]) =
      needed.count next := by
    rw [same, Arrival.closings, known, Option.getD_some, count_closings needed onWay]
  have others (rest : List Arrival) (within : rest ⊆ arrivals)
      (apart : arrival.name ∉ rest.map Arrival.name) :
      (rest.flatMap (Arrival.closings dependencies)).count (front ++ [arrival.name, next]) = 0 := by
    rw [List.count_eq_zero, List.mem_flatMap]
    rintro ⟨other, there, also⟩
    have alike := (other.of_mem_closings also).1
    exact apart (alike ▸ List.mem_map_of_mem there)
  obtain ⟨before, after, split⟩ := List.mem_iff_append.1 here
  have nodup := account.nodup
  rw [split, List.map_append, List.map_cons, List.nodup_middle, List.nodup_cons,
    List.mem_append, not_or] at nodup
  have all := account.count (front ++ [arrival.name, next])
  rw [split, List.flatMap_append, List.flatMap_cons, List.count_append, List.count_append, own,
    others before (split ▸ List.subset_append_left _ _) nodup.1.1,
    others after (split ▸ List.subset_append_of_subset_right _ (List.subset_cons_self _ _))
      nodup.1.2] at all
  rw [all, Nat.zero_add, Nat.add_zero]

/-- A cycle goes through its names in the order opposite to the one in which they are finished. -/
theorem dropLast_sublist (member : cycle ∈ dependencies.cycles) :
    cycle.dropLast.Sublist (arrivals.map Arrival.name) := by
  obtain ⟨arrival, here, found⟩ := account.mem_cycles_iff.1 member
  obtain ⟨next, _, _, rfl⟩ := mem_closings.1 found
  rw [closing, List.dropLast_concat]
  exact (List.dropWhile_sublist _).trans (account.ordered arrival here)

/-- Of two found cycles, none takes the last step of the other on its way. -/
theorem not_sublist (member : front ++ [name, next] ∈ dependencies.cycles)
    (other : found ∈ dependencies.cycles) : ¬[name, next].Sublist found.dropLast := by
  intro within
  have forward := within.trans (account.dropLast_sublist other)
  by_cases same : name = next
  · subst same
    have twice := account.nodup.sublist forward
    simp at twice
  · have head := (isCycle_of_mem_cycles member).head?_eq
    have back : [next, name].Sublist (front ++ [name]) := by
      cases front with
      | nil => exact absurd (Option.some.inj head) same
      | cons first rest =>
        cases head
        exact (List.singleton_sublist.2 (by simp)).cons_cons _
    have ends := account.dropLast_sublist member
    rw [List.append_cons, List.dropLast_concat] at ends
    have alike := (account.nodup.perm_iff_eq_of_sublist forward (back.trans ends)).1
      (List.Perm.swap _ _ _)
    exact same (List.cons_eq_cons.1 alike).1

end IsAccount

/-- A cycle that takes a step can be gone round so that it starts where the step leads to. -/
theorem IsCycle.exists_isRotated (real : dependencies.IsCycle cycle)
    (takes : [name, next] <:+: cycle) :
    ∃ way, (next :: way).getLast? = some name ∧ cycle.dropLast ~r next :: way := by
  obtain ⟨before, after, split⟩ := takes
  cases after using List.reverseRecOn with
  | nil =>
    rw [List.append_nil] at split
    subst split
    have head := real.head?_eq
    rw [List.append_cons, List.dropLast_concat]
    cases before with
    | nil =>
      cases head
      exact ⟨[], rfl, .refl _⟩
    | cons first rest =>
      cases head
      exact ⟨rest ++ [name], by rw [← List.cons_append, List.getLast?_concat], .refl _⟩
  | append_singleton after last =>
    have whole : cycle = (before ++ [name]) ++ (next :: after) ++ [last] := by
      rw [← split]
      simp
    rw [whole, List.dropLast_concat]
    refine ⟨after ++ (before ++ [name]), ?_, List.isRotated_append⟩
    rw [← List.cons_append, ← List.append_assoc, List.getLast?_concat]

theorem exists_append_of_isRotated {names others : List String} (rotated : names ~r others) :
    ∃ front back, names = front ++ back ∧ others = back ++ front := by
  obtain ⟨n, within, rfl⟩ := List.isRotated_iff_mod.1 rotated
  exact ⟨names.take n, names.drop n, (List.take_append_drop n names).symm,
    List.rotate_eq_drop_append_take within⟩

theorem IsAccount.sameRound_of_takes {arrivals : List Arrival}
    (account : dependencies.IsAccount arrivals) (real : dependencies.IsCycle cycle)
    (member : front ++ [name, next] ∈ dependencies.cycles) (takes : [name, next] <:+: cycle)
    (other : found ∈ dependencies.cycles) (same : SameRound cycle found) :
    front ++ [name, next] = found := by
  obtain ⟨way, last, rotated⟩ := real.exists_isRotated takes
  obtain ⟨early, late, names, turned⟩ := exists_append_of_isRotated (same.symm.trans rotated)
  have whole (straight : found.dropLast = next :: way) : front ++ [name, next] = found := by
    obtain ⟨first, ends, head⟩ := (isCycle_of_mem_cycles other).exists_eq
    rw [straight] at ends head
    cases head
    obtain ⟨back, before⟩ := List.getLast?_eq_some_iff.1 last
    rw [before, List.append_assoc] at ends
    rw [ends] at other ⊢
    exact account.eq_of_step member other
  cases late with
  | nil =>
    rw [List.append_nil] at names
    exact whole (names.trans turned.symm)
  | cons start rest =>
    rw [List.cons_append, List.cons_eq_cons] at turned
    obtain ⟨rfl, rfl⟩ := turned
    cases early using List.reverseRecOn with
    | nil => exact whole (by rw [names, List.append_nil, List.nil_append])
    | append_singleton early stop =>
      -- The found cycle would take the step on its way.
      rw [← List.append_assoc, ← List.cons_append, List.getLast?_concat] at last
      cases last
      refine absurd ?_ (account.not_sublist member other)
      have step : [name, next].Sublist (name :: next :: rest) :=
        ((List.nil_sublist rest).cons_cons next).cons_cons name
      rw [names, List.append_assoc]
      exact step.trans (List.sublist_append_right _ _)

theorem IsCycle.exists_takes (real : dependencies.IsCycle cycle) :
    ∃ front name next, front ++ [name, next] ∈ dependencies.cycles ∧ [name, next] <:+: cycle := by
  by_contra free
  have beside : cycle.IsChain (dependencies.NeedsBeside dependencies.cycles) := by
    rw [List.isChain_iff_forall_rel_of_append_cons_cons]
    rintro name next before after rfl
    refine ⟨List.isChain_iff_forall_rel_of_append_cons_cons.1 real.chain rfl, ?_⟩
    rintro ⟨front, member⟩
    exact free ⟨front, name, next, member, before, after, by simp⟩
  obtain ⟨first, between, rfl, _⟩ := real.closed
  have backwards := Relation.transGen_swap.2 (transGen_of_isChain between beside)
  exact (wellFounded_beside_cycles dependencies).transGen.asymmetric _ _ backwards backwards

section Count

variable {arrivals : List Arrival} (account : dependencies.IsAccount arrivals)

include account

/-- A cycle that takes the last step of a found one is found as often as this step is listed, or not
at all. -/
theorem IsAccount.countP_eq (real : dependencies.IsCycle cycle)
    (member : front ++ [name, next] ∈ dependencies.cycles) (takes : [name, next] <:+: cycle)
    {needed : List String} (known : dependencies.of? name = some needed) :
    dependencies.cycles.countP (SameRound cycle) =
      if SameRound cycle (front ++ [name, next]) then needed.count next else 0 := by
  split
  · next same =>
    obtain ⟨listed, also, count⟩ := account.count_cycles member
    rw [known] at also
    cases also
    rw [← count, List.count_eq_countP]
    apply List.countP_congr
    intro found other
    rw [decide_eq_true_eq, beq_iff_eq]
    constructor
    · intro alike
      exact (account.sameRound_of_takes real member takes other alike).symm
    · intro alike
      exact alike ▸ same
  · next apart =>
    rw [List.countP_eq_zero]
    intro found other alike
    have same := account.sameRound_of_takes real member takes other (of_decide_eq_true alike)
    exact apart (same ▸ of_decide_eq_true alike)

end Count

/-- Every cycle takes the last step of a cycle that is found. If it goes the same round as that one,
it is found as often as this step is listed; otherwise it is not found. So each cycle is found once
if and only if the last steps of found cycles are listed once and taken by no other cycles. -/
theorem countP_cycles (dependencies : Dependencies) :
    (∀ cycle, dependencies.IsCycle cycle →
      ∃ front name next needed, front ++ [name, next] ∈ dependencies.cycles ∧
        [name, next] <:+: cycle ∧ dependencies.of? name = some needed ∧
        dependencies.cycles.countP (SameRound cycle) =
          if SameRound cycle (front ++ [name, next]) then needed.count next else 0) ∧
    ((∀ cycle, dependencies.IsCycle cycle →
        dependencies.cycles.countP (SameRound cycle) = 1) ↔
      ∀ front name next needed, front ++ [name, next] ∈ dependencies.cycles →
        dependencies.of? name = some needed → needed.count next = 1 ∧
          ∀ cycle, dependencies.IsCycle cycle → [name, next] <:+: cycle →
            SameRound cycle (front ++ [name, next])) := by
  obtain ⟨arrivals, account⟩ := exists_isAccount dependencies
  have each (cycle : List String) (real : dependencies.IsCycle cycle) :
      ∃ front name next needed, front ++ [name, next] ∈ dependencies.cycles ∧
        [name, next] <:+: cycle ∧ dependencies.of? name = some needed ∧
        dependencies.cycles.countP (SameRound cycle) =
          if SameRound cycle (front ++ [name, next]) then needed.count next else 0 := by
    obtain ⟨front, name, next, member, takes⟩ := real.exists_takes
    obtain ⟨needed, known, _⟩ := account.count_cycles member
    exact ⟨front, name, next, needed, member, takes, known,
      account.countP_eq real member takes known⟩
  refine ⟨each, ?_⟩
  constructor
  · intro once front name next needed member known
    have real := isCycle_of_mem_cycles member
    have itself : [name, next] <:+: front ++ [name, next] := (List.suffix_append _ _).isInfix
    have round (cycle : List String) (real : dependencies.IsCycle cycle)
        (takes : [name, next] <:+: cycle) : SameRound cycle (front ++ [name, next]) := by
      have counted := account.countP_eq real member takes known
      rw [once cycle real] at counted
      by_contra apart
      rw [if_neg apart] at counted
      cases counted
    refine ⟨?_, round⟩
    have counted := account.countP_eq real member itself known
    rw [once _ real, if_pos (round _ real itself)] at counted
    exact counted.symm
  · intro single cycle real
    obtain ⟨front, name, next, needed, member, takes, known, counted⟩ := each cycle real
    obtain ⟨listed, round⟩ := single front name next needed member known
    rw [counted, if_pos (round cycle real takes), listed]

end Dependencies

namespace Sample

def twofold : Dependencies := [("Info", ["Info", "Info"])]

/-- Three fragments in a ring, the first of which spreads the last as well. -/
def shortcut : Dependencies := [("Page", ["User", "Info"]), ("User", ["Info"]), ("Info", ["Page"])]

end Sample

theorem Dependencies.cycles_uneven :
    (Sample.twofold.IsCycle ["Info", "Info"] ∧
      Sample.twofold.cycles.countP (SameRound ["Info", "Info"]) = 2) ∧
    Sample.shortcut.IsCycle ["Page", "Info", "Page"] ∧
      Sample.shortcut.cycles.countP (SameRound ["Page", "Info", "Page"]) = 0 := by
  have itself : Sample.twofold.Needs "Info" "Info" := ⟨_, rfl, by decide⟩
  have forth : Sample.shortcut.Needs "Page" "Info" := ⟨_, rfl, by decide⟩
  have back : Sample.shortcut.Needs "Info" "Page" := ⟨_, rfl, by decide⟩
  refine ⟨⟨⟨.cons_cons itself (.singleton _), "Info", [], rfl, by decide⟩, by decide +kernel⟩,
    ⟨.cons_cons forth (.cons_cons back (.singleton _)), "Page", ["Info"], rfl, by decide⟩,
    by decide +kernel⟩

end DocumentNormalizer
