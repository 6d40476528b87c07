import DocumentNormalizer.Proofs.Appending
import DocumentNormalizer.Proofs.Termination

namespace DocumentNormalizer

open Relation (ReflTransGen)

namespace Walk

variable {σ : Type} {schema : Schema} {visitor : Visitor σ} {document : String} {depth : Nat}
  {scope next : Scope} {place : Place} {index : Nat} {selection : Selection}
  {progress later last : Progress (σ × List Visit)}

def Visits (progress : Progress (σ × List Visit)) (place : Place) : Prop :=
  ∃ visit ∈ progress.memory.2, visit.scope.place = place

/-- A spread that names no fragment was reported, from a visit of its set. -/
def Reports (document : String) (progress : Progress (σ × List Visit)) (place : Place)
    (use : Spread) : Prop :=
  ∃ visit ∈ progress.memory.2, visit.scope.place = place ∧
    .unsigned (.unknownFragment use.name) document
      ⟨visit.scope.path ++ ["..." ++ use.name], use.position⟩ ∈ progress.diagnostics

/-- A walk is done with a selection of the set at a place. -/
structure DoneWith (document : String) (progress : Progress (σ × List Visit)) (place : Place)
    (index : Nat) (selection : Selection) : Prop where
  inside : selection.set?.isSome = true → Visits progress ⟨place.key, place.path ++ [index]⟩
  across : ∀ use, selection = .spread use → progress.store.HasFragment use.name →
    Visits progress ⟨use.name, []⟩
  unknown : ∀ use, selection = .spread use → ¬progress.store.HasFragment use.name →
    Reports document progress place use

theorem doneWith_leaf (field : Field) : DoneWith document progress place index (.leaf field) where
  inside nested := by cases nested
  across _ same := by cases same
  unknown _ same := by cases same

theorem doneWith_spread {use : Spread}
    (across : progress.store.HasFragment use.name → Visits progress ⟨use.name, []⟩)
    (unknown : ¬progress.store.HasFragment use.name → Reports document progress place use) :
    DoneWith document progress place index (.spread use) where
  inside nested := by cases nested
  across other same known := by
    cases same
    exact across known
  unknown other same missing := by
    cases same
    exact unknown missing

/-- A walk is done with selections of the set at a place. Only their outlines count. -/
def DoneWithAll (document : String) (progress : Progress (σ × List Visit)) (place : Place)
    (outlines : List Selection) : Prop :=
  ∀ index outline, outlines[index]? = some outline → DoneWith document progress place index outline

def Settled (document : String) (progress : Progress (σ × List Visit)) (place : Place) : Prop :=
  ∃ set, progress.store.set? place = some set ∧
    DoneWithAll document progress place set.outlines

/-- A walk has gone on. The sets that were there have kept what they had, and those that have got
more are done, as are those that were visited. -/
structure Onward (document : String) (progress later : Progress (σ × List Visit)) : Prop where
  record : progress.memory.2 ⊆ later.memory.2
  diagnostics : progress.diagnostics ⊆ later.diagnostics
  fragments : ∀ name, later.store.HasFragment name ↔ progress.store.HasFragment name
  grown : ∀ place set, progress.store.set? place = some set →
    ∃ more, later.store.set? place = some more ∧ set.outlines <+: more.outlines ∧
      (more.outlines = set.outlines ∨ DoneWithAll document later place more.outlines)
  settled : ∀ place, Visits later place → Visits progress place ∨ Settled document later place

namespace Onward

theorem refl (document : String) (progress : Progress (σ × List Visit)) :
    Onward document progress progress where
  record := List.Subset.refl _
  diagnostics := List.Subset.refl _
  fragments _ := Iff.rfl
  grown _ set found := ⟨set, found, List.prefix_refl _, .inl rfl⟩
  settled _ := .inl

variable (onward : Onward document progress later)

include onward

theorem visits (visited : Visits progress place) : Visits later place := by
  obtain ⟨visit, member, here⟩ := visited
  exact ⟨visit, onward.record member, here⟩

theorem reports {use : Spread} (reported : Reports document progress place use) :
    Reports document later place use := by
  obtain ⟨visit, member, here, given⟩ := reported
  exact ⟨visit, onward.record member, here, onward.diagnostics given⟩

theorem doneWith (done : DoneWith document progress place index selection) :
    DoneWith document later place index selection where
  inside nested := onward.visits (done.inside nested)
  across use same known := onward.visits (done.across use same ((onward.fragments _).1 known))
  unknown use same missing :=
    onward.reports (done.unknown use same (mt (onward.fragments _).2 missing))

theorem doneWithAll {outlines : List Selection}
    (done : DoneWithAll document progress place outlines) :
    DoneWithAll document later place outlines :=
  fun index outline chosen => onward.doneWith (done index outline chosen)

theorem settles (settled : Settled document progress place) : Settled document later place := by
  obtain ⟨set, found, done⟩ := settled
  obtain ⟨more, there, _, same | finished⟩ := onward.grown place set found
  · exact ⟨more, there, same ▸ onward.doneWithAll done⟩
  · exact ⟨more, there, finished⟩

theorem trans (further : Onward document later last) : Onward document progress last where
  record := List.Subset.trans onward.record further.record
  diagnostics := List.Subset.trans onward.diagnostics further.diagnostics
  fragments name := (further.fragments name).trans (onward.fragments name)
  grown place set found := by
    obtain ⟨more, there, longer, before⟩ := onward.grown place set found
    obtain ⟨most, ever, longest, after⟩ := further.grown place more there
    refine ⟨most, ever, longer.trans longest, ?_⟩
    rcases after with same | done
    · rw [same]
      exact before.imp_right further.doneWithAll
    · exact .inr done
  settled place visited := by
    rcases further.settled place visited with before | done
    · exact (onward.settled place before).imp_right further.settles
    · exact .inr done

end Onward

theorem onward_report (document : String) (progress : Progress (σ × List Visit))
    (reports : List Diagnostic) :
    Onward document progress { progress with diagnostics := progress.diagnostics ++ reports } where
  record := List.Subset.refl _
  diagnostics := List.subset_append_left _ _
  fragments _ := Iff.rfl
  grown _ set found := ⟨set, found, List.prefix_refl _, .inl rfl⟩
  settled _ := .inl

/-- A walk is about to visit the set of a scope. Its document is open, but maybe not visited. -/
structure Ready (progress : Progress (σ × List Visit)) (scope : Scope) : Prop where
  found : (progress.store.set? scope.place).isSome = true
  opened : ∀ name ∈ scope.openFragments, progress.store.HasFragment name ∧
    (Visits progress ⟨name, []⟩ ∨ scope.place = ⟨name, []⟩)

/-- A walk is among the selections of the set of a scope. -/
structure Amid (progress : Progress (σ × List Visit)) (scope : Scope) (outlines : List Selection) :
    Prop where
  visited : ∃ visit ∈ progress.memory.2, visit.scope = scope
  found : ∃ set, progress.store.set? scope.place = some set ∧ outlines <+: set.outlines
  opened : ∀ name ∈ scope.openFragments,
    progress.store.HasFragment name ∧ Visits progress ⟨name, []⟩

variable {outlines : List Selection}

theorem Amid.onward (amid : Amid progress scope outlines)
    (onward : Onward document progress later) : Amid later scope outlines := by
  obtain ⟨visit, member, same⟩ := amid.visited
  obtain ⟨set, there, longer⟩ := amid.found
  obtain ⟨more, still, longest, _⟩ := onward.grown _ _ there
  refine ⟨⟨visit, onward.record member, same⟩, ⟨more, still, longer.trans longest⟩, ?_⟩
  intro name isOpen
  obtain ⟨fragment, visited⟩ := amid.opened name isOpen
  exact ⟨(onward.fragments name).2 fragment, onward.visits visited⟩

theorem Amid.ready_inside (amid : Amid progress scope outlines)
    (chosen : outlines[index]? = some selection.outline) (nested : selection.set?.isSome = true)
    (place : next.place = below scope index) (same : next.openFragments = scope.openFragments) :
    Ready progress next := by
  obtain ⟨set, there, longer⟩ := amid.found
  refine ⟨?_, fun name isOpen => ?_⟩
  · obtain ⟨rest, whole⟩ := longer
    have kept : set.outlines[index]? = some selection.outline := by
      rw [← whole, List.getElem?_append_left (List.getElem?_eq_some_iff.1 chosen).1, chosen]
    rw [SelectionSet.getElem?_outlines] at kept
    obtain ⟨now, here, alike⟩ := Option.map_eq_some_iff.1 kept
    rw [place, below, Store.set?_below there, here, Option.bind_eq_bind, Option.bind_some,
      ← Selection.isSome_set?_outline, alike, Selection.isSome_set?_outline, nested]
  · rw [same] at isOpen
    obtain ⟨fragment, visited⟩ := amid.opened name isOpen
    exact ⟨fragment, .inl visited⟩

theorem Amid.ready_across (amid : Amid progress scope outlines) {name : String}
    (fragment : progress.store.HasFragment name) (place : next.place = ⟨name, []⟩)
    (more : next.openFragments = scope.openFragments ++ [name]) : Ready progress next := by
  refine ⟨?_, fun other isOpen => ?_⟩
  · obtain ⟨document, there, _⟩ := fragment
    rw [place, Store.set?_root, there]
    rfl
  · rw [more] at isOpen
    rcases List.mem_append.1 isOpen with earlier | now
    · obtain ⟨known, visited⟩ := amid.opened other earlier
      exact ⟨known, .inl visited⟩
    · rw [List.mem_singleton.1 now]
      exact ⟨fragment, .inr place⟩

/-- From every scope that a walk is ready for, it visits the set and goes on. -/
def Proceeds (schema : Schema) (visitor : Visitor σ) (document : String) (depth : Nat) : Prop :=
  ∀ scope progress later, Ready progress scope →
    into schema visitor.recording document depth scope progress = later → later.fault = none →
      Onward document progress later ∧ Visits later scope.place

section Enter

variable {step : Step}

variable
  (entered : enter schema visitor.recording document depth scope progress (selection, index) =
    later)
  (ends : later.fault = none)

include entered ends

theorem exists_step : progress.fault = none ∧
    ∃ step, follow schema progress.store document scope index selection = .ok step := by
  subst entered
  have sound := fault_of_enter ends
  refine ⟨sound, ?_⟩
  cases follows : follow schema progress.store document scope index selection with
  | error fault =>
    rw [enter_of_error sound follows] at ends
    cases ends
  | ok step => exact ⟨step, rfl⟩

theorem onward_of_next_eq_none
    (follows : follow schema progress.store document scope index selection = .ok step)
    (stays : step.next = none) :
    Onward document progress later ∧ step.reports ⊆ later.diagnostics ∧
      later.memory = progress.memory := by
  obtain ⟨sound, _⟩ := exists_step entered ends
  rw [enter_of_next_eq_none sound follows stays] at entered
  subst entered
  exact ⟨onward_report _ _ _, List.subset_append_right _ _, rfl⟩

theorem onward_of_next_eq_some (proceeds : Proceeds schema visitor document depth)
    (ready : Ready progress next)
    (follows : follow schema progress.store document scope index selection = .ok step)
    (leads : step.next = some next) :
    Onward document progress later ∧ Visits later next.place := by
  obtain ⟨sound, _⟩ := exists_step entered ends
  rw [enter_of_next_eq_some sound follows leads] at entered
  have still : Ready { progress with diagnostics := progress.diagnostics ++ step.reports } next :=
    ⟨ready.found, ready.opened⟩
  obtain ⟨further, visited⟩ := proceeds next _ later still entered ends
  exact ⟨(onward_report document progress step.reports).trans further, visited⟩

end Enter

section Selections

variable (proceeds : Proceeds schema visitor document depth) (amid : Amid progress scope outlines)

include amid

include proceeds in
theorem proceeds_inside {step : Step}
    (entered : enter schema visitor.recording document depth scope progress (selection, index) =
      later)
    (ends : later.fault = none) (chosen : outlines[index]? = some selection.outline)
    (nested : selection.set?.isSome = true)
    (follows : follow schema progress.store document scope index selection = .ok step)
    (leads : step.next = some next) (place : next.place = below scope index)
    (same : next.openFragments = scope.openFragments) :
    Onward document progress later ∧
      DoneWith document later scope.place index selection.outline := by
  have ready := amid.ready_inside chosen nested place same
  obtain ⟨onward, visited⟩ := onward_of_next_eq_some entered ends proceeds ready follows leads
  rw [place] at visited
  rw [← Selection.isSome_set?_outline] at nested
  refine ⟨onward, fun _ => visited, fun use spread _ => ?_, fun use spread _ => ?_⟩
  · rw [spread] at nested
    cases nested
  · rw [spread] at nested
    cases nested

variable {use : Spread}
  (entered : enter schema visitor.recording document depth scope progress (.spread use, index) =
    later)
  (ends : later.fault = none)

include entered ends

/-- A fragment is being walked through where it is open, so its root was visited. -/
theorem proceeds_open (isOpen : use.name ∈ scope.openFragments) :
    Onward document progress later ∧ DoneWith document later scope.place index (.spread use) := by
  obtain ⟨step, follows, stays⟩ : ∃ step,
      follow schema progress.store document scope index (.spread use) = .ok step ∧
      step.next = none := by
    simp [follow, followSpread, isOpen]
  obtain ⟨onward, _, _⟩ := onward_of_next_eq_none entered ends follows stays
  obtain ⟨known, visited⟩ := amid.opened use.name isOpen
  refine ⟨onward, doneWith_spread (fun _ => onward.visits visited) fun missing => ?_⟩
  exact absurd ((onward.fragments _).2 known) missing

theorem proceeds_unknown (fresh : use.name ∉ scope.openFragments)
    (found : progress.store.fragment? use.name = .ok none) :
    Onward document progress later ∧ DoneWith document later scope.place index (.spread use) := by
  have follows : follow schema progress.store document scope index (.spread use) =
      .ok ⟨[.unsigned (.unknownFragment use.name) document
        ⟨scope.path ++ ["..." ++ use.name], use.position⟩], none⟩ := by
    simp [follow, followSpread, fresh, found]
  obtain ⟨onward, reported, memory⟩ := onward_of_next_eq_none entered ends follows rfl
  refine ⟨onward, doneWith_spread (fun known => ?_) fun _ => ?_⟩
  · have missing := Store.not_hasFragment_of_fragment? found
    exact absurd ((onward.fragments _).1 known) missing
  · obtain ⟨visit, member, same⟩ := amid.visited
    rw [← memory] at member
    refine ⟨visit, member, by rw [same], ?_⟩
    rw [same]
    exact reported (List.mem_singleton_self _)

include proceeds

theorem proceeds_across {condition : String} (fresh : use.name ∉ scope.openFragments)
    (found : progress.store.fragment? use.name = .ok (some condition)) :
    Onward document progress later ∧ DoneWith document later scope.place index (.spread use) := by
  have known := Store.hasFragment_of_fragment? found
  obtain ⟨step, follows, leads⟩ : ∃ step,
      follow schema progress.store document scope index (.spread use) = .ok step ∧
      step.next = some ⟨⟨use.name, []⟩, (schema.type? condition).getD scope.type,
        scope.path ++ ["..." ++ use.name], scope.openFragments ++ [use.name], .spread⟩ := by
    cases typed : schema.type? condition <;> simp [follow, followSpread, fresh, found, typed]
  have ready (type : NamedType) (path : List String) : Ready progress
      ⟨⟨use.name, []⟩, type, path, scope.openFragments ++ [use.name], .spread⟩ :=
    amid.ready_across known rfl rfl
  obtain ⟨onward, visited⟩ :=
    onward_of_next_eq_some entered ends proceeds (ready _ _) follows leads
  refine ⟨onward, doneWith_spread (fun _ => visited) fun missing => ?_⟩
  exact absurd ((onward.fragments _).2 known) missing

theorem proceeds_spread :
    Onward document progress later ∧ DoneWith document later scope.place index (.spread use) := by
  by_cases isOpen : use.name ∈ scope.openFragments
  · exact proceeds_open amid entered ends isOpen
  · cases found : progress.store.fragment? use.name with
    | error fault =>
      obtain ⟨_, step, follows⟩ := exists_step entered ends
      simp [follow, followSpread, isOpen, found] at follows
    | ok condition? =>
      cases condition? with
      | none => exact proceeds_unknown amid entered ends isOpen found
      | some condition => exact proceeds_across proceeds amid entered ends isOpen found

omit entered

theorem proceeds_enter
    (entered : enter schema visitor.recording document depth scope progress (selection, index) =
      later)
    (chosen : outlines[index]? = some selection.outline) :
    Onward document progress later ∧
      DoneWith document later scope.place index selection.outline := by
  cases selection with
  | leaf field =>
    rw [enter_leaf] at entered
    subst entered
    exact ⟨.refl _ _, doneWith_leaf field⟩
  | branch field position selections =>
    exact proceeds_inside proceeds amid entered ends chosen rfl rfl (next_followField field) rfl rfl
  | inline fragment position selections =>
    exact proceeds_inside proceeds amid entered ends chosen rfl rfl (next_followInline fragment) rfl
      rfl
  | spread use => exact proceeds_spread proceeds amid entered ends

end Selections

/-- A walk goes on with selections that it took from a set, whatever the set gets meanwhile. -/
theorem proceeds_foldl (proceeds : Proceeds schema visitor document depth)
    (amid : Amid progress scope outlines) {items : List (Selection × Nat)}
    (listed : ∀ item ∈ items, outlines[item.2]? = some item.1.outline)
    (walked : items.foldl (enter schema visitor.recording document depth scope) progress = later)
    (ends : later.fault = none) :
    Onward document progress later ∧
      ∀ item ∈ items, DoneWith document later scope.place item.2 item.1.outline := by
  induction items generalizing progress with
  | nil =>
    cases walked
    exact ⟨.refl _ _, fun item member => by cases member⟩
  | cons first rest ih =>
    rw [List.foldl_cons] at walked
    have sound : (enter schema visitor.recording document depth scope progress first).fault =
        none := by
      rw [← walked] at ends
      exact fault_of_foldl_enter ends
    obtain ⟨onward, done⟩ :=
      proceeds_enter proceeds amid sound rfl (listed first List.mem_cons_self)
    obtain ⟨further, others⟩ := ih (amid.onward onward)
      (fun item member => listed item (List.mem_cons_of_mem _ member)) walked
    refine ⟨onward.trans further, fun item member => ?_⟩
    rcases List.mem_cons.1 member with rfl | member
    · exact further.doneWith done
    · exact others item member

section Visit

/-- The selections that a walk takes from the set of a scope, after its visit. -/
def taken (visitor : Visitor σ) (document : String) (scope : Scope)
    (progress : Progress (σ × List Visit)) : List Selection :=
  (progress.store.setAt scope.place).selections ++
    (visitor.recording ⟨document, scope, progress.store.setAt scope.place⟩ progress.memory).1

theorem set?_attend {set : SelectionSet} (found : progress.store.set? scope.place = some set) :
    ∃ now, (attend visitor.recording progress (.visit document scope)).store.set? scope.place =
        some now ∧
      now.outlines = (taken visitor document scope progress).map Selection.outline := by
  obtain ⟨now, there, whole⟩ := Store.set?_append scope.place
    (visitor.recording ⟨document, scope, progress.store.setAt scope.place⟩ progress.memory).1 found
  refine ⟨now, there, ?_⟩
  rw [whole, if_pos rfl, taken, List.map_append, Store.setAt_of_set? found]
  rfl

theorem Ready.amid (ready : Ready progress scope) :
    Amid (attend visitor.recording progress (.visit document scope)) scope
      ((taken visitor document scope progress).map Selection.outline) := by
  obtain ⟨set, found⟩ := Option.isSome_iff_exists.1 ready.found
  obtain ⟨now, there, whole⟩ := set?_attend found
  have recorded : ∃ visit ∈ (attend visitor.recording progress (.visit document scope)).memory.2,
      visit.scope = scope :=
    ⟨_, List.mem_append_right _ (List.mem_singleton_self _), rfl⟩
  refine ⟨recorded, ⟨now, there, whole ▸ List.prefix_refl _⟩, fun name isOpen => ?_⟩
  obtain ⟨known, before | now⟩ := ready.opened name isOpen
  · obtain ⟨visit, member, place⟩ := before
    exact ⟨(Store.hasFragment_append _ _ _).2 known, visit, List.mem_append_left _ member, place⟩
  · obtain ⟨visit, member, same⟩ := recorded
    exact ⟨(Store.hasFragment_append _ _ _).2 known, visit, member, by rw [same, now]⟩

variable
  (further : Onward document (attend visitor.recording progress (.visit document scope)) later)
  (done : ∀ item ∈ (taken visitor document scope progress).zipIdx,
    DoneWith document later scope.place item.2 item.1.outline)

include further done

/-- When a walk is done with all that it took from a set, it is done with the set: whatever came
later was dealt with when it came. -/
theorem Ready.settled (ready : Ready progress scope) : Settled document later scope.place := by
  obtain ⟨set, found⟩ := Option.isSome_iff_exists.1 ready.found
  obtain ⟨now, there, whole⟩ := set?_attend found
  obtain ⟨more, still, _, same | finished⟩ := further.grown _ now there
  · refine ⟨more, still, fun index outline chosen => ?_⟩
    rw [same, whole, List.getElem?_map] at chosen
    obtain ⟨selection, given, rfl⟩ := Option.map_eq_some_iff.1 chosen
    exact done (selection, index) (List.mk_mem_zipIdx_iff_getElem?.2 given)
  · exact ⟨more, still, finished⟩

theorem Ready.onward (ready : Ready progress scope) : Onward document progress later := by
  have here := ready.settled further done
  constructor
  · exact List.Subset.trans (List.subset_append_left _ _) further.record
  · exact further.diagnostics
  · exact fun name => (further.fragments name).trans (Store.hasFragment_append _ _ name)
  · intro place set found
    obtain ⟨now, there, whole⟩ := Store.set?_append scope.place
      (visitor.recording ⟨document, scope, progress.store.setAt scope.place⟩ progress.memory).1
      found
    obtain ⟨more, still, longer, kept⟩ := further.grown place now there
    refine ⟨more, still, (whole ▸ List.prefix_append _ _).trans longer, ?_⟩
    by_cases same : scope.place = place
    · subst same
      obtain ⟨set, again, finished⟩ := here
      rw [still] at again
      cases again
      exact .inr finished
    · rw [if_neg same, List.append_nil] at whole
      rw [← whole]
      exact kept
  · intro place visited
    rcases further.settled place visited with ⟨visit, member, same⟩ | finished
    · rcases List.mem_append.1 member with before | now
      · exact .inl ⟨visit, before, same⟩
      · rw [List.mem_singleton.1 now] at same
        exact .inr (same ▸ here)
    · exact .inr finished

end Visit

theorem outline_of_mem_zipIdx {selections : List Selection} {item : Selection × Nat}
    (member : item ∈ selections.zipIdx) :
    (selections.map Selection.outline)[item.2]? = some item.1.outline := by
  rw [List.getElem?_map, List.mem_zipIdx_iff_getElem?.1 member]
  rfl

theorem proceeds (schema : Schema) (visitor : Visitor σ) (document : String) (depth : Nat) :
    Proceeds schema visitor document depth := by
  induction depth with
  | zero =>
    intro scope progress later _ walked ends
    subst walked
    cases ends
  | succ depth ih =>
    intro scope progress later ready walked ends
    rw [into_succ] at walked
    have amid : Amid (attend visitor.recording progress (.visit document scope)) scope
        ((taken visitor document scope progress).map Selection.outline) := ready.amid
    obtain ⟨further, done⟩ :=
      proceeds_foldl ih amid (fun _ member => outline_of_mem_zipIdx member) walked ends
    obtain ⟨visit, member, same⟩ := amid.visited
    exact ⟨ready.onward further done, further.visits ⟨visit, member, by rw [same]⟩⟩

theorem Settled.visits (settled : Settled document progress place) {other : Place}
    (opens : progress.store.Opens place other) : Visits progress other := by
  obtain ⟨set, there, done⟩ := settled
  cases opens with
  | inside found chosen has =>
    rw [there] at found
    cases found
    apply (done _ _ (by rw [SelectionSet.getElem?_outlines, chosen, Option.map_some])).inside
    rw [Selection.isSome_set?_outline, has]
    rfl
  | across found chosen known =>
    rw [there] at found
    cases found
    have spread := done _ _ (by rw [SelectionSet.getElem?_outlines, chosen, Option.map_some])
    exact spread.across _ rfl known

theorem Settled.reports (settled : Settled document progress place) {use : Spread}
    (has : progress.store.Has ⟨place, index, use⟩)
    (missing : ¬progress.store.HasFragment use.name) : Reports document progress place use := by
  obtain ⟨set, there, done⟩ := settled
  obtain ⟨again, found, chosen⟩ := has
  rw [there] at found
  cases found
  have spread := done _ _ (by rw [SelectionSet.getElem?_outlines, chosen, Option.map_some])
  exact spread.unknown _ rfl missing

end Walk

def Progress.recorded {σ : Type} (progress : Progress σ) (record : List Visit) :
    Progress (σ × List Visit) :=
  ⟨progress.store, (progress.memory, record), progress.diagnostics, progress.fault⟩

namespace Walk

variable {σ : Type} {store : Store}

/-- Whatever a visitor appends, a walk that ends has visited every set that its document leads to in
the end, and has reported every spread in these sets that names no fragment. -/
theorem document_covers (schema : Schema) (visitor : Visitor σ) {key : String} {document : Document}
    {type : NamedType} {depth : Nat} {memory : σ} {walk : Progress σ}
    (found : store.get? key = some document) (typed : document.rootType? schema = some type)
    (walks : Walk.document schema visitor depth key ⟨store, memory, [], none⟩ = walk)
    (ends : walk.fault = none) :
    ∃ record, Walk.document schema visitor.recording depth key ⟨store, (memory, []), [], none⟩ =
        walk.recorded record ∧
      (∀ name, walk.store.HasFragment name ↔ store.HasFragment name) ∧
      ∀ place, ReflTransGen walk.store.Opens ⟨key, []⟩ place →
        (∃ visit ∈ record, visit.scope.place = place) ∧
        ∀ index use, walk.store.Has ⟨place, index, use⟩ → ¬store.HasFragment use.name →
          ∃ visit ∈ record, visit.scope.place = place ∧
            ∃ report ∈ walk.diagnostics, report.isFatal = true ∧
              report.issue = .unknownFragment use.name ∧ report.document = document.name ∧
              report.location = ⟨visit.scope.path ++ ["..." ++ use.name], use.position⟩ := by
  obtain ⟨last, result⟩ : ∃ last, Walk.document schema visitor.recording depth key
      ⟨store, (memory, []), [], none⟩ = last := ⟨_, rfl⟩
  have same : last.unrecorded = walk := by
    rw [← result, unrecorded_document, ← walks]
    rfl
  subst same
  have entered : into schema visitor.recording document.name depth (root key type)
      ⟨store, (memory, []), [], none⟩ = last := by
    rw [← result, Walk.document, found]
    simp only [start?_eq, typed]
  have ready : Ready (⟨store, (memory, []), [], none⟩ : Progress (σ × List Visit))
      (root key type) := by
    refine ⟨?_, fun name isOpen => by cases isOpen⟩
    rw [root, Store.set?_root, found]
    rfl
  obtain ⟨onward, start⟩ := proceeds schema visitor document.name depth _ _ last ready entered ends
  have settled : ∀ place, Visits last place → Settled document.name last place := by
    intro place visited
    rcases onward.settled place visited with ⟨visit, member, _⟩ | done
    · cases member
    · exact done
  refine ⟨last.memory.2, result, onward.fragments, fun place leads => ?_⟩
  have visited : Visits last place := by
    induction leads with
    | refl => exact start
    | tail _ opens ih => exact (settled _ ih).visits opens
  refine ⟨visited, fun index use has missing => ?_⟩
  obtain ⟨visit, member, here, given⟩ :=
    (settled place visited).reports has (mt (onward.fragments _).1 missing)
  exact ⟨visit, member, here, _, given, rfl, rfl, rfl, rfl⟩

end Walk

/-- Puts a field with spreads of its own at the end of the first set. -/
def Sample.nesting : Visitor Nat := fun _ count =>
  (if count = 0 then [.branch (.bare "node") none
      [.spread ⟨"Info", [], none⟩, .spread ⟨"Lost", [], none⟩]] else [], count + 1)

def Sample.nested : Progress Nat :=
  Walk.document Sample.schema Sample.nesting Sample.store.walkDepth "Page"
    ⟨Sample.store, 0, [], none⟩

theorem Walk.document_covers_nested :
    Sample.nested.fault = none ∧
    ∃ record, Walk.document Sample.schema Sample.nesting.recording Sample.store.walkDepth "Page"
        ⟨Sample.store, (0, []), [], none⟩ = Sample.nested.recorded record ∧
      (∃ visit ∈ record, visit.scope.place = ⟨"Page", [1]⟩) ∧
      ∃ report ∈ Sample.nested.diagnostics, report.isFatal = true ∧
        report.issue = .unknownFragment "Lost" := by
  have found : Sample.store.get? "Page" = some Sample.page := rfl
  obtain ⟨type, typed⟩ : ∃ type, Sample.page.rootType? Sample.schema = some type := ⟨_, rfl⟩
  have ends : Sample.nested.fault = none := rfl
  obtain ⟨record, same, _, covers⟩ :=
    document_covers Sample.schema Sample.nesting found typed rfl ends
  have opens : Sample.nested.store.Opens ⟨"Page", []⟩ ⟨"Page", [1]⟩ := .inside rfl rfl rfl
  obtain ⟨visited, reported⟩ := covers _ (.single opens)
  have has : Sample.nested.store.Has ⟨⟨"Page", [1]⟩, 1, ⟨"Lost", [], none⟩⟩ := ⟨_, rfl, rfl⟩
  have missing : ¬Sample.store.HasFragment "Lost" := by
    rintro ⟨document, found, _⟩
    cases found
  obtain ⟨_, _, _, report, given, fatal, issue, _⟩ := reported _ _ has missing
  exact ⟨ends, record, same, visited, report, given, fatal, issue⟩

end DocumentNormalizer
