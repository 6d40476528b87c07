import DocumentNormalizer.Proofs.Astray
import DocumentNormalizer.Proofs.Coverage

namespace DocumentNormalizer

open Relation (TransGen)

namespace Store

/-- A cycle of fragments: each spreads the next one, and none comes twice but the first, which is
also the last. -/
structure IsRing (store : Store) (cycle : List String) : Prop where
  chain : cycle.IsChain store.Embeds
  closed : ∃ name between, cycle = name :: between ++ [name] ∧ (name :: between).Nodup

/-- A way along spreads from a document, through distinct fragments and back to one of them. -/
structure IsDetour (store : Store) (key : String) (names : List String) : Prop where
  chain : (key :: names).IsChain store.LeadsTo
  back : ∃ front name, names = front ++ [name] ∧ front.Nodup ∧ name ∈ front

/-- Spreads are kept, and so are the names of the fragments. -/
structure Keeps (store later : Store) : Prop where
  has : ∀ occurrence, store.Has occurrence → later.Has occurrence
  fragments : ∀ name, store.HasFragment name → later.HasFragment name

variable {store later : Store} {key name : String} {names : List String}

theorem Keeps.leadsTo (keeps : store.Keeps later) (leads : store.LeadsTo key name) :
    later.LeadsTo key name := by
  obtain ⟨⟨occurrence, has, here, named⟩, fragment⟩ := leads
  exact ⟨⟨occurrence, keeps.has _ has, here, named⟩, keeps.fragments name fragment⟩

theorem Keeps.isDetour (keeps : store.Keeps later) (detour : store.IsDetour key names) :
    later.IsDetour key names where
  chain := detour.chain.imp fun _ _ leads => keeps.leadsTo leads
  back := detour.back

theorem hasFragment_of_isChain (chain : (key :: names).IsChain store.LeadsTo) :
    ∀ name ∈ names, store.HasFragment name := by
  induction names generalizing key with
  | nil => intro name member; cases member
  | cons first rest ih =>
    obtain ⟨leads, others⟩ := List.isChain_cons_cons.1 chain
    intro name member
    rcases List.mem_cons.1 member with rfl | later
    · exact leads.2
    · exact ih others name later

theorem isChain_embeds (chain : (key :: names).IsChain store.LeadsTo) :
    names.IsChain store.Embeds := by
  induction names generalizing key with
  | nil => exact .nil
  | cons first rest ih =>
    -- What a way comes to is a fragment, so what it leads to next is embedded there.
    obtain ⟨leads, others⟩ := List.isChain_cons_cons.1 chain
    cases rest with
    | nil => exact .singleton first
    | cons second rest =>
      have next := (List.isChain_cons_cons.1 others).1
      exact .cons_cons ⟨leads.2, next.1⟩ (ih others)

/-- A detour ends with a cycle, and it is one if it starts where it comes back to. -/
theorem IsDetour.exists_isRing (detour : store.IsDetour key names) :
    ∃ front name between, names = front ++ (name :: between ++ [name]) ∧
      store.IsRing (name :: between ++ [name]) ∧ (store.IsRing names ↔ front = []) := by
  obtain ⟨way, name, rfl, nodup, onWay⟩ := detour.back
  obtain ⟨front, between, rfl⟩ := List.append_of_mem onWay
  have chain := isChain_embeds detour.chain
  rw [List.append_assoc] at chain ⊢
  have ring : store.IsRing (name :: between ++ [name]) :=
    ⟨chain.right_of_append, name, between, rfl, nodup.of_append_right⟩
  refine ⟨front, name, between, rfl, ring, ?_⟩
  constructor
  · rintro ⟨_, first, rest, same, _⟩
    rw [← List.append_assoc] at same
    obtain ⟨whole, last⟩ := List.append_inj' same rfl
    cases last
    cases front with
    | nil => rfl
    | cons other front =>
      -- The name would come twice on the way.
      obtain ⟨rfl, _⟩ := List.cons_eq_cons.1 whole
      exact absurd (List.mem_append_right front List.mem_cons_self) (List.nodup_cons.1 nodup).1
  · rintro rfl
    exact ring

theorem has_iff {place : Place} {index : Nat} {use : Spread} :
    store.Has ⟨place, index, use⟩ ↔
      ∃ set, store.set? place = some set ∧ set.outlines[index]? = some (.spread use) := by
  refine exists_congr fun set => and_congr_right fun _ => ?_
  rw [SelectionSet.getElem?_outlines]
  constructor
  · intro chosen
    rw [chosen]
    rfl
  · intro chosen
    obtain ⟨selection, found, same⟩ := Option.map_eq_some_iff.1 chosen
    cases selection with
    | spread other => rwa [← same]
    | leaf => cases same
    | branch => cases same
    | inline => cases same

theorem has_of_isPrefix {set more : SelectionSet} {occurrence : Occurrence}
    (has : store.Has occurrence) (before : store.set? occurrence.place = some set)
    (after : later.set? occurrence.place = some more) (longer : set.outlines <+: more.outlines) :
    later.Has occurrence := by
  obtain ⟨again, there, chosen⟩ := has_iff.1 has
  cases there.symm.trans before
  obtain ⟨inside, _⟩ := List.getElem?_eq_some_iff.1 chosen
  obtain ⟨rest, whole⟩ := longer
  rw [← List.getElem?_append_left inside, whole] at chosen
  exact has_iff.2 ⟨more, after, chosen⟩

@[simp]
theorem spreads_grow (growth : Growth) : (store.grow growth).Spreads = store.Spreads := by
  funext name next
  simp only [Spreads, get?_grow, Option.map_eq_some_iff, exists_exists_and_eq_and,
    Document.spreads_grow]
  rfl

theorem keeps_append (place : Place) (added : List Selection) :
    store.Keeps (store.append place added) where
  has occurrence has := by
    obtain ⟨set, there, _⟩ := id has
    obtain ⟨more, still, whole⟩ := set?_append place added there
    exact has_of_isPrefix has there still (whole ▸ List.prefix_append _ _)
  fragments name := (hasFragment_append place added name).2

end Store

namespace Walk

variable {σ : Type} {schema : Schema} {visitor : Visitor σ} {document key : String} {depth : Nat}
  {scope next : Scope} {index : Nat} {selection : Selection} {step : Step}
  {progress later : Progress (σ × List Visit)} {store : Store} {outlines : List Selection}

theorem Onward.keeps (onward : Onward document progress later) :
    progress.store.Keeps later.store where
  has occurrence has := by
    obtain ⟨set, there, _⟩ := id has
    obtain ⟨more, still, longer, _⟩ := onward.grown _ _ there
    exact Store.has_of_isPrefix has there still longer
  fragments name := (onward.fragments name).2

/-- Spreads have led a walk from its document along the open fragments, to the one it is in. -/
structure Threads (key : String) (store : Store) (scope : Scope) : Prop where
  nodup : scope.openFragments.Nodup
  chain : (key :: scope.openFragments).IsChain store.LeadsTo
  last : scope.place.key = (key :: scope.openFragments).getLast (List.cons_ne_nil _ _)

theorem threads_root (key : String) (type : NamedType) (store : Store) :
    Threads key store (root key type) :=
  ⟨List.nodup_nil, .singleton key, rfl⟩

theorem Threads.keeps {later : Store} (threads : Threads key store scope)
    (keeps : store.Keeps later) : Threads key later scope where
  nodup := threads.nodup
  chain := threads.chain.imp fun _ _ leads => keeps.leadsTo leads
  last := threads.last

theorem Threads.inside (threads : Threads key store scope) (place : next.place = below scope index)
    (same : next.openFragments = scope.openFragments) : Threads key store next := by
  constructor
  · rw [same]
    exact threads.nodup
  · rw [same]
    exact threads.chain
  · simp only [same, place, below, threads.last]

variable {use : Spread}

theorem Threads.concat (threads : Threads key store scope)
    (has : store.Has ⟨scope.place, index, use⟩) (known : store.HasFragment use.name) :
    (key :: (scope.openFragments ++ [use.name])).IsChain store.LeadsTo := by
  rw [← List.cons_append]
  apply threads.chain.append (.singleton _)
  intro last isLast first isFirst
  rw [List.getLast?_eq_some_getLast (List.cons_ne_nil _ _), ← threads.last] at isLast
  cases isLast
  cases isFirst
  exact ⟨⟨_, has, rfl, rfl⟩, known⟩

theorem Threads.across (threads : Threads key store scope)
    (has : store.Has ⟨scope.place, index, use⟩) (known : store.HasFragment use.name)
    (fresh : use.name ∉ scope.openFragments) (place : next.place = ⟨use.name, []⟩)
    (more : next.openFragments = scope.openFragments ++ [use.name]) : Threads key store next := by
  constructor
  · rw [more]
    simpa using threads.nodup.concat fresh
  · rw [more]
    exact threads.concat has known
  · simp [more, place]

theorem Threads.isDetour (threads : Threads key store scope)
    (has : store.Has ⟨scope.place, index, use⟩) (isOpen : use.name ∈ scope.openFragments) :
    store.IsDetour key (scope.openFragments ++ [use.name]) where
  chain := threads.concat has (Store.hasFragment_of_isChain threads.chain _ isOpen)
  back := ⟨_, _, rfl, threads.nodup, isOpen⟩

/-- All cycles among some reports are detours. -/
def TellsDetours (key : String) (store : Store) (reports : List Diagnostic) : Prop :=
  ∀ report ∈ reports, ∀ names, report.issue = .fragmentCycle names → store.IsDetour key names

theorem tellsDetours_of_advisory {reports : List Diagnostic}
    (advisory : ∀ report ∈ reports, report.isFatal = false) : TellsDetours key store reports := by
  intro report member names cycle
  have fatal : report.isFatal = true := by
    rw [Diagnostic.isFatal, Diagnostic.severity, cycle]
    rfl
  rw [advisory report member] at fatal
  cases fatal

theorem Amid.has (amid : Amid progress scope outlines)
    (chosen : outlines[index]? = some (.spread use)) :
    progress.store.Has ⟨scope.place, index, use⟩ := by
  obtain ⟨set, there, rest, whole⟩ := amid.found
  obtain ⟨inside, _⟩ := List.getElem?_eq_some_iff.1 chosen
  rw [← List.getElem?_append_left inside, whole] at chosen
  exact Store.has_iff.2 ⟨set, there, chosen⟩

/-- Cycles that a step tells of are detours, and the step takes the way on. -/
structure Proper (key : String) (progress : Progress (σ × List Visit)) (step : Step) : Prop where
  tells : TellsDetours key progress.store step.reports
  leads : ∀ next, step.next = some next → Ready progress next ∧ Threads key progress.store next

section Follow

variable (amid : Amid progress scope outlines) (threads : Threads key progress.store scope)

include amid threads

theorem proper_inside (chosen : outlines[index]? = some selection.outline)
    (nested : selection.set?.isSome = true)
    (advisory : ∀ report ∈ step.reports, report.isFatal = false) (leads : step.next = some next)
    (place : next.place = below scope index) (same : next.openFragments = scope.openFragments) :
    Proper key progress step where
  tells := tellsDetours_of_advisory advisory
  leads := by
    intro other further
    cases leads.symm.trans further
    exact ⟨amid.ready_inside chosen nested place same, threads.inside place same⟩

theorem proper_across (has : progress.store.Has ⟨scope.place, index, use⟩)
    (fresh : use.name ∉ scope.openFragments) (known : progress.store.HasFragment use.name)
    (advisory : ∀ report ∈ step.reports, report.isFatal = false) (leads : step.next = some next)
    (place : next.place = ⟨use.name, []⟩)
    (more : next.openFragments = scope.openFragments ++ [use.name]) :
    Proper key progress step where
  tells := tellsDetours_of_advisory advisory
  leads := by
    intro other further
    cases leads.symm.trans further
    exact ⟨amid.ready_across known place more, threads.across has known fresh place more⟩

theorem proper_spread (chosen : outlines[index]? = some (.spread use))
    (follows : followSpread schema progress.store document scope use = .ok step) :
    Proper key progress step := by
  have has := amid.has chosen
  rw [followSpread] at follows
  by_cases isOpen : use.name ∈ scope.openFragments
  · simp only [List.contains_iff_mem, isOpen, if_true, Except.ok.injEq] at follows
    subst follows
    refine ⟨fun report member names cycle => ?_, fun next further => by cases further⟩
    cases List.mem_singleton.1 member
    cases cycle
    exact threads.isDetour has isOpen
  · simp only [List.contains_iff_mem, isOpen, if_false] at follows
    cases found : progress.store.fragment? use.name with
    | error fault => simp [found] at follows
    | ok condition? =>
      cases condition? with
      | none =>
        simp only [found, Except.ok.injEq] at follows
        subst follows
        refine ⟨fun report member names cycle => ?_, fun next further => by cases further⟩
        cases List.mem_singleton.1 member
        cases cycle
      | some condition =>
        have known := Store.hasFragment_of_fragment? found
        cases typed : schema.type? condition with
        | none =>
          simp only [found, typed, Except.ok.injEq] at follows
          subst follows
          refine proper_across amid threads has isOpen known ?_ rfl rfl rfl
          exact List.forall_mem_singleton.2 rfl
        | some type =>
          simp only [found, typed, Except.ok.injEq] at follows
          subst follows
          exact proper_across amid threads has isOpen known (List.forall_mem_nil _) rfl rfl rfl

theorem proper_follow (chosen : outlines[index]? = some selection.outline)
    (follows : follow schema progress.store document scope index selection = .ok step) :
    Proper key progress step := by
  cases selection with
  | leaf field =>
    cases follows
    exact ⟨fun _ member => (nomatch member), fun _ further => (nomatch further)⟩
  | branch field position selections =>
    cases follows
    exact proper_inside amid threads chosen rfl (advisory_followField field)
      (next_followField field) rfl rfl
  | inline fragment position selections =>
    cases follows
    exact proper_inside amid threads chosen rfl (advisory_followInline fragment)
      (next_followInline fragment) rfl rfl
  | spread use => exact proper_spread amid threads chosen follows

end Follow

theorem TellsDetours.keeps {later : Store} {reports : List Diagnostic}
    (tells : TellsDetours key store reports) (keeps : store.Keeps later) :
    TellsDetours key later reports :=
  fun report member names cycle => keeps.isDetour (tells report member names cycle)

theorem TellsDetours.append {reports more : List Diagnostic}
    (tells : TellsDetours key store reports) (others : TellsDetours key store more) :
    TellsDetours key store (reports ++ more) :=
  fun report member names cycle => (List.mem_append.1 member).elim
    (fun before => tells report before names cycle) fun now => others report now names cycle

/-- From every scope that a walk is ready for and has come to along spreads, it tells of nothing but
detours. -/
def TellsTruly (schema : Schema) (visitor : Visitor σ) (document key : String) (depth : Nat) :
    Prop :=
  ∀ scope progress later, Ready progress scope → Threads key progress.store scope →
    TellsDetours key progress.store progress.diagnostics →
    into schema visitor.recording document depth scope progress = later → later.fault = none →
      TellsDetours key later.store later.diagnostics

section Selections

variable (stays : TellsTruly schema visitor document key depth)
  (amid : Amid progress scope outlines) (threads : Threads key progress.store scope)
  (tells : TellsDetours key progress.store progress.diagnostics)

include stays amid threads tells

theorem tells_enter
    (entered : enter schema visitor.recording document depth scope progress (selection, index) =
      later)
    (ends : later.fault = none) (chosen : outlines[index]? = some selection.outline) :
    TellsDetours key later.store later.diagnostics := by
  obtain ⟨sound, step, follows⟩ := exists_step entered ends
  have proper := proper_follow amid threads chosen follows
  have reported := tells.append proper.tells
  cases further : step.next with
  | none =>
    rw [enter_of_next_eq_none sound follows further] at entered
    subst entered
    exact reported
  | some next =>
    rw [enter_of_next_eq_some sound follows further] at entered
    obtain ⟨ready, leads⟩ := proper.leads next further
    have still : Ready { progress with diagnostics := progress.diagnostics ++ step.reports } next :=
      ⟨ready.found, ready.opened⟩
    exact stays next _ later still leads reported entered ends

theorem tells_foldl {items : List (Selection × Nat)}
    (listed : ∀ item ∈ items, outlines[item.2]? = some item.1.outline)
    (walked : items.foldl (enter schema visitor.recording document depth scope) progress = later)
    (ends : later.fault = none) : TellsDetours key later.store later.diagnostics := by
  induction items generalizing progress with
  | nil =>
    cases walked
    exact tells
  | cons first rest ih =>
    rw [List.foldl_cons] at walked
    have sound : (enter schema visitor.recording document depth scope progress first).fault =
        none := by
      rw [← walked] at ends
      exact fault_of_foldl_enter ends
    have chosen := listed first List.mem_cons_self
    obtain ⟨onward, _⟩ :=
      proceeds_enter (proceeds schema visitor document depth) amid sound rfl chosen
    have told := tells_enter stays amid threads tells rfl sound chosen
    exact ih (amid.onward onward) (threads.keeps onward.keeps) told
      (fun item member => listed item (List.mem_cons_of_mem _ member)) walked

end Selections

theorem tellsTruly (schema : Schema) (visitor : Visitor σ) (document key : String) (depth : Nat) :
    TellsTruly schema visitor document key depth := by
  induction depth with
  | zero =>
    intro scope progress later _ _ _ walked ends
    subst walked
    cases ends
  | succ depth ih =>
    intro scope progress later ready threads tells walked ends
    rw [into_succ] at walked
    have amid : Amid (attend visitor.recording progress (.visit document scope)) scope
        ((taken visitor document scope progress).map Selection.outline) := ready.amid
    have keeps : progress.store.Keeps
        (attend visitor.recording progress (.visit document scope)).store :=
      Store.keeps_append _ _
    exact tells_foldl ih amid (threads.keeps keeps) (tells.keeps keeps)
      (fun _ member => outline_of_mem_zipIdx member) walked ends

theorem advisory_skipped (document : Document) :
    (Diagnostic.unsigned (skipped document) document.name document.location).isFatal = false := by
  rw [skipped]
  cases document.kind <;> rfl

variable {memory : σ} {walk : Progress σ}

theorem tellsDetours_document
    (walks : Walk.document schema visitor depth key ⟨store, memory, [], none⟩ = walk)
    (ends : walk.fault = none) : TellsDetours key walk.store walk.diagnostics := by
  obtain ⟨last, result⟩ : ∃ last, Walk.document schema visitor.recording depth key
      ⟨store, (memory, []), [], none⟩ = last := ⟨_, rfl⟩
  have same : last.unrecorded = walk := by
    rw [← result, unrecorded_document, ← walks]
    rfl
  subst same
  rw [Walk.document] at result
  cases found : store.get? key with
  | none =>
    simp only [found] at result
    subst result
    exact List.forall_mem_nil _
  | some document =>
    simp only [found, start?_eq] at result
    cases typed : document.rootType? schema with
    | none =>
      simp only [typed, List.nil_append] at result
      subst result
      exact tellsDetours_of_advisory (List.forall_mem_singleton.2 (advisory_skipped document))
    | some type =>
      simp only [typed] at result
      have ready : Ready (⟨store, (memory, []), [], none⟩ : Progress (σ × List Visit))
          (root key type) := by
        refine ⟨?_, fun name isOpen => by cases isOpen⟩
        rw [root, Store.set?_root, found]
        rfl
      exact tellsTruly schema visitor document.name key depth _ _ last ready
        (threads_root key type store) (List.forall_mem_nil _) result ends

theorem embeds_document (collected : store.IsCollected) (leaves : visitor.AppendsLeaves)
    (walks : Walk.document schema visitor depth key ⟨store, memory, [], none⟩ = walk)
    (ends : walk.fault = none) : walk.store.Embeds = store.Embeds := by
  have deeper : Walk.document schema visitor (max depth store.walkDepth) key
      ⟨store, memory, [], none⟩ = walk := by
    rw [document_of_le (le_max_left _ _) (walks ▸ ends), walks]
  obtain ⟨_, same, _⟩ := document_ends schema collected leaves key memory
  rw [same _ (le_max_right _ _), trace_eq_foldl collected leaves] at deeper
  subst deeper
  have grown : Grown store ((documentEvents schema store key).foldl (attend visitor.recording)
      ⟨store, (memory, []), [], none⟩) := (Grown.start store _).foldl leaves.recording _
  obtain ⟨growth, same⟩ := grown.growth
  rw [Progress.unrecorded, same, Store.embeds_eq_spreads, Store.embeds_eq_spreads,
    Store.spreads_grow]

end Walk

namespace Validation

variable {schema : Schema} {store : Store}

theorem isRing_of_mem_findings (collected : store.IsCollected) {report : Diagnostic}
    {names : List String} (member : report ∈ findings schema store)
    (cycle : report.issue = .fragmentCycle names) : store.IsRing names := by
  have among : report ∈ (findings schema store).filter (·.issue.isFragmentCycle) := by
    apply List.mem_filter.2
    rw [cycle]
    exact ⟨member, rfl⟩
  rw [filter_cycle_findings] at among
  obtain ⟨found, listed, rfl⟩ := List.mem_map.1 among
  cases cycle
  obtain ⟨chain, closed⟩ := Dependencies.isCycle_of_mem_cycles listed
  exact ⟨needs_eq_embeds collected ▸ chain, closed⟩

end Validation

namespace Walk

variable {σ : Type} {store : Store} {visitor : Visitor σ} {key : String} {depth : Nat} {memory : σ}
  {walk : Progress σ}

/-- A cycle that a walk reports is the way from its document along spreads to a cycle, and once
around it. It is the cycle itself exactly if the way starts on it. Unless the visitor appends
spreads, they are those of the documents as collected. What validation reports are cycles. -/
theorem document_detours (schema : Schema) (collected : store.IsCollected)
    (walks : Walk.document schema visitor depth key ⟨store, memory, [], none⟩ = walk)
    (ends : walk.fault = none) :
    (∀ report ∈ walk.diagnostics, ∀ names, report.issue = .fragmentCycle names →
      (key :: names).IsChain walk.store.LeadsTo ∧
      ∃ front name between, names = front ++ (name :: between ++ [name]) ∧
        walk.store.IsRing (name :: between ++ [name]) ∧
        (walk.store.IsRing names ↔ front = [])) ∧
    (visitor.AppendsLeaves → walk.store.Embeds = store.Embeds) ∧
    ∃ reports, Pass.validateDocuments.run schema store = ⟨store, .ok reports⟩ ∧
      ∀ report ∈ reports, ∀ names, report.issue = .fragmentCycle names → store.IsRing names := by
  refine ⟨fun report member names cycle => ?_, fun leaves => ?_, _,
    Validation.run_eq schema collected, fun report member names cycle => ?_⟩
  · have detour := tellsDetours_document walks ends report member names cycle
    exact ⟨detour.chain, detour.exists_isRing⟩
  · exact embeds_document collected leaves walks ends
  · exact Validation.isRing_of_mem_findings collected member cycle

end Walk

namespace Sample

def lead : Document where
  name := "Info"
  kind := .fragment
  definition := ⟨none, .fragment "Info" "Node", [], none, ⟨none, [.spread ⟨"Loop", [], none⟩]⟩⟩
  sourceFile := "info.graphql"

def loop : Document where
  name := "Loop"
  kind := .fragment
  definition := ⟨none, .fragment "Loop" "Node", [], none, ⟨none, [.spread ⟨"Loop", [], none⟩]⟩⟩
  sourceFile := "loop.graphql"

def noose : Store := ⟨[⟨"Page", page⟩, ⟨"Info", lead⟩, ⟨"Loop", loop⟩], by decide⟩

theorem isCollected_noose : noose.IsCollected :=
  Store.isCollected_of_entries
    (List.forall_mem_cons.2 ⟨isCollected_page, List.forall_mem_cons.2
      ⟨⟨lead.sourceFile, lead.definition, rfl⟩,
        List.forall_mem_singleton.2 ⟨loop.sourceFile, loop.definition, rfl⟩⟩⟩) rfl

def caught : Progress Unit :=
  Walk.document schema Typename.visitor noose.walkDepth "Page" ⟨noose, (), [], none⟩

end Sample

namespace Walk

theorem document_detours_noose :
    Sample.caught.fault = none ∧
    ∃ report ∈ Sample.caught.diagnostics, report.issue = .fragmentCycle ["Info", "Loop", "Loop"] ∧
      ∃ front name between, ["Info", "Loop", "Loop"] = front ++ (name :: between ++ [name]) ∧
        Sample.noose.IsRing (name :: between ++ [name]) := by
  have ends : Sample.caught.fault = none := rfl
  have detours := document_detours Sample.schema Sample.isCollected_noose rfl ends
  refine ⟨ends, _, List.mem_cons_self, rfl, ?_⟩
  obtain ⟨_, front, name, between, same, ⟨chain, closed⟩, _⟩ :=
    detours.1 _ List.mem_cons_self _ rfl
  rw [detours.2.1 Typename.completes.appendsLeaves] at chain
  exact ⟨front, name, between, same, chain, closed⟩

theorem document_noose :
    Sample.noose.IsCollected ∧ Sample.caught.fault = none ∧
    Sample.caught.diagnostics.map (·.issue) = [.fragmentCycle ["Info", "Loop", "Loop"]] ∧
    ¬Sample.noose.IsRing ["Info", "Loop", "Loop"] ∧
    ∃ reports, Pass.validateDocuments.run Sample.schema Sample.noose =
        ⟨Sample.noose, .ok reports⟩ ∧
      reports.map (·.issue) = [.fragmentCycle ["Loop", "Loop"]] := by
  refine ⟨Sample.isCollected_noose, rfl, rfl, ?_, _, rfl, rfl⟩
  rintro ⟨_, name, between, same, _⟩
  obtain ⟨rfl, rest⟩ := List.cons_eq_cons.1 same
  have last := congrArg List.getLast? rest
  simp at last

end Walk

end DocumentNormalizer
