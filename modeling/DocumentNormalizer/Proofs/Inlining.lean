import DocumentNormalizer.Proofs.Safety
import DocumentNormalizer.Proofs.Spots
import DocumentNormalizer.Proofs.Verdict

namespace DocumentNormalizer

open Relation (ReflTransGen TransGen)

namespace Selection

mutual

def substitute (f : Spread → Selection) : Selection → Selection
  | .leaf field => .leaf field
  | .branch field position selections => .branch field position (substituteAll f selections)
  | .inline fragment position selections => .inline fragment position (substituteAll f selections)
  | .spread use => f use

def substituteAll (f : Spread → Selection) : List Selection → List Selection
  | [] => []
  | head :: rest => head.substitute f :: substituteAll f rest

end

variable {f g : Spread → Selection}

theorem substituteAll_eq_map (f : Spread → Selection) (selections : List Selection) :
    substituteAll f selections = selections.map (substitute f) := by
  induction selections with
  | nil => rfl
  | cons head rest ih => rw [substituteAll, ih, List.map_cons]

mutual

theorem substitute_congr (selection : Selection)
    (same : ∀ use ∈ selection.spreads, f use = g use) :
    selection.substitute f = selection.substitute g := by
  cases selection with
  | leaf => rfl
  | branch field position selections => rw [substitute, substituteAll_congr selections same]; rfl
  | inline fragment position selections =>
    rw [substitute, substituteAll_congr selections same]
    rfl
  | spread use => exact same use (List.mem_singleton_self use)

theorem substituteAll_congr (selections : List Selection)
    (same : ∀ use ∈ spreadsOfAll selections, f use = g use) :
    substituteAll f selections = substituteAll g selections := by
  cases selections with
  | nil => rfl
  | cons head rest =>
    rw [spreadsOfAll] at same
    rw [substituteAll, substituteAll,
      substitute_congr head fun use member => same use (List.mem_append_left _ member),
      substituteAll_congr rest fun use member => same use (List.mem_append_right _ member)]

end

mutual

theorem spreads_substitute (f : Spread → Selection) (selection : Selection) :
    (selection.substitute f).spreads = selection.spreads.flatMap fun use => (f use).spreads := by
  cases selection with
  | leaf => rfl
  | branch field position selections => exact spreadsOfAll_substituteAll f selections
  | inline fragment position selections => exact spreadsOfAll_substituteAll f selections
  | spread use => exact (List.append_nil _).symm

theorem spreadsOfAll_substituteAll (f : Spread → Selection) (selections : List Selection) :
    spreadsOfAll (substituteAll f selections) =
      (spreadsOfAll selections).flatMap fun use => (f use).spreads := by
  cases selections with
  | nil => rfl
  | cons head rest =>
    rw [substituteAll, spreadsOfAll, spreads_substitute, spreadsOfAll_substituteAll, spreadsOfAll,
      List.flatMap_append]

end

end Selection

def SelectionSet.substitute (f : Spread → Selection) (set : SelectionSet) : SelectionSet :=
  ⟨set.position, Selection.substituteAll f set.selections⟩

def Document.substitute (f : Spread → Selection) (document : Document) : Document :=
  { document with
    definition :=
      { document.definition with
        selectionSet := document.definition.selectionSet.substitute f } }

theorem SelectionSet.getElem?_substitute (f : Spread → Selection) (set : SelectionSet)
    (index : Nat) :
    (set.substitute f).selections[index]? =
      set.selections[index]?.map (Selection.substitute f) := by
  rw [substitute, Selection.substituteAll_eq_map, List.getElem?_map]

theorem Document.IsCollected.substitute {document : Document} (h : document.IsCollected)
    (f : Spread → Selection) : (document.substitute f).IsCollected := by
  obtain ⟨sourceFile, definition, made⟩ := h
  refine ⟨sourceFile,
    { definition with selectionSet := definition.selectionSet.substitute f }, ?_⟩
  obtain ⟨description, heading, directives, position, set⟩ := definition
  cases heading with
  | operation kind name declared =>
    cases name with
    | none => cases made
    | some name => cases made; rfl
  | fragment name condition => cases made; rfl

namespace Store

def substitute (f : Spread → Selection) (store : Store) : Store :=
  store.mapDocuments fun _ document => document.substitute f

/-- What a spread stands for: an inline fragment with the selections of the fragment that it names,
and these with the same done to them, as often as the depth allows. -/
def expansion (store : Store) : (depth : Nat) → Spread → Selection
  | 0, use => .spread use
  | depth + 1, use =>
    match store.get? use.name with
    | none => .spread use
    | some document =>
      match document.definition.typeCondition with
      | none => .spread use
      | some condition =>
        .inline ⟨some condition, use.directives, use.position⟩
          document.definition.selectionSet.position
          (Selection.substituteAll (store.expansion depth)
            document.definition.selectionSet.selections)

/-- The inline fragment that a spread stands for, without spreads. No fragment is in itself, so
there are at most as many inside each other as there are documents. -/
def inline (store : Store) (use : Spread) : Selection := store.expansion store.entries.length use

/-- The documents without spreads. -/
def inlined (store : Store) : Store := store.substitute store.inline

/-- Every spread names a fragment, and no fragment contains itself. -/
structure IsFinite (store : Store) : Prop where
  resolved : ∀ document ∈ store.documents, ∀ use ∈ document.spreads,
    (store.condition? use.name).isSome = true
  acyclic : ∀ name, ¬TransGen store.Spreads name name

inductive Ends (store : Store) : (depth : Nat) → Spread → Prop
  | intro {depth : Nat} {use : Spread} {document : Document} {condition : String}
    (found : store.get? use.name = some document)
    (typed : document.definition.typeCondition = some condition)
    (inside : ∀ inner ∈ document.spreads, Ends store depth inner) : Ends store (depth + 1) use

variable {store : Store}

theorem get?_substitute (f : Spread → Selection) (store : Store) (key : String) :
    (store.substitute f).get? key = (store.get? key).map (Document.substitute f) :=
  get?_mapDocuments store _ key

theorem IsCollected.substitute (h : store.IsCollected) (f : Spread → Selection) :
    (store.substitute f).IsCollected := by
  constructor
  · intro entry member
    obtain ⟨old, before, rfl⟩ := List.mem_map.1 member
    exact h.named old before
  · intro entry member
    obtain ⟨old, before, rfl⟩ := List.mem_map.1 member
    exact (h.collected old before).substitute f

theorem IsCollected.inlined (h : store.IsCollected) : store.inlined.IsCollected :=
  h.substitute store.inline

theorem expansion_succ {depth : Nat} {use : Spread} {document : Document} {condition : String}
    (found : store.get? use.name = some document)
    (typed : document.definition.typeCondition = some condition) :
    store.expansion (depth + 1) use =
      .inline ⟨some condition, use.directives, use.position⟩
        document.definition.selectionSet.position
        (Selection.substituteAll (store.expansion depth)
          document.definition.selectionSet.selections) := by
  simp only [expansion, found, typed]

theorem Ends.expansion_succ {depth : Nat} {use : Spread} (ends : store.Ends depth use) :
    store.expansion (depth + 1) use = store.expansion depth use := by
  induction ends with
  | intro found typed inside ih =>
    rw [Store.expansion_succ found typed, Store.expansion_succ found typed,
      Selection.substituteAll_congr _ ih]

theorem Ends.spreads_expansion {depth : Nat} {use : Spread} (ends : store.Ends depth use) :
    (store.expansion depth use).spreads = [] := by
  induction ends with
  | intro found typed inside ih =>
    rw [Store.expansion_succ found typed, Selection.spreads,
      Selection.spreadsOfAll_substituteAll]
    exact List.flatMap_eq_nil_iff.2 ih

/-- Every spread ends: the fragments on the way to it are distinct, so their number is bounded. -/
theorem IsFinite.ends_of_opened (finite : store.IsFinite) (collected : store.IsCollected)
    {depth : Nat} {use : Spread} {opened : List String} (nodup : opened.Nodup)
    (within : opened ⊆ store.keys) (leads : ∀ name ∈ opened, TransGen store.Spreads name use.name)
    (known : (store.condition? use.name).isSome = true)
    (enough : store.entries.length ≤ opened.length + depth) : store.Ends depth use := by
  induction depth generalizing use opened with
  | zero =>
    obtain ⟨condition, named⟩ := Option.isSome_iff_exists.1 known
    obtain ⟨document, found, _⟩ := Option.bind_eq_some_iff.1 named
    have fresh : use.name ∉ opened := fun member => finite.acyclic _ (leads _ member)
    have fits := (List.subperm_of_subset (nodup.cons fresh)
      (List.cons_subset.2 ⟨mem_keys_of_get? found, within⟩)).length_le
    rw [keys, List.length_map, List.length_cons] at fits
    omega
  | succ depth ih =>
    obtain ⟨condition, named⟩ := Option.isSome_iff_exists.1 known
    obtain ⟨document, found, typed⟩ := Option.bind_eq_some_iff.1 named
    have fresh : use.name ∉ opened := fun member => finite.acyclic _ (leads _ member)
    refine .intro found typed fun inner member => ?_
    have spreads : store.Spreads use.name inner.name := by
      refine ⟨document, found, ?_, List.mem_map_of_mem member⟩
      rw [← (collected.of_get? found).isSome_typeCondition, typed]
      rfl
    apply ih (nodup.cons fresh) (List.cons_subset.2 ⟨mem_keys_of_get? found, within⟩)
    · intro name opened
      rcases List.mem_cons.1 opened with rfl | earlier
      · exact .single spreads
      · exact (leads name earlier).tail spreads
    · exact finite.resolved document (mem_documents_of_get? found) inner member
    · rw [List.length_cons]
      omega

theorem IsFinite.ends (finite : store.IsFinite) (collected : store.IsCollected) {use : Spread}
    (known : (store.condition? use.name).isSome = true) : store.Ends store.entries.length use :=
  finite.ends_of_opened collected List.nodup_nil (List.nil_subset _)
    (fun _ member => nomatch member)
    known (by simp)

/-- A spread stands for its fragment, and what is spread there stands for its fragment in turn. -/
theorem IsFinite.inline_eq (finite : store.IsFinite) (collected : store.IsCollected) {use : Spread}
    {document : Document} {condition : String} (found : store.get? use.name = some document)
    (typed : document.definition.typeCondition = some condition) :
    store.inline use =
      .inline ⟨some condition, use.directives, use.position⟩
        document.definition.selectionSet.position
        (Selection.substituteAll store.inline document.definition.selectionSet.selections) := by
  have known : (store.condition? use.name).isSome = true := by
    rw [condition?, found]
    exact Option.isSome_of_eq_some typed
  have ends := finite.ends collected known
  unfold inline
  generalize store.entries.length = depth at ends ⊢
  cases ends with
  | intro again _ inside =>
    rw [found] at again
    cases again
    rw [expansion_succ found typed,
      Selection.substituteAll_congr _ fun inner member =>
        ((inside inner member).expansion_succ).symm]

example : Sample.store.inline ⟨"Info", [], none⟩ =
    .inline ⟨some "Node", [], none⟩ none [.bare "id"] := rfl

theorem IsFinite.spreads_inlined (finite : store.IsFinite) (collected : store.IsCollected)
    {document : Document} (member : document ∈ store.inlined.documents) :
    document.spreads = [] := by
  obtain ⟨entry, there, rfl⟩ := List.mem_map.1 member
  obtain ⟨old, before, rfl⟩ := List.mem_map.1 there
  have old_mem : old.document ∈ store.documents := List.mem_map_of_mem before
  refine (Selection.spreadsOfAll_substituteAll _ _).trans (List.flatMap_eq_nil_iff.2 ?_)
  intro use given
  exact (finite.ends collected (finite.resolved _ old_mem use given)).spreads_expansion

/-- What a walk calls a selection, and what it calls the selection when it is inlined. -/
def SameStep (store : Store) (name other : String) : Prop :=
  name = other ∨ ∃ fragment condition, store.condition? fragment = some condition ∧
    name = "..." ++ fragment ∧ other = "... on " ++ condition

variable {schema : Schema} {f : Spread → Selection}

theorem set?_root_substitute {key : String} {document : Document}
    (found : store.get? key = some document) :
    (store.substitute f).set? ⟨key, []⟩ =
      some (document.definition.selectionSet.substitute f) := by
  rw [set?_root, get?_substitute, found]
  rfl

end Store

/-- The same report on a walk through inlined documents. -/
structure Diagnostic.Echoes (store : Store) (report echo : Diagnostic) : Prop where
  document : echo.document = report.document
  pass : echo.pass = report.pass
  position : echo.location.position = report.location.position
  path : List.Forall₂ store.SameStep report.location.path echo.location.path
  issue : echo.issue = report.issue ∨
    ∃ fragment condition, store.condition? fragment = some condition ∧
      report.issue = .unknownFragmentCondition condition fragment ∧
      echo.issue = .unknownInlineCondition condition

namespace Walk

variable {schema : Schema} {store : Store} {document : String} {scope twin : Scope}

/-- A scope of a walk and one of a walk through the inlined documents, at the same set. -/
structure Mirrors (store : Store) (scope twin : Scope) : Prop where
  type : twin.type = scope.type
  path : List.Forall₂ store.SameStep scope.path twin.path
  set : ∃ set, store.set? scope.place = some set ∧
    store.inlined.set? twin.place = some (set.substitute store.inline)

structure Step.Mirrors (store : Store) (step twin : Step) : Prop where
  reports : List.Forall₂ (Diagnostic.Echoes store) step.reports twin.reports
  next : Option.Rel (Walk.Mirrors store) step.next twin.next

inductive Event.Mirrors (store : Store) : Event → Event → Prop
  | visit {document : String} {scope twin : Scope} (same : Walk.Mirrors store scope twin) :
    Event.Mirrors store (.visit document scope) (.visit document twin)
  | report {diagnostic echo : Diagnostic} (same : diagnostic.Echoes store echo) :
    Event.Mirrors store (.report diagnostic) (.report echo)

variable {index : Nat} {selection : Selection}

theorem Mirrors.path_concat {name other : String} (mirrors : Mirrors store scope twin)
    (same : store.SameStep name other) :
    List.Forall₂ store.SameStep (scope.path ++ [name]) (twin.path ++ [other]) :=
  List.rel_append mirrors.path (.cons same .nil)

theorem Mirrors.echoes {name other : String} (mirrors : Mirrors store scope twin)
    (same : store.SameStep name other) (issue : Issue) (position : Option Position) :
    (Diagnostic.unsigned issue document ⟨scope.path ++ [name], position⟩).Echoes store
      (.unsigned issue document ⟨twin.path ++ [other], position⟩) :=
  ⟨rfl, rfl, rfl, mirrors.path_concat same, .inl rfl⟩

theorem Mirrors.getElem? (mirrors : Mirrors store scope twin) (index : Nat) :
    (store.inlined.setAt twin.place).selections[index]? =
      (store.setAt scope.place).selections[index]?.map (Selection.substitute store.inline) := by
  obtain ⟨set, found, there⟩ := mirrors.set
  rw [Store.setAt_of_set? found, Store.setAt_of_set? there, SelectionSet.getElem?_substitute]

theorem Mirrors.set_below {inner : SelectionSet} (mirrors : Mirrors store scope twin)
    (chosen : (store.setAt scope.place).selections[index]? = some selection)
    (has : selection.set? = some inner) :
    ∃ set, store.set? (below scope index) = some set ∧
      store.inlined.set? (below twin index) = some (set.substitute store.inline) := by
  obtain ⟨set, found, there⟩ := mirrors.set
  rw [Store.setAt_of_set? found] at chosen
  refine ⟨inner, ?_, ?_⟩
  · rw [below, Store.set?_below found, chosen]
    exact has
  · rw [below, Store.set?_below there, SelectionSet.getElem?_substitute, chosen]
    cases selection with
    | leaf => cases has
    | branch => cases has; rfl
    | inline => cases has; rfl
    | spread => cases has

theorem mirrors_followField {field : Field} {position : Option Position}
    {selections : List Selection} (mirrors : Mirrors store scope twin)
    (chosen : (store.setAt scope.place).selections[index]? =
      some (.branch field position selections)) :
    (followField schema document scope index field).Mirrors store
      (followField schema document twin index field) := by
  have same : store.SameStep field.responseKey field.responseKey := .inl rfl
  have inside := mirrors.set_below chosen rfl
  unfold followField
  rw [mirrors.type]
  cases schema.fieldType? scope.type field.name with
  | some type => exact ⟨.nil, .some ⟨rfl, mirrors.path_concat same, inside⟩⟩
  | none =>
    exact ⟨.cons (mirrors.echoes same _ _) .nil, .some ⟨rfl, mirrors.path_concat same, inside⟩⟩

theorem mirrors_followInline {fragment : InlineFragment} {position : Option Position}
    {selections : List Selection} (mirrors : Mirrors store scope twin)
    (chosen : (store.setAt scope.place).selections[index]? =
      some (.inline fragment position selections)) :
    (followInline schema document scope index fragment).Mirrors store
      (followInline schema document twin index fragment) := by
  have inside := mirrors.set_below chosen rfl
  unfold followInline
  cases fragment.typeCondition with
  | none => exact ⟨.nil, .some ⟨mirrors.type, mirrors.path_concat (.inl rfl), inside⟩⟩
  | some name =>
    have same : store.SameStep ("... on " ++ name) ("... on " ++ name) := .inl rfl
    dsimp only
    cases schema.type? name with
    | some type => exact ⟨.nil, .some ⟨rfl, mirrors.path_concat same, inside⟩⟩
    | none =>
      exact ⟨.cons (mirrors.echoes same _ _) .nil,
        .some ⟨mirrors.type, mirrors.path_concat same, inside⟩⟩

theorem mirrors_followSpread {use : Spread} (collected : store.IsCollected)
    (finite : store.IsFinite) (mirrors : Mirrors store scope twin)
    (chosen : (store.setAt scope.place).selections[index]? = some (.spread use))
    (fresh : use.name ∉ scope.openFragments)
    (known : (store.condition? use.name).isSome = true) :
    (step schema store document scope index (.spread use)).Mirrors store
      (step schema store.inlined document twin index (store.inline use)) := by
  obtain ⟨condition, named⟩ := Option.isSome_iff_exists.1 known
  obtain ⟨fragment, found, typed⟩ := Option.bind_eq_some_iff.1 named
  have same : store.SameStep ("..." ++ use.name) ("... on " ++ condition) :=
    .inr ⟨use.name, condition, named, rfl, rfl⟩
  have inside : ∃ set, store.set? ⟨use.name, []⟩ = some set ∧
      store.inlined.set? (below twin index) = some (set.substitute store.inline) := by
    obtain ⟨set, here, there⟩ := mirrors.set
    rw [Store.setAt_of_set? here] at chosen
    refine ⟨fragment.definition.selectionSet, by rw [Store.set?_root, found]; rfl, ?_⟩
    rw [below, Store.set?_below there, SelectionSet.getElem?_substitute, chosen, Option.map_some,
      Selection.substitute, finite.inline_eq collected found typed]
    rfl
  rw [step_spread collected, finite.inline_eq collected found typed, step_inline]
  simp only [fresh, if_false, named, followInline]
  cases schema.type? condition with
  | some type => exact ⟨.nil, .some ⟨rfl, mirrors.path_concat same, inside⟩⟩
  | none =>
    refine ⟨.cons ⟨rfl, rfl, rfl, mirrors.path_concat same, ?_⟩ .nil,
      .some ⟨mirrors.type, mirrors.path_concat same, inside⟩⟩
    exact .inr ⟨use.name, condition, named, rfl, rfl⟩

/-- What a walk finds about its spreads: none is of an open fragment, all are of fragments. -/
theorem HasChain.spread_ready {use : Spread} (chain : HasChain store scope)
    (collected : store.IsCollected) (finite : store.IsFinite)
    (chosen : (store.setAt scope.place).selections[index]? = some (.spread use)) :
    use.name ∉ scope.openFragments ∧ (store.condition? use.name).isSome = true := by
  refine ⟨chain.not_mem_of_acyclic collected finite.acyclic chosen, ?_⟩
  cases found : store.set? scope.place with
  | none => simp [Store.setAt, found] at chosen
  | some set =>
    obtain ⟨holder, held, _⟩ := Option.bind_eq_some_iff.1 found
    exact finite.resolved _ (Store.mem_documents_of_get? held) use (mem_spreads held chosen)

theorem mirrors_step (collected : store.IsCollected) (finite : store.IsFinite)
    (chain : HasChain store scope) (mirrors : Mirrors store scope twin)
    (chosen : (store.setAt scope.place).selections[index]? = some selection) :
    (step schema store document scope index selection).Mirrors store
      (step schema store.inlined document twin index (selection.substitute store.inline)) := by
  cases selection with
  | leaf field => exact ⟨.nil, .none⟩
  | branch field position selections => exact mirrors_followField mirrors chosen
  | inline fragment position selections => exact mirrors_followInline mirrors chosen
  | spread use =>
    -- A walk stops at a spread of an open or unknown fragment, but never at an inline fragment.
    obtain ⟨fresh, known⟩ := chain.spread_ready collected finite chosen
    exact mirrors_followSpread collected finite mirrors chosen fresh known

theorem Step.Mirrors.events {step other : Step} {inside outside : Scope → List Event}
    (mirrors : step.Mirrors store other)
    (further : ∀ next twin, step.next = some next → other.next = some twin →
      Walk.Mirrors store next twin →
        List.Forall₂ (Event.Mirrors store) (inside next) (outside twin)) :
    List.Forall₂ (Event.Mirrors store) (step.events inside) (other.events outside) := by
  obtain ⟨reports, next⟩ := step
  obtain ⟨echoes, twin⟩ := other
  refine List.rel_append (List.rel_map (fun _ _ => .report) mirrors.reports) ?_
  cases mirrors.next with
  | none => exact .nil
  | some same => exact further _ _ rfl rfl same

theorem mirrors_events {depth twinDepth : Nat} (collected : store.IsCollected)
    (finite : store.IsFinite) (room : HasRoom store depth scope)
    (twinRoom : HasRoom store.inlined twinDepth twin) (chain : HasChain store scope)
    (mirrors : Mirrors store scope twin) :
    List.Forall₂ (Event.Mirrors store) (events schema store document depth scope)
      (events schema store.inlined document twinDepth twin) := by
  -- Each walk has a depth of its own: fragments that are inlined make a document deeper.
  induction depth generalizing twinDepth scope twin with
  | zero => exact absurd room.enough (Nat.not_lt_zero _)
  | succ depth ih =>
    cases twinDepth with
    | zero => exact absurd twinRoom.enough (Nat.not_lt_zero _)
    | succ twinDepth =>
      obtain ⟨set, found, there⟩ := mirrors.set
      rw [events, events, Store.setAt_of_set? there, SelectionSet.substitute,
        Selection.substituteAll_eq_map, List.zipIdx_map, List.flatMap_map,
        ← Store.setAt_of_set? found]
      refine .cons (.visit mirrors) (List.rel_flatMap (R := fun one other =>
        one = other ∧ one ∈ (store.setAt scope.place).selections.zipIdx)
        (List.forall₂_same.2 fun _ member => ⟨rfl, member⟩) ?_)
      rintro ⟨selection, index⟩ _ ⟨rfl, member⟩
      have chosen := List.mem_zipIdx_iff_getElem?.1 member
      have twinChosen := mirrors.getElem? index
      rw [chosen, Option.map_some] at twinChosen
      apply (mirrors_step collected finite chain mirrors chosen).events
      intro next twinNext here other same
      have leads : Leads schema store scope next :=
        ⟨index, selection, chosen, (step_next_iff collected).1 here⟩
      have twinLeads : Leads schema store.inlined twin twinNext :=
        ⟨index, _, twinChosen, (step_next_iff collected.inlined).1 other⟩
      exact ih (room.leads leads) (twinRoom.leads twinLeads) (chain.leads_to collected leads) same

theorem advisory_of_isFinite {depth : Nat} {key : String} {type : NamedType}
    {diagnostic : Diagnostic} (collected : store.IsCollected) (finite : store.IsFinite)
    (member : .report diagnostic ∈ events schema store document depth (root key type)) :
    diagnostic.isFatal = false := by
  obtain ⟨last, index, selection, reaches, chosen, reported⟩ := reaches_of_report collected member
  have chain := hasChain_of_reaches collected reaches
  refine advisory_step collected ?_ diagnostic reported
  rintro use rfl
  exact chain.spread_ready collected finite chosen

end Walk

theorem Diagnostic.Echoes.isFatal {store : Store} {report echo : Diagnostic}
    (echoes : report.Echoes store echo) : echo.isFatal = report.isFatal := by
  unfold Diagnostic.isFatal severity
  rcases echoes.issue with same | ⟨fragment, condition, _, own, other⟩
  · rw [same]
  · rw [own, other]
    rfl

theorem Diagnostic.advisory_of_echoes {store : Store} {reports echoes : List Diagnostic}
    (same : List.Forall₂ (Echoes store) reports echoes)
    (advisory : ∀ report ∈ reports, report.isFatal = false) :
    ∀ echo ∈ echoes, echo.isFatal = false := by
  induction same with
  | nil => exact advisory
  | cons first _ ih =>
    rw [List.forall_mem_cons] at advisory ⊢
    exact ⟨first.isFatal.trans advisory.1, ih advisory.2⟩

def Visitor.IsStill {σ : Type} (visitor : Visitor σ) : Prop :=
  ∀ visit memory, (visitor visit memory).1 = []

theorem Visitor.IsStill.appendsLeaves {σ : Type} {visitor : Visitor σ} (still : visitor.IsStill) :
    visitor.AppendsLeaves :=
  fun visit memory => ⟨[], still visit memory⟩

theorem Store.append_nil (store : Store) (place : Place) : store.append place [] = store := by
  have grown : (store.grow fun _ => []).append place [] =
      store.grow (Growth.put (fun _ => []) place []) := store.append_grow place []
  rw [store.grow_empty] at grown
  refine grown.trans (Eq.trans ?_ store.grow_empty)
  congr 1
  funext other
  rw [Growth.put]
  split <;> rfl

namespace Walk

variable {σ : Type} {schema : Schema} {store : Store} {visitor : Visitor σ}

def trace (schema : Schema) (visitor : Visitor σ) (store : Store) (key : String) (memory : σ) :
    Progress (σ × List Visit) :=
  document schema visitor.recording store.walkDepth key ⟨store, (memory, []), [], none⟩

theorem trace_eq_foldl (collected : store.IsCollected) (leaves : visitor.AppendsLeaves)
    (key : String) (memory : σ) :
    trace schema visitor store key memory =
      (documentEvents schema store key).foldl (attend visitor.recording)
        ⟨store, (memory, []), [], none⟩ :=
  document_eq_foldl collected leaves.recording key (.start store _)

def visits (store : Store) (events : List Event) : List Visit :=
  events.filterMap fun
    | .visit document scope => some ⟨document, scope, store.setAt scope.place⟩
    | .report _ => none

/-- A visitor that changes nothing leaves a record of the visits, and nothing else. -/
theorem foldl_attend_recording (still : visitor.IsStill) (events : List Event)
    {progress : Progress (σ × List Visit)} (same : progress.store = store) :
    (events.foldl (attend visitor.recording) progress).memory.2 =
      progress.memory.2 ++ visits store events := by
  induction events generalizing progress with
  | nil => exact (List.append_nil _).symm
  | cons event rest ih =>
    rw [List.foldl_cons, ih]
    · cases event with
      | report diagnostic => rfl
      | visit document scope =>
        rw [← same]
        exact List.append_assoc _ _ _
    · cases event with
      | report diagnostic => exact same
      | visit document scope =>
        simp only [attend, Visitor.recording, still _ _]
        rw [same, Store.append_nil]

theorem trace_eq (schema : Schema) (collected : store.IsCollected) (still : visitor.IsStill)
    (key : String) (memory : σ) :
    (trace schema visitor store key memory).fault = none ∧
      (trace schema visitor store key memory).memory.2 =
        visits store (documentEvents schema store key) ∧
      (trace schema visitor store key memory).diagnostics =
        reports (documentEvents schema store key) := by
  have leaves : visitor.recording.AppendsLeaves := still.appendsLeaves.recording
  rw [trace_eq_foldl collected still.appendsLeaves]
  exact ⟨((Grown.start store _).foldl leaves _).sound, foldl_attend_recording still _ rfl, diagnostics_foldl _ _⟩

theorem mirrors_documentEvents {key : String} {document : Document} {type : NamedType}
    (collected : store.IsCollected) (finite : store.IsFinite)
    (found : store.get? key = some document) (typed : document.rootType? schema = some type) :
    List.Forall₂ (Event.Mirrors store) (documentEvents schema store key)
      (documentEvents schema store.inlined key) := by
  have twin : store.inlined.get? key = some (document.substitute store.inline) := by
    rw [Store.inlined, Store.get?_substitute, found]
    rfl
  have alike : (document.substitute store.inline).rootType? schema = some type := typed
  have start : ReflTransGen (Leads schema store) (root key type) (root key type) := .refl
  simp only [documentEvents, found, typed, twin, alike]
  apply mirrors_events collected finite (HasRoom.root found type) (HasRoom.root twin type)
    (hasChain_of_reaches collected start)
  have here := Store.set?_root store key
  rw [found] at here
  exact ⟨rfl, .nil, document.definition.selectionSet, here, Store.set?_root_substitute found⟩

theorem map_visits_of_mirrors {events twins : List Event}
    (mirrors : List.Forall₂ (Event.Mirrors store) events twins) :
    (visits store events).map (fun visit => (visit.set.substitute store.inline, visit.scope.type)) =
      (visits store.inlined twins).map fun visit => (visit.set, visit.scope.type) := by
  induction mirrors with
  | nil => rfl
  | cons same _ ih =>
    cases same with
    | report => exact ih
    | visit same =>
      obtain ⟨set, found, there⟩ := same.set
      refine List.cons_eq_cons.2 ⟨?_, ih⟩
      dsimp only
      rw [Store.setAt_of_set? found, Store.setAt_of_set? there, same.type]

theorem echoes_of_mirrors {events twins : List Event}
    (mirrors : List.Forall₂ (Event.Mirrors store) events twins) :
    List.Forall₂ (Diagnostic.Echoes store) (reports events) (reports twins) := by
  refine List.rel_filterMap (fun event twin same => ?_) mirrors
  cases same with
  | visit => exact .none
  | report same => exact .some same

end Walk

namespace Sample

def counting : Visitor Nat := fun _ count => ([], count + 1)

theorem isFinite : store.IsFinite := by
  have valid : store.IsValid schema :=
    (Validation.anyFatal_findings_iff isCollected).1 (by decide +kernel)
  exact ⟨valid.resolved, valid.acyclic⟩

end Sample

namespace Walk

variable {σ : Type} {schema : Schema} {store : Store} {visitor : Visitor σ}

/-- Walking through spreads is walking through inlined documents: the same sets are visited with
the same types in the same order, and each report is echoed. All reports are advice. -/
theorem trace_inlined {key : String} {document : Document} {type : NamedType}
    (collected : store.IsCollected) (finite : store.IsFinite) (still : visitor.IsStill)
    (found : store.get? key = some document) (typed : document.rootType? schema = some type)
    (memory : σ) :
    (∀ document ∈ store.inlined.documents, document.spreads = []) ∧
      (trace schema visitor store key memory).fault = none ∧
      (trace schema visitor store.inlined key memory).fault = none ∧
      (trace schema visitor store key memory).memory.2.map
          (fun visit => (visit.set.substitute store.inline, visit.scope.type)) =
        (trace schema visitor store.inlined key memory).memory.2.map
          (fun visit => (visit.set, visit.scope.type)) ∧
      List.Forall₂ (Diagnostic.Echoes store) (trace schema visitor store key memory).diagnostics
        (trace schema visitor store.inlined key memory).diagnostics ∧
      (∀ report ∈ (trace schema visitor store key memory).diagnostics, report.isFatal = false) ∧
      ∀ echo ∈ (trace schema visitor store.inlined key memory).diagnostics,
        echo.isFatal = false := by
  obtain ⟨sound, visited, reported⟩ := trace_eq schema collected still key memory
  obtain ⟨twinSound, twinVisited, echoed⟩ := trace_eq schema collected.inlined still key memory
  have mirrors := mirrors_documentEvents collected finite found typed
  have echoes := echoes_of_mirrors mirrors
  have advisory : ∀ report ∈ reports (documentEvents schema store key),
      report.isFatal = false := by
    intro report member
    rw [mem_reports] at member
    simp only [documentEvents, found, typed] at member
    exact advisory_of_isFinite collected finite member
  rw [reported, visited, echoed, twinVisited]
  exact ⟨fun document member => finite.spreads_inlined collected member, sound, twinSound,
    map_visits_of_mirrors mirrors, echoes, advisory, Diagnostic.advisory_of_echoes echoes advisory⟩

theorem trace_inlined_sample :
    (∀ document ∈ Sample.store.inlined.documents, document.spreads = []) ∧
      (trace Sample.schema Sample.counting Sample.store "Page" 0).fault = none ∧
      (trace Sample.schema Sample.counting Sample.store.inlined "Page" 0).fault = none ∧
      (trace Sample.schema Sample.counting Sample.store "Page" 0).memory.2.map
          (fun visit => (visit.set.substitute Sample.store.inline, visit.scope.type)) =
        (trace Sample.schema Sample.counting Sample.store.inlined "Page" 0).memory.2.map
          (fun visit => (visit.set, visit.scope.type)) ∧
      List.Forall₂ (Diagnostic.Echoes Sample.store)
        (trace Sample.schema Sample.counting Sample.store "Page" 0).diagnostics
        (trace Sample.schema Sample.counting Sample.store.inlined "Page" 0).diagnostics ∧
      (∀ report ∈ (trace Sample.schema Sample.counting Sample.store "Page" 0).diagnostics,
        report.isFatal = false) ∧
      ∀ echo ∈ (trace Sample.schema Sample.counting Sample.store.inlined "Page" 0).diagnostics,
        echo.isFatal = false :=
  trace_inlined Sample.isCollected Sample.isFinite (fun _ _ => rfl) rfl rfl 0

end Walk

end DocumentNormalizer
