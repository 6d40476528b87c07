import DocumentNormalizer.Proofs.Rewriting
import DocumentNormalizer.Proofs.Validity
import Mathlib.Data.List.Chain
import Mathlib.Logic.Relation

namespace DocumentNormalizer

open Relation (TransGen)

namespace Dependencies

variable {dependencies : Dependencies} {depth : Nat} {path : List String} {name : String}

/-- A way along dependencies back to its first name that comes to no other name twice. -/
structure IsCycle (dependencies : Dependencies) (cycle : List String) : Prop where
  chain : cycle.IsChain dependencies.Needs
  closed : ∃ name between, cycle = name :: between ++ [name] ∧ (name :: between).Nodup

theorem transGen_of_isChain {related : String → String → Prop} {last : String}
    (between : List String) (chain : (name :: between ++ [last]).IsChain related) :
    TransGen related name last := by
  induction between generalizing name with
  | nil => exact .single (List.isChain_cons_cons.1 chain).1
  | cons next rest ih =>
    obtain ⟨first, others⟩ := List.isChain_cons_cons.1 chain
    exact .head first (ih others)

theorem IsCycle.transGen {cycle : List String} (h : dependencies.IsCycle cycle) :
    ∃ name, TransGen dependencies.Needs name name := by
  obtain ⟨name, between, same, _⟩ := h.closed
  exact ⟨name, transGen_of_isChain between (same ▸ h.chain)⟩

/-- A path along dependencies closes a cycle when it comes back to one of its names. -/
theorem isCycle_dropWhile (chain : (path ++ [name]).IsChain dependencies.Needs)
    (nodup : path.Nodup) (onPath : name ∈ path) :
    dependencies.IsCycle (path.dropWhile (· ≠ name) ++ [name]) := by
  obtain ⟨front, between, rfl, fresh⟩ := List.eq_append_cons_of_mem onPath
  have rest : (front ++ name :: between).dropWhile (· ≠ name) = name :: between := by
    rw [List.dropWhile_append_of_pos]
    · rw [List.dropWhile_cons_of_neg (by simp)]
    · intro other member
      simpa using ne_of_mem_of_not_mem member fresh
  rw [rest]
  rw [List.append_assoc] at chain
  exact ⟨chain.right_of_append, name, between, rfl, nodup.of_append_right⟩

/-- All cycles that a search has found are cycles. -/
def Search.IsReal (dependencies : Dependencies) (search : Search) : Prop :=
  ∀ cycle ∈ search.cycles, dependencies.IsCycle cycle

theorem isReal_foldl {α : Type} {items : List α} {step : Search → α → Search} {search : Search}
    (real : search.IsReal dependencies)
    (each : ∀ item ∈ items, ∀ search : Search, search.IsReal dependencies →
      (step search item).IsReal dependencies) :
    (items.foldl step search).IsReal dependencies := by
  induction items generalizing search with
  | nil => exact real
  | cons item rest ih =>
    exact ih (each item List.mem_cons_self search real) fun other member =>
      each other (List.mem_cons_of_mem _ member)

theorem isReal_follow {search : Search}
    (chain : (path ++ [name]).IsChain dependencies.Needs) (nodup : path.Nodup)
    (real : search.IsReal dependencies) :
    (follow dependencies depth path name search).IsReal dependencies := by
  induction depth generalizing path name search with
  | zero => exact real
  | succ depth ih =>
    rw [follow]
    split
    · next onPath =>
      intro cycle member
      rcases List.mem_append.1 member with before | now
      · exact real cycle before
      · rw [List.mem_singleton.1 now]
        exact isCycle_dropWhile chain nodup (by simpa using onPath)
    · next offPath =>
      split
      · exact real
      · cases known : dependencies.of? name with
        | none => exact real
        | some needed =>
          have fresh : name ∉ path := by simpa using offPath
          apply isReal_foldl real
          intro next member search real
          apply ih _ (by simpa using nodup.concat fresh) real
          refine chain.append (.singleton _) fun last isLast first isFirst => ?_
          simp only [List.getLast?_concat, Option.mem_some_iff, List.head?_cons] at isLast isFirst
          subst isLast isFirst
          exact ⟨needed, known, member⟩

theorem isCycle_of_mem_cycles {cycle : List String} (member : cycle ∈ dependencies.cycles) :
    dependencies.IsCycle cycle := by
  have start : Search.IsReal dependencies ⟨[], []⟩ := fun _ member => nomatch member
  exact isReal_foldl start
    (fun _ _ _ real => isReal_follow (.singleton _) List.nodup_nil real) cycle member

/-- The search reports nothing exactly where no name comes back to itself. -/
theorem cycles_eq_nil_iff :
    dependencies.cycles = [] ↔ ∀ name, ¬TransGen dependencies.Needs name name := by
  constructor
  · intro none name cycle
    have backwards := Relation.transGen_swap.2 cycle
    exact (wellFounded_of_cycles_eq_nil none).transGen.asymmetric _ _ backwards backwards
  · intro acyclic
    apply List.eq_nil_iff_forall_not_mem.2
    intro cycle member
    obtain ⟨name, back⟩ := (isCycle_of_mem_cycles member).transGen
    exact acyclic name back

end Dependencies

/-- A document has a type to select from. A fragment applies to a type with selections. -/
def Document.IsRooted (schema : Schema) (document : Document) : Prop :=
  ∃ type, document.rootType? schema = some type ∧
    (document.kind.isFragment = true → type.isComposite = true)

/-- Documents that validation lets pass. -/
structure Store.IsValid (schema : Schema) (store : Store) : Prop where
  rooted : ∀ document ∈ store.documents, document.IsRooted schema
  resolved : ∀ document ∈ store.documents, ∀ use ∈ document.spreads,
    (store.condition? use.name).isSome = true
  acyclic : ∀ name, ¬TransGen store.Spreads name name

namespace Validation

variable {schema : Schema} {store : Store}

theorem exists_of_of?_foldl_set {documents : List Document} {name : String}
    {needed : List String} {found : Dependencies}
    (known : (documents.foldl (fun found document =>
      found.set document.name (document.spreads.map (·.name))) found).of? name = some needed) :
    (∃ document ∈ documents, document.name = name ∧ document.spreads.map (·.name) = needed) ∨
      found.of? name = some needed := by
  induction documents generalizing found with
  | nil => exact .inr known
  | cons head rest ih =>
    rcases ih known with ⟨document, member, here⟩ | before
    · exact .inl ⟨document, List.mem_cons_of_mem _ member, here⟩
    · rw [Dependencies.of?_set] at before
      split at before
      · next same =>
        exact .inl ⟨head, List.mem_cons_self, same.symm, Option.some.inj before⟩
      · exact .inr before

theorem get?_of_mem_documents (collected : store.IsCollected) {document : Document}
    (member : document ∈ store.documents) : store.get? document.name = some document := by
  obtain ⟨entry, there, rfl⟩ := List.mem_map.1 member
  rw [collected.named entry there]
  exact Store.get?_of_mem there

theorem needs_iff_spreads (collected : store.IsCollected) {name next : String} :
    (dependencies store).Needs name next ↔ store.Spreads name next := by
  constructor
  · rintro ⟨needed, known, member⟩
    rcases exists_of_of?_foldl_set known with ⟨document, there, rfl, rfl⟩ | before
    · obtain ⟨kept, fragment⟩ := List.mem_filter.1 there
      exact ⟨document, get?_of_mem_documents collected kept, fragment, member⟩
    · cases before
  · exact needs_of_spreads collected

theorem rootIssue?_severity {document : Document} {issue : Issue}
    (found : rootIssue? schema document = some issue) : issue.severity = .fatal := by
  rw [rootIssue?] at found
  cases kind : document.kind with
  | operation operation =>
    simp only [kind] at found
    split at found <;> cases found
    rfl
  | fragment =>
    simp only [kind] at found
    split at found
    · cases found
      rfl
    · split at found <;> cases found
      rfl

theorem rootIssue?_eq_none_iff {document : Document} :
    rootIssue? schema document = none ↔ document.IsRooted schema := by
  unfold rootIssue? Document.IsRooted Document.rootType?
  cases document.kind with
  | operation operation =>
    cases found : schema.rootType? operation <;> simp [found, DocumentKind.isFragment]
  | fragment =>
    cases found : schema.type? (document.definition.typeCondition.getD "") <;>
      simp [found, DocumentKind.isFragment]

theorem anyFatal_rootReport {document : Document} :
    anyFatal (rootReport schema document) = false ↔ document.IsRooted schema := by
  rw [← rootIssue?_eq_none_iff, rootReport]
  cases found : rootIssue? schema document with
  | none => simp [anyFatal]
  | some issue => simp [anyFatal, rootIssue?_severity found]

theorem anyFatal_unknownReports {document : Document} :
    anyFatal (unknownReports store document) = false ↔
      ∀ use ∈ document.spreads, (store.condition? use.name).isSome = true := by
  simp [anyFatal, unknownReports, Issue.severity, Option.isSome_iff_ne_none]

theorem anyFatal_cycleFindings (cycles : List (List String)) :
    anyFatal (cycles.map (cycleFinding store)) = false ↔ cycles = [] := by
  cases cycles <;> simp [anyFatal, cycleFinding, Issue.severity]

theorem anyFatal_unusedFragments : anyFatal (unusedFragments store) = false := by
  simp [anyFatal, unusedFragments, Issue.severity]

theorem anyFatal_findings_iff (collected : store.IsCollected) :
    anyFatal (findings schema store) = false ↔ store.IsValid schema := by
  have perDocument : anyFatal (store.documents.map fun document =>
      rootReport schema document ++ unknownReports store document).flatten = false ↔
        ∀ document ∈ store.documents, document.IsRooted schema ∧
          ∀ use ∈ document.spreads, (store.condition? use.name).isSome = true := by
    rw [anyFatal, List.any_flatten, List.any_map, List.any_eq_false]
    refine forall₂_congr fun document _ => ?_
    rw [Function.comp_apply, Bool.not_eq_true, ← anyFatal, anyFatal_append,
      Bool.or_eq_false_iff, anyFatal_rootReport, anyFatal_unknownReports]
  have cyclic : (dependencies store).cycles = [] ↔ ∀ name, ¬TransGen store.Spreads name name := by
    have same : (dependencies store).Needs = store.Spreads :=
      funext₂ fun _ _ => propext (needs_iff_spreads collected)
    rw [Dependencies.cycles_eq_nil_iff, same]
  rw [findings, anyFatal_append, anyFatal_append, Bool.or_eq_false_iff, Bool.or_eq_false_iff,
    perDocument, anyFatal_cycleFindings, cyclic]
  constructor
  · rintro ⟨⟨each, acyclic⟩, _⟩
    exact ⟨fun document member => (each document member).1,
      fun document member => (each document member).2, acyclic⟩
  · intro valid
    exact ⟨⟨fun document member => ⟨valid.rooted document member, valid.resolved document member⟩,
      valid.acyclic⟩, anyFatal_unusedFragments⟩

end Validation

end DocumentNormalizer
