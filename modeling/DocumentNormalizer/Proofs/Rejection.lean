import DocumentNormalizer.Proofs.Astray
import DocumentNormalizer.Proofs.Locality
import DocumentNormalizer.Proofs.Survey

namespace DocumentNormalizer

open Relation (ReflTransGen)
open Walk (Event Leads documentEvents storeEvents survey trace visits)

section Duplicates

variable {α β : Type} [BEq α] [LawfulBEq α] [BEq β] [LawfulBEq β]

def keep (seen : List α) (item : α) : List α := if seen.contains item then seen else seen ++ [item]

theorem foldl_keep (items seen : List α) :
    items.foldl keep seen = seen ++ (items.filter (!seen.contains ·)).eraseDups := by
  induction items generalizing seen with
  | nil => exact (List.append_nil seen).symm
  | cons item rest ih =>
    rw [List.foldl_cons, ih, keep]
    by_cases known : item ∈ seen
    · simp [known]
    · have others : rest.filter (!(seen ++ [item]).contains ·) =
          (rest.filter (!seen.contains ·)).filter (!· == item) := by
        rw [List.filter_filter]
        apply List.filter_congr
        intro other _
        rw [List.contains_append, Bool.not_or, Bool.and_comm]
        simp
      have fresh : ¬seen.contains item = true := by simpa using known
      rw [if_neg fresh, others]
      simp [known, List.eraseDups_cons]

theorem eraseDups_filterMap {f : α → Option β}
    (injective : ∀ first second found, f first = some found → f second = some found →
      first = second) (items : List α) :
    items.eraseDups.filterMap f = (items.filterMap f).eraseDups := by
  match items with
  | [] => rfl
  | item :: rest =>
    have others := eraseDups_filterMap injective (rest.filter (!· == item))
    rw [List.eraseDups_cons]
    cases found : f item with
    | none =>
      have same : (rest.filter (!· == item)).filterMap f = rest.filterMap f := by
        rw [List.filterMap_filter]
        apply List.filterMap_congr
        intro other _
        by_cases here : other = item
        · simp [here, found]
        · simp [here]
      rw [List.filterMap_cons_none found, List.filterMap_cons_none found, others, same]
    | some value =>
      have same : (rest.filter (!· == item)).filterMap f =
          (rest.filterMap f).filter (!· == value) := by
        rw [List.filterMap_filter, List.filter_filterMap]
        apply List.filterMap_congr
        intro other _
        by_cases here : other = item
        · simp [here, found, Option.filter]
        · have apart : f other ≠ some value := fun also => here (injective _ _ _ also found)
          cases given : f other with
          | none => simp
          | some more =>
            rw [given] at apart
            simpa [here, Option.filter] using apart
      rw [List.filterMap_cons_some found, List.filterMap_cons_some found, List.eraseDups_cons,
        others, same]
termination_by items.length
decreasing_by exact Nat.lt_succ_of_le (List.length_filter_le _ _)

theorem eraseDups_append_of_subset {items more : List α} (subset : more ⊆ items) :
    (items ++ more).eraseDups = items.eraseDups := by
  have nothing : more.removeAll items = [] := by
    rw [List.removeAll, List.filter_eq_nil_iff]
    intro item member
    simpa using subset member
  rw [List.eraseDups_append, nothing, List.eraseDups_nil, List.append_nil]

omit [BEq α] [LawfulBEq α] in
theorem flatMap_subset_of_each {γ : Type} {f : γ → List α} {items : List γ} {all : List α}
    (each : ∀ item ∈ items, f item = [] ∨ f item = all) : items.flatMap f ⊆ all := by
  intro value member
  obtain ⟨item, listed, inside⟩ := List.mem_flatMap.1 member
  rcases each item listed with nothing | whole
  · rw [nothing] at inside
    cases inside
  · exact whole ▸ inside

theorem eraseDups_flatMap {γ : Type} {f : γ → List α} {items : List γ} {all : List α} {item : γ}
    (member : item ∈ items) (whole : f item = all)
    (each : ∀ item ∈ items, f item = [] ∨ f item = all) :
    (items.flatMap f).eraseDups = all.eraseDups := by
  obtain ⟨front, back, rfl⟩ := List.append_of_mem member
  have later : ∀ other ∈ back, f other = [] ∨ f other = all := fun other there =>
    each other (List.mem_append_right _ (List.mem_cons_of_mem _ there))
  induction front with
  | nil =>
    rw [List.nil_append, List.flatMap_cons, whole]
    exact eraseDups_append_of_subset (flatMap_subset_of_each later)
  | cons first front ih =>
    have others : ∀ other ∈ front ++ item :: back, f other = [] ∨ f other = all :=
      fun other there => each other (List.mem_cons_of_mem _ there)
    rw [List.cons_append, List.flatMap_cons]
    rcases each first List.mem_cons_self with nothing | same
    · rw [nothing, List.nil_append]
      exact ih (List.mem_append_right _ List.mem_cons_self) others
    · rw [same]
      exact eraseDups_append_of_subset (flatMap_subset_of_each others)

end Duplicates

/-- The type and the key that an issue is about, if it is a key that cannot be selected by its name
alone. -/
def Issue.rejection? : Issue → Option (String × String)
  | .unusableKey key type => some (type, key)
  | _ => none

namespace KeyFields

variable {schema : Schema} {keys : List String} {store : Store}

/-- What a visit has to report, if nothing was reported before. -/
def complaints (schema : Schema) (keys : List String) (visit : Visit) : List Diagnostic :=
  if visit.scope.entrance = .inline || !isEntity schema keys visit.scope.type then []
  else
    (unusable schema keys visit.scope.type).map fun key =>
      .unsigned (.unusableKey key visit.scope.type.name) visit.document ⟨[], visit.set.position⟩

/-- The types and keys that reports reject. -/
def rejections (reports : List Diagnostic) : List (String × String) :=
  reports.filterMap (·.issue.rejection?)

theorem rejections_cons (report : Diagnostic) (reports : List Diagnostic) :
    rejections (report :: reports) = report.issue.rejection?.toList ++ rejections reports := by
  rw [rejections, List.filterMap_cons]
  cases report.issue.rejection? <;> rfl

theorem rejections_append (first second : List Diagnostic) :
    rejections (first ++ second) = rejections first ++ rejections second :=
  List.filterMap_append

/-- Takes a report, unless its type and key were rejected before. -/
def note (memory : Memory) (report : Diagnostic) : Memory :=
  match report.issue.rejection? with
  | none => memory
  | some rejected =>
    if memory.rejected.contains rejected then memory
    else ⟨memory.rejected ++ [rejected], memory.reports ++ [report]⟩

theorem memory_visitor (visit : Visit) (memory : Memory) :
    (visitor schema keys visit memory).2 = (complaints schema keys visit).foldl note memory := by
  rw [visitor, complaints]
  split
  · rfl
  · rw [List.foldl_map]
    cases unusable schema keys visit.scope.type <;> rfl

theorem foldl_remember (events : List Event) (memory : Memory) :
    events.foldl (remember schema keys store) memory =
      ((visits store events).flatMap (complaints schema keys)).foldl note memory := by
  induction events generalizing memory with
  | nil => rfl
  | cons event rest ih =>
    rw [List.foldl_cons, ih]
    cases event with
    | report diagnostic => rfl
    | visit document scope =>
      have first : visits store (.visit document scope :: rest) =
          ⟨document, scope, store.setAt scope.place⟩ :: visits store rest := rfl
      rw [first, List.flatMap_cons, List.foldl_append, ← memory_visitor]
      rfl

theorem note_cases (memory : Memory) (report : Diagnostic) :
    note memory report = memory ∨ ∃ rejected, report.issue.rejection? = some rejected ∧
      note memory report = ⟨memory.rejected ++ [rejected], memory.reports ++ [report]⟩ := by
  rw [note]
  split
  · exact .inl rfl
  · next rejected about =>
    split
    · exact .inl rfl
    · exact .inr ⟨rejected, about, rfl⟩

theorem exists_foldl_note (reports : List Diagnostic) (memory : Memory) :
    ∃ taken, taken.Sublist reports ∧
      reports.foldl note memory =
        ⟨memory.rejected ++ rejections taken, memory.reports ++ taken⟩ := by
  induction reports generalizing memory with
  | nil => exact ⟨[], .slnil, by simp [rejections]⟩
  | cons report rest ih =>
    obtain ⟨taken, fewer, after⟩ := ih (note memory report)
    rw [List.foldl_cons, after]
    rcases note_cases memory report with same | ⟨rejected, about, grown⟩
    · exact ⟨taken, fewer.cons _, by rw [same]⟩
    · refine ⟨report :: taken, fewer.cons_cons _, ?_⟩
      rw [grown, rejections_cons, about, List.append_assoc, List.append_assoc]
      rfl

theorem rejected_foldl_note (reports : List Diagnostic) (memory : Memory) :
    (reports.foldl note memory).rejected = (rejections reports).foldl keep memory.rejected := by
  induction reports generalizing memory with
  | nil => rfl
  | cons report rest ih =>
    rw [List.foldl_cons, ih, rejections_cons, List.foldl_append]
    cases about : report.issue.rejection? with
    | none => simp only [note, about, Option.toList_none, List.foldl_nil]
    | some rejected =>
      simp only [note, about, Option.toList_some, List.foldl_cons, List.foldl_nil, keep]
      split <;> rfl

theorem rejection?_step (collected : store.IsCollected) {document : String} {scope : Scope}
    {index : Nat} {selection : Selection} :
    ∀ report ∈ (Walk.step schema store document scope index selection).reports,
      report.issue.rejection? = none := by
  intro report member
  cases selection with
  | leaf field => cases member
  | branch field position selections =>
    rw [Walk.step_branch, Walk.followField] at member
    cases found : schema.fieldType? scope.type field.name with
    | some type => simp [found] at member
    | none =>
      simp only [found, List.mem_singleton] at member
      rw [member]
      rfl
  | inline fragment position selections =>
    rw [Walk.step_inline, Walk.followInline] at member
    cases condition : fragment.typeCondition with
    | none => simp [condition] at member
    | some name =>
      cases found : schema.type? name with
      | some type => simp [condition, found] at member
      | none =>
        simp only [condition, found, List.mem_singleton] at member
        rw [member]
        rfl
  | spread use =>
    rw [Walk.step_spread collected] at member
    by_cases isOpen : use.name ∈ scope.openFragments
    · simp only [isOpen, if_true, List.mem_singleton] at member
      rw [member]
      rfl
    · simp only [isOpen, if_false] at member
      cases named : store.condition? use.name with
      | none =>
        simp only [named, List.mem_singleton] at member
        rw [member]
        rfl
      | some condition =>
        simp only [named] at member
        split at member
        · cases member
        · rw [List.mem_singleton.1 member]
          rfl

theorem rejections_walk (collected : store.IsCollected) (key : String) :
    rejections (Walk.reports (documentEvents schema store key)) = [] := by
  apply List.filterMap_eq_nil_iff.2
  intro report member
  rw [Walk.mem_reports, documentEvents] at member
  cases found : store.get? key with
  | none => simp [found] at member
  | some document =>
    cases typed : document.rootType? schema with
    | none =>
      simp only [found, typed, List.mem_singleton, Event.report.injEq] at member
      rw [member, Diagnostic.unsigned, Walk.skipped]
      cases document.kind <;> rfl
    | some type =>
      simp only [found, typed] at member
      obtain ⟨_, _, _, _, _, reported⟩ := Walk.reaches_of_report collected member
      exact rejection?_step collected report reported

def complaintsOf (schema : Schema) (keys : List String) (store : Store) (key : String) :
    List Diagnostic :=
  (visits store (documentEvents schema store key)).flatMap (complaints schema keys)

theorem memoryAfter_eq (memory : Memory) (key : String) :
    memoryAfter schema keys store memory key =
      (complaintsOf schema keys store key).foldl note memory :=
  foldl_remember _ memory

theorem rejections_reportsFrom (collected : store.IsCollected) (rejected : List (String × String))
    (names : List String) :
    rejected ++ rejections (reportsFrom schema keys store rejected names) =
      (rejections (names.flatMap (complaintsOf schema keys store))).foldl keep rejected := by
  induction names generalizing rejected with
  | nil => exact List.append_nil rejected
  | cons key rest ih =>
    obtain ⟨taken, _, after⟩ :=
      exists_foldl_note (complaintsOf schema keys store key) ⟨rejected, []⟩
    have here := rejected_foldl_note (complaintsOf schema keys store key) ⟨rejected, []⟩
    rw [List.flatMap_cons, rejections_append, List.foldl_append, ← here, ← ih]
    simp only [reportsFrom, memoryAfter_eq, after, rejections_append, rejections_walk collected,
      List.append_assoc, List.nil_append]

theorem exists_visit_of_report (collected : store.IsCollected) {rejected : List (String × String)}
    {names : List String} {report : Diagnostic}
    (member : report ∈ reportsFrom schema keys store rejected names)
    (rejects : report.issue.rejection? ≠ none) :
    ∃ key ∈ names, ∃ visit ∈ visits store (documentEvents schema store key),
      report ∈ complaints schema keys visit := by
  induction names generalizing rejected with
  | nil => cases member
  | cons key rest ih =>
    obtain ⟨taken, fewer, after⟩ :=
      exists_foldl_note (complaintsOf schema keys store key) ⟨rejected, []⟩
    simp only [reportsFrom, memoryAfter_eq, after, List.nil_append, List.mem_append] at member
    obtain (given | walked) | later := member
    · obtain ⟨visit, happened, listed⟩ := List.mem_flatMap.1 (fewer.subset given)
      exact ⟨key, List.mem_cons_self, visit, happened, listed⟩
    · have nothing := List.filterMap_eq_nil_iff.1 (rejections_walk collected key) report walked
      exact absurd nothing rejects
    · obtain ⟨other, listed, visit⟩ := ih later
      exact ⟨other, List.mem_cons_of_mem _ listed, visit⟩

theorem rejections_run (collected : store.IsCollected) :
    rejections (reportsFrom schema keys store [] store.keys) =
      (rejections ((visits store (storeEvents schema store)).flatMap
        (complaints schema keys))).eraseDups := by
  have all : [] ++ rejections (reportsFrom schema keys store [] store.keys) =
      (rejections (store.keys.flatMap (complaintsOf schema keys store))).foldl keep [] :=
    rejections_reportsFrom collected [] store.keys
  have same : (visits store (storeEvents schema store)).flatMap (complaints schema keys) =
      store.keys.flatMap (complaintsOf schema keys store) := by
    rw [visits, storeEvents, List.filterMap_flatMap, List.flatMap_assoc]
    rfl
  rw [foldl_keep, List.nil_append, List.nil_append] at all
  rw [all, same]
  simp

def rejectedKeys (type : String) (reports : List Diagnostic) : List String :=
  (rejections reports).filterMap fun (other, key) => if other = type then some key else none

theorem rejectedKeys_run (collected : store.IsCollected) (type : String) :
    rejectedKeys type (reportsFrom schema keys store [] store.keys) =
      ((visits store (storeEvents schema store)).flatMap fun visit =>
        rejectedKeys type (complaints schema keys visit)).eraseDups := by
  rw [rejectedKeys, rejections_run collected, eraseDups_filterMap, rejections,
    List.filterMap_flatMap, List.filterMap_flatMap]
  · rfl
  · rintro ⟨first, key⟩ ⟨second, other⟩ found one another
    dsimp only at one another
    split at one
    · next here =>
      split at another
      · next there => simp_all
      · cases another
    · cases one

theorem rejectedKeys_complaints (type : String) (visit : Visit) :
    rejectedKeys type (complaints schema keys visit) =
      if visit.scope.type.name = type ∧ visit.scope.entrance ≠ .inline ∧
          isEntity schema keys visit.scope.type = true
      then unusable schema keys visit.scope.type else [] := by
  rw [rejectedKeys, rejections, complaints]
  by_cases inline : visit.scope.entrance = .inline
  · simp [inline]
  · cases entity : isEntity schema keys visit.scope.type with
    | false => simp
    | true =>
      by_cases same : visit.scope.type.name = type
      · simp [inline, same, Diagnostic.unsigned, Issue.rejection?]
      · simp [inline, same, Diagnostic.unsigned, Issue.rejection?]

end KeyFields

section Types

variable {schema : Schema} {store : Store} {scope next : Scope} {name : String} {type : NamedType}

def Schema.Knows (schema : Schema) (type : NamedType) : Prop :=
  schema.type? type.name = some type

theorem Schema.knows_of_type? (found : schema.type? name = some type) : schema.Knows type := by
  have named : type.name = name := by simpa using List.find?_some found
  rw [Knows, named, found]

theorem Schema.knows_of_fieldType? {parent : NamedType}
    (found : schema.fieldType? parent name = some type) : schema.Knows type := by
  rw [fieldType?] at found
  split at found
  · exact knows_of_type? found
  · split at found
    · exact knows_of_type? found
    · split at found
      · exact knows_of_type? found
      · obtain ⟨_, _, based⟩ := Option.bind_eq_some_iff.1 found
        exact knows_of_type? based

theorem Schema.knows_getD {found : Option NamedType} (known : schema.Knows type)
    (each : ∀ other, found = some other → schema.Knows other) :
    schema.Knows (found.getD type) := by
  cases found with
  | none => exact known
  | some other => exact each other rfl

theorem Document.knows_of_rootType? {document : Document}
    (typed : document.rootType? schema = some type) : schema.Knows type := by
  rw [rootType?] at typed
  cases kind : document.kind with
  | operation operation =>
    rw [kind] at typed
    obtain ⟨_, _, found⟩ := Option.bind_eq_some_iff.1 typed
    exact Schema.knows_of_type? found
  | fragment =>
    rw [kind] at typed
    exact Schema.knows_of_type? typed

namespace Walk

theorem Leads.knows (leads : Leads schema store scope next) (known : schema.Knows scope.type) :
    schema.Knows next.type := by
  obtain ⟨index, selection, _, follows⟩ := leads
  cases follows with
  | across => exact Schema.knows_getD known fun _ => Schema.knows_of_type?
  | inside =>
    cases selection with
    | leaf => exact known
    | branch => exact Schema.knows_getD known fun _ => Schema.knows_of_fieldType?
    | inline fragment =>
      apply Schema.knows_getD known
      intro other found
      obtain ⟨_, _, narrowed⟩ := Option.bind_eq_some_iff.1 found
      exact Schema.knows_of_type? narrowed
    | spread => exact known

theorem knows_of_reaches (known : schema.Knows scope.type)
    (reaches : ReflTransGen (Leads schema store) scope next) : schema.Knows next.type := by
  induction reaches with
  | refl => exact known
  | tail _ leads ih => exact leads.knows ih

theorem knows_of_visit_store (collected : store.IsCollected) {visit : Visit}
    (member : visit ∈ visits store (storeEvents schema store)) :
    schema.Knows visit.scope.type := by
  obtain ⟨happened, _⟩ := mem_visits.1 member
  obtain ⟨key, _, happened⟩ := List.mem_flatMap.1 happened
  obtain ⟨_, _, _, typed, _, reaches⟩ := exists_root_of_visit collected happened
  exact knows_of_reaches (Document.knows_of_rootType? typed) reaches

end Walk

end Types

/-- A type with unusable keys: it declares all keys and operations do not start from it, but some
key cannot be selected by its name alone. -/
structure NamedType.IsRejected (schema : Schema) (keys : List String) (type : NamedType) :
    Prop where
  inner : schema.isRootType type = false
  declares : type.hasFields keys = true
  unkeyed : ¬type.IsKeyed schema keys

namespace KeyFields

variable {schema : Schema} {keys : List String} {store : Store} {visit : Visit}

theorem exists_of_mem_complaints {report : Diagnostic}
    (complaint : report ∈ complaints schema keys visit) :
    ∃ key, report = .unsigned (.unusableKey key visit.scope.type.name) visit.document
      ⟨[], visit.set.position⟩ := by
  rw [complaints] at complaint
  split at complaint
  · cases complaint
  · obtain ⟨key, _, same⟩ := List.mem_map.1 complaint
    exact ⟨key, same.symm⟩

theorem isEntity_of_isRejected {type : NamedType} (rejected : type.IsRejected schema keys) :
    isEntity schema keys type = true := by
  rw [isEntity, rejected.inner, rejected.declares]
  rfl

theorem isRejected_of_unusable {type : NamedType} (entity : isEntity schema keys type = true)
    (some : unusable schema keys type ≠ []) : type.IsRejected schema keys := by
  obtain ⟨inner, declares⟩ := Bool.and_eq_true_iff.1 entity
  refine ⟨by simpa using inner, declares, ?_⟩
  intro keyed
  exact some (List.isEmpty_iff.1 (isEmpty_unusable_iff.2 keyed))

theorem rejectedKeys_of_isRejected (collected : store.IsCollected)
    (member : visit ∈ visits store (storeEvents schema store))
    (outside : visit.scope.entrance ≠ .inline)
    (rejected : visit.scope.type.IsRejected schema keys) :
    rejectedKeys visit.scope.type.name (reportsFrom schema keys store [] store.keys) =
      keys.eraseDups.filter (!schema.isBareSelectable visit.scope.type ·) := by
  have here : rejectedKeys visit.scope.type.name (complaints schema keys visit) =
      unusable schema keys visit.scope.type := by
    rw [rejectedKeys_complaints]
    exact if_pos ⟨rfl, outside, isEntity_of_isRejected rejected⟩
  have each : ∀ other ∈ visits store (storeEvents schema store),
      rejectedKeys visit.scope.type.name (complaints schema keys other) = [] ∨
        rejectedKeys visit.scope.type.name (complaints schema keys other) =
          unusable schema keys visit.scope.type := by
    intro other happened
    rw [rejectedKeys_complaints]
    split
    · next asked =>
      have known := Walk.knows_of_visit_store collected happened
      rw [Schema.Knows, asked.1, Walk.knows_of_visit_store collected member] at known
      rw [Option.some.inj known]
      exact .inr rfl
    · exact .inl rfl
  rw [rejectedKeys_run collected, eraseDups_flatMap member here each, unusable, filter_eraseDups]

theorem rejectedKeys_eq_nil (collected : store.IsCollected) {type : String}
    (none : ∀ visit ∈ visits store (storeEvents schema store), visit.scope.entrance ≠ .inline →
      visit.scope.type.IsRejected schema keys → visit.scope.type.name ≠ type) :
    rejectedKeys type (reportsFrom schema keys store [] store.keys) = [] := by
  have nothing : ((visits store (storeEvents schema store)).flatMap fun visit =>
      rejectedKeys type (complaints schema keys visit)) = [] := by
    apply List.flatMap_eq_nil_iff.2
    intro visit member
    rw [rejectedKeys_complaints]
    split
    · next asked =>
      obtain ⟨same, outside, entity⟩ := asked
      by_contra some
      exact none visit member outside (isRejected_of_unusable entity some) same
    · rfl
  rw [rejectedKeys_run collected, nothing]
  rfl

/-- A set that walks come to with a rejected type gets nothing: each walk comes to it with the same
type. -/
theorem supplement_of_isRejected (collected : store.IsCollected) (sound : store.IsSound schema)
    (member : visit ∈ visits store (storeEvents schema store))
    (rejected : visit.scope.type.IsRejected schema keys) :
    (completion schema keys).supplement store (storeEvents schema store) visit.scope.place =
      [] := by
  have unasked : ¬(storeEvents schema store).any
      ((completion schema keys).asks store visit.scope.place) = true := by
    rw [Completion.any_asks_iff]
    rintro ⟨other, happened, here, wanted⟩
    have keyed := isEmpty_unusable_iff.1 (Bool.and_eq_true_iff.1 wanted).2
    have one := Walk.isCoherent_of_visit_store collected sound (Walk.mem_visits.1 member).1
    have another := Walk.isCoherent_of_visit_store collected sound (Walk.mem_visits.1 happened).1
    rw [Walk.IsCoherent, here] at another
    rw [Walk.IsCoherent, another, Option.some.injEq, Spot.mk.injEq] at one
    rw [one.1] at keyed
    exact rejected.unkeyed keyed
  rw [Completion.supplement, if_neg unasked]

end KeyFields

namespace Sample

def user : NamedType := ⟨"User", .object ["Node"] [⟨"id", .named "ID", []⟩,
  ⟨"friend", .named "User", []⟩, ⟨"best", .named "User", []⟩]⟩

def social : Schema where
  types := [⟨"ID", .scalar⟩, ⟨"Node", .interface [] [⟨"id", .named "ID", []⟩]⟩, user,
    ⟨"Query", .object [] [⟨"node", .named "Node", []⟩]⟩]
  root kind := if kind = .query then some "Query" else none

def profilePage : Document where
  name := "Page"
  kind := .operation .query
  definition := ⟨none, .operation .query (some "Page") [], [], some ⟨1, 1⟩, ⟨some ⟨1, 12⟩,
    [.branch (.bare "node") (some ⟨2, 8⟩) [.spread ⟨"Info", [], some ⟨3, 5⟩⟩]]⟩⟩
  sourceFile := "page.graphql"

def profile : Document where
  name := "Info"
  kind := .fragment
  definition := ⟨none, .fragment "Info" "User", [], some ⟨1, 1⟩,
    ⟨some ⟨1, 23⟩, [.bare "id"]⟩⟩
  sourceFile := "info.graphql"

def profiles : Store := ⟨[⟨"Page", profilePage⟩, ⟨"Info", profile⟩], by decide⟩

def profileVisit : Visit :=
  ⟨"Page", ⟨⟨"Info", []⟩, user, ["node", "...Info"], ["Info"], .spread⟩,
    profile.definition.selectionSet⟩

def remark : Diagnostic := .unsigned (.unusableKey "friend" "User") "Page" ⟨[], some ⟨1, 23⟩⟩

theorem isCollected_profiles : profiles.IsCollected :=
  Store.isCollected_of_entries
    (List.forall_mem_cons.2 ⟨⟨profilePage.sourceFile, profilePage.definition, rfl⟩,
      List.forall_mem_singleton.2 ⟨profile.sourceFile, profile.definition, rfl⟩⟩) rfl

end Sample

namespace Pass

variable {σ : Type} {store : Store} {visitor : Visitor σ}

/-- Adding keys reports a type once for each key of it that cannot be used, if a walk that changes
nothing comes to the type otherwise than through an inline fragment. It reports no other types. In
documents that validation lets pass, sets of such types are left alone. -/
theorem addKeyFields_rejects (schema : Schema) (keys : List String) (collected : store.IsCollected)
    (still : visitor.IsStill) (memory : σ) :
    ∃ added given, (addKeyFields keys).run schema store = ⟨store.supply added, .ok given⟩ ∧
      (∀ visit ∈ survey schema visitor store memory, ¬store.IsInlineBody visit.scope.place →
        visit.scope.type.IsRejected schema keys →
        KeyFields.rejectedKeys visit.scope.type.name given =
          keys.eraseDups.filter (!schema.isBareSelectable visit.scope.type ·)) ∧
      (∀ type, (∀ visit ∈ survey schema visitor store memory,
          ¬store.IsInlineBody visit.scope.place → visit.scope.type.IsRejected schema keys →
          visit.scope.type.name ≠ type) →
        KeyFields.rejectedKeys type given = []) ∧
      ∀ reports, validateDocuments.run schema store = ⟨store, .ok reports⟩ →
        anyFatal reports = false → ∀ visit ∈ survey schema visitor store memory,
          visit.scope.type.IsRejected schema keys → added visit.scope.place = [] := by
  rw [Walk.survey_eq schema collected still]
  have bodies : ∀ visit ∈ visits store (storeEvents schema store),
      visit.scope.entrance = .inline ↔ store.IsInlineBody visit.scope.place := by
    intro visit member
    obtain ⟨_, _, reaches⟩ := Walk.reaches_of_visit_store collected (Walk.mem_visits.1 member).1
    exact Walk.entrance_eq_inline_iff reaches
  by_cases used : keys = []
  · subst used
    have none (type : NamedType) : ¬type.IsRejected schema [] :=
      fun rejected => rejected.unkeyed fun _ member => nomatch member
    refine ⟨fun _ => [], [], ?_, fun visit _ _ rejected => absurd rejected (none _), fun _ _ => rfl,
      fun _ _ _ visit _ rejected => absurd rejected (none _)⟩
    rw [Store.supply_nil]
    exact KeyFields.run_nil schema store
  · refine ⟨_, _, KeyFields.run_eq used collected, ?_, ?_, ?_⟩
    · intro visit member outside rejected
      exact KeyFields.rejectedKeys_of_isRejected collected member (mt (bodies visit member).1 outside)
        rejected
    · intro type none
      apply KeyFields.rejectedKeys_eq_nil collected
      intro visit member outside
      exact none visit member (mt (bodies visit member).2 outside)
    · intro reports ran valid visit member rejected
      rw [Validation.run_eq schema collected] at ran
      cases ran
      have sound := Validation.isSound_of_findings collected valid
      exact KeyFields.supplement_of_isRejected collected sound member rejected

theorem addKeyFields_rejects_profiles :
    ∃ added given,
      (addKeyFields ["best", "id", "friend", "best"]).run Sample.social Sample.profiles =
        ⟨Sample.profiles.supply added, .ok given⟩ ∧
      KeyFields.rejectedKeys "User" given = ["best", "friend"] ∧ added ⟨"Info", []⟩ = [] := by
  have still : Sample.counting.IsStill := fun _ _ => rfl
  obtain ⟨added, given, ran, rejects, _, kept⟩ :=
    addKeyFields_rejects Sample.social ["best", "id", "friend", "best"] Sample.isCollected_profiles
      still 0
  have member : Sample.profileVisit ∈
      survey Sample.social Sample.counting Sample.profiles 0 := List.mem_of_getElem? (i := 2) rfl
  have outside : ¬Sample.profiles.IsInlineBody Sample.profileVisit.scope.place := by
    rintro ⟨path, index, fragment, position, selections, same, _⟩
    simp [Sample.profileVisit] at same
  have rejected : Sample.user.IsRejected Sample.social ["best", "id", "friend", "best"] :=
    KeyFields.isRejected_of_unusable (by decide +kernel) (by decide +kernel)
  have twice := rejects Sample.profileVisit member outside rejected
  refine ⟨added, given, ran, twice.trans (by decide +kernel), ?_⟩
  exact kept _ rfl rfl Sample.profileVisit member rejected

theorem addKeyFields_social :
    (∃ reports, validateDocuments.run Sample.social Sample.profiles =
      ⟨Sample.profiles, .ok reports⟩ ∧ anyFatal reports = false) ∧
    ∃ next given, (addKeyFields ["friend", "best"]).run Sample.social Sample.profiles =
        ⟨next, .ok given⟩ ∧
      given.map (·.issue) = [.unusableKey "friend" "User", .unusableKey "best" "User"] :=
  ⟨⟨_, rfl, rfl⟩, _, _, rfl, rfl⟩

/-- What adding keys reports about a key of a type points to a set that the walk of the document
with the given name comes to with that type. The set belongs to the document, or to a fragment that
spreads lead to from there. -/
theorem addKeyFields_points (schema : Schema) (keys : List String) (collected : store.IsCollected)
    (still : visitor.IsStill) (memory : σ) :
    ∃ added given, (addKeyFields keys).run schema store = ⟨store.supply added, .ok given⟩ ∧
      ∀ report ∈ given, ∀ key type, report.issue = .unusableKey key type →
        report.document ∈ store.keys ∧
        ∃ visit ∈ (trace schema visitor store report.document memory).memory.2,
          visit.scope.type.name = type ∧ store.set? visit.scope.place = some visit.set ∧
          report.location = ⟨[], visit.set.position⟩ ∧
          ReflTransGen store.LeadsTo report.document visit.scope.place.key := by
  by_cases used : keys = []
  · subst used
    refine ⟨fun _ => [], [], ?_, fun _ member => nomatch member⟩
    rw [Store.supply_nil]
    exact KeyFields.run_nil schema store
  · refine ⟨_, _, KeyFields.run_eq used collected, fun report member key type issue => ?_⟩
    have rejects : report.issue.rejection? ≠ none := by simp [issue, Issue.rejection?]
    obtain ⟨holder, listed, visit, happened, complaint⟩ :=
      KeyFields.exists_visit_of_report collected member rejects
    obtain ⟨inside, same⟩ := Walk.mem_visits.1 happened
    obtain ⟨document, root, found, _, named, reaches⟩ := Walk.exists_root_of_visit collected inside
    have here : visit.document = holder := named.trans (collected.name_of_get? found)
    obtain ⟨set, there⟩ := Option.isSome_iff_exists.1 (Walk.found_of_visit collected inside)
    obtain ⟨other, rfl⟩ := KeyFields.exists_of_mem_complaints complaint
    cases issue
    have watched := (Walk.trace_eq schema collected still holder memory).2.1
    rw [Diagnostic.unsigned, here]
    refine ⟨listed, visit, watched ▸ happened, rfl, ?_, rfl,
      Walk.leadsTo_of_reaches collected reaches⟩
    rw [there, same, Store.setAt_of_set? there]

theorem addKeyFields_points_profiles :
    ∃ added, (addKeyFields ["friend"]).run Sample.social Sample.profiles =
        ⟨Sample.profiles.supply added, .ok [Sample.remark]⟩ ∧
      ∃ visit ∈ (trace Sample.social Sample.counting Sample.profiles "Page" 0).memory.2,
        visit.scope.type.name = "User" ∧ Sample.remark.location = ⟨[], visit.set.position⟩ ∧
        ReflTransGen Sample.profiles.LeadsTo "Page" visit.scope.place.key := by
  have still : Sample.counting.IsStill := fun _ _ => rfl
  obtain ⟨added, given, ran, points⟩ :=
    addKeyFields_points Sample.social ["friend"] Sample.isCollected_profiles still 0
  have same : given = [Sample.remark] := by
    have reported := congrArg PassOutcome.reports ran
    exact (Except.ok.inj reported).symm
  subst same
  obtain ⟨_, visit, happened, named, _, location, leads⟩ :=
    points Sample.remark (List.mem_singleton_self _) "friend" "User" rfl
  exact ⟨added, ran, visit, happened, named, location, leads⟩

/-- The document that a report names need not have a set where it points to. -/
theorem addKeyFields_remark :
    Sample.profiles.IsCollected ∧
    (∃ next, (addKeyFields ["friend"]).run Sample.social Sample.profiles =
      ⟨next, .ok [Sample.remark]⟩) ∧
    Sample.remark.issue = .unusableKey "friend" "User" ∧
    ∀ path set, Sample.profiles.set? ⟨Sample.remark.document, path⟩ = some set →
      Sample.remark.location ≠ ⟨[], set.position⟩ := by
  refine ⟨Sample.isCollected_profiles, ⟨_, rfl⟩, rfl, ?_⟩
  intro path set there
  have inside : Sample.profilePage.definition.selectionSet.at? path = some set := there
  cases path with
  | nil =>
    cases inside
    decide
  | cons index rest =>
    cases index with
    | succ index => cases inside
    | zero =>
      cases rest with
      | nil =>
        cases inside
        decide
      | cons index rest => cases index <;> cases inside

end Pass

end DocumentNormalizer
