import DocumentNormalizer.Yaml.Value
import Mathlib.Data.List.Basic

namespace DocumentNormalizer.Yaml

/-- Tags that every text fits, or that no text has a value under. -/
def Tag.isPlain : Tag → Bool
  | .truth | .integer | .number | .timestamp | .value => false
  | _ => true

theorem Atom.ofText_plain {tag : Tag} {text : List CodePoint} (plain : tag.isPlain = true) :
    (∃ atom, ofText tag text = .ok atom) ∨ ∃ fault, ofText tag text = malformed fault := by
  cases tag with
  | truth => cases plain
  | integer => cases plain
  | number => cases plain
  | timestamp => cases plain
  | value => cases plain
  | binary =>
    show (∃ atom, ofBinary text = .ok atom) ∨ ∃ fault, ofBinary text = malformed fault
    rw [ofBinary]
    split
    · exact .inl ⟨_, rfl⟩
    · exact .inr ⟨_, rfl⟩
  | null => exact .inl ⟨_, rfl⟩
  | text => exact .inl ⟨_, rfl⟩
  | list => exact .inr ⟨_, rfl⟩
  | mapping => exact .inr ⟨_, rfl⟩
  | set => exact .inr ⟨_, rfl⟩
  | pairs => exact .inr ⟨_, rfl⟩
  | orderedPairs => exact .inr ⟨_, rfl⟩
  | merge => exact .inr ⟨_, rfl⟩
  | other name => exact .inr ⟨_, rfl⟩

/-- No node has a tag that a text could misfit. -/
def Construction.IsPlain (state : Construction) : Prop :=
  ∀ node ∈ state.nodes, node.tag.isPlain = true

/-- With plain nodes, an action ends well and leaves plain nodes, or finds a fault. -/
structure Construct.Fits {α : Type} (action : Construct α) (good : α → Prop) : Prop where
  run : ∀ {state : Construction}, state.IsPlain →
    match action.run state with
    | .ok (value, after) => good value ∧ after.IsPlain
    | .error (.malformed _) => True
    | .error (.misfit _) => False

namespace Construct

variable {α β : Type} {action : Construct α} {good : α → Prop} {last : β → Prop}

namespace Fits

theorem pure {value : α} (holds : good value) : Fits (pure value) good := ⟨fun plain => ⟨holds, plain⟩⟩

theorem fail {fault : Fault} : Fits (Construct.fail fault) good := ⟨fun _ => trivial⟩

theorem bind {f : α → Construct β} (first : Fits action good)
    (further : ∀ value, good value → Fits (f value) last) : Fits (action >>= f) last := by
  constructor
  intro state plain
  have holds := first.run plain
  show match (action.run state >>= fun result => (f result.1).run result.2 : Load _) with
    | .ok (value, after) => _
    | .error (.malformed _) => True
    | .error (.misfit _) => False
  cases ended : action.run state with
  | error fault =>
    rw [ended] at holds
    cases fault with
    | malformed fault => trivial
    | misfit misfit => exact holds
  | ok result =>
    rw [ended] at holds
    exact (further result.1 holds.1).run holds.2

theorem get {f : Construction → Construct β} (further : ∀ state : Construction, state.IsPlain →
    Fits (f state) last) : Fits (MonadState.get >>= f) last := by
  constructor
  intro state plain
  exact (further state plain).run plain

theorem modify {f : Construction → Construction} (keeps : ∀ state : Construction, state.IsPlain →
    (f state).IsPlain) : Fits (modify f) fun _ => True := by
  constructor
  intro state plain
  exact ⟨trivial, keeps state plain⟩

theorem discard (holds : Fits action good) : Fits (discard action) fun _ => True := by
  rw [Functor.discard, map_const, Function.comp_apply, ← bind_pure_comp]
  apply holds.bind
  intro _ _
  exact pure trivial

theorem forM {γ : Type} {f : γ → Construct PUnit} {items : List γ}
    (each : ∀ item ∈ items, Fits (f item) fun _ => True) : Fits (items.forM f) fun _ => True := by
  induction items with
  | nil => exact pure trivial
  | cons item rest ih =>
    obtain ⟨first, others⟩ := List.forall_mem_cons.1 each
    exact first.bind fun _ _ => ih others

theorem mapM {γ : Type} {f : γ → Construct α} {items : List γ}
    (each : ∀ item, Fits (f item) fun _ => True) : Fits (items.mapM f) fun _ => True := by
  induction items with
  | nil => exact pure trivial
  | cons item rest ih =>
    rw [List.mapM_cons]
    exact (each item).bind fun _ _ => ih.bind fun _ _ => pure trivial

theorem foldlM {γ : Type} {f : α → γ → Construct α} {items : List γ} {first : α}
    (each : ∀ value item, Fits (f value item) fun _ => True) :
    Fits (items.foldlM f first) fun _ => True := by
  induction items generalizing first with
  | nil => exact pure trivial
  | cons item rest ih =>
    rw [List.foldlM_cons]
    exact (each first item).bind fun _ _ => ih

theorem forIn {γ : Type} {f : γ → PUnit → Construct (ForInStep PUnit)} {items : List γ}
    (each : ∀ item, Fits (f item ⟨⟩) fun _ => True) :
    Fits (forIn items PUnit.unit f) fun _ => True := by
  induction items with
  | nil => exact pure trivial
  | cons item rest ih =>
    rw [List.forIn_cons]
    apply (each item).bind
    intro step _
    cases step with
    | done value => exact pure trivial
    | yield value => exact ih

theorem lift {load : Load α} (fits : (∃ value, load = .ok value) ∨ ∃ fault, load = malformed fault) :
    Fits (liftM load) fun _ => True := by
  constructor
  intro state plain
  rcases fits with ⟨value, rfl⟩ | ⟨fault, rfl⟩
  · exact ⟨trivial, plain⟩
  · trivial

end Fits

theorem fits_node (id : NodeId) : Fits (node id) fun node => node.tag.isPlain = true := by
  apply Fits.get
  intro state plain
  apply Fits.pure
  cases found : state.nodes[id]? with
  | none => rfl
  | some node => exact plain node (Array.mem_of_getElem? found)

theorem fits_entries (id : NodeId) : Fits (entries id) fun _ => True := by
  apply (fits_node id).bind
  intro node _
  cases node <;> exact Fits.pure trivial

theorem fits_replace (id : NodeId) {node : Node} (fits : node.tag.isPlain = true) :
    Fits (replace id node) fun _ => True := by
  apply Fits.modify
  intro state plain other member
  rcases Array.mem_or_eq_of_mem_setIfInBounds member with old | new
  · exact plain other old
  · rw [new]
    exact fits

theorem fits_setEntries (id : NodeId) (entries : List (NodeId × NodeId)) :
    Fits (setEntries id entries) fun _ => True := by
  apply (fits_node id).bind
  intro node plain
  cases node with
  | scalar tag text => exact Fits.pure trivial
  | sequence tag items => exact Fits.pure trivial
  | mapping tag old => exact fits_replace id plain

theorem fits_store (id : NodeId) (object : Object) : Fits (store id object) fun _ => True := by
  unfold store
  apply Fits.bind
  · apply Fits.modify
    intro state plain
    exact plain
  · intro _ _
    exact Fits.pure trivial

theorem fits_storeEmpty (id : NodeId) (object : Object) :
    Fits (storeEmpty id object) fun _ => True := by
  unfold storeEmpty
  apply Fits.bind
  · apply Fits.modify
    intro state plain
    exact plain
  · intro _ _
    exact fits_store id object

theorem fits_takeMerge? (id : NodeId) : Fits (takeMerge? id) fun _ => True := by
  apply (fits_entries id).bind
  intro entries _
  apply Fits.get
  intro state _
  dsimp only
  split
  · exact Fits.pure trivial
  · apply (fits_setEntries id _).bind
    intro _ _
    exact Fits.pure trivial

theorem fits_plainKeys (id : NodeId) : Fits (plainKeys id) fun _ => True := by
  unfold plainKeys
  apply (fits_entries id).bind
  intro entries _
  apply Fits.bind
  · apply Fits.forIn
    intro entry
    obtain ⟨key, value⟩ := entry
    dsimp only
    apply (fits_node key).bind
    intro node _
    split
    · apply (fits_replace key rfl).bind
      intro _ _
      exact Fits.pure trivial
    · apply (fits_replace key rfl).bind
      intro _ _
      exact Fits.pure trivial
    · apply (fits_replace key rfl).bind
      intro _ _
      exact Fits.pure trivial
    · exact Fits.pure trivial
  · intro _ _
    exact Fits.pure trivial

theorem fits_merged {flatten : NodeId → Construct Unit} (id : NodeId)
    (flattens : ∀ id, Fits (flatten id) fun _ => True) : Fits (merged flatten id) fun _ => True := by
  unfold merged
  extract_lets ofMapping
  have fits (id : NodeId) : Fits (ofMapping id) fun _ => True := by
    apply (fits_node id).bind
    intro node _
    cases node with
    | mapping tag old =>
      apply (flattens id).bind
      intro _ _
      exact fits_entries id
    | scalar tag text => exact Fits.fail
    | sequence tag items => exact Fits.fail
  apply (fits_node id).bind
  intro node _
  cases node with
  | sequence tag items =>
    apply (Fits.mapM fits).bind
    intro _ _
    exact Fits.pure trivial
  | scalar tag text => exact fits id
  | mapping tag old => exact fits id

theorem fits_flatten (bound : Nat) (id : NodeId) : Fits (flatten bound id) fun _ => True := by
  induction bound generalizing id with
  | zero => exact Fits.pure trivial
  | succ bound ih =>
    unfold flatten
    apply (fits_takeMerge? id).bind
    intro source? _
    cases source? with
    | none => exact fits_plainKeys id
    | some source =>
      apply (fits_merged source ih).bind
      intro before _
      apply (ih id).bind
      intro _ _
      apply (fits_entries id).bind
      intro entries _
      exact fits_setEntries id _

theorem fits_entryCount : Fits entryCount fun _ => True := by
  apply Fits.get
  intro state _
  exact Fits.pure trivial

theorem fits_textUnder (tag : Tag) (bound : Nat) (id : NodeId) :
    Fits (textUnder tag (bound + 1) id) fun _ => True := by
  unfold textUnder
  apply Fits.get
  intro state plain
  apply (fits_node id).bind
  intro node _
  cases node with
  | scalar other text => exact Fits.pure trivial
  | sequence other items => exact Fits.fail
  | mapping other entries =>
    dsimp only
    split
    · next valued =>
      have same := List.find?_some valued
      obtain ⟨node, found, value⟩ := Option.map_eq_some_iff.1 (of_decide_eq_true same)
      have fits := plain node (Array.mem_of_getElem? found)
      rw [value] at fits
      cases fits
    · exact Fits.fail

theorem fits_atom (id : NodeId) {node : Node} (fits : node.tag.isPlain = true) :
    Fits (atom id node) fun _ => True := by
  unfold atom
  apply Fits.get
  intro state _
  apply (fits_textUnder node.tag _ id).bind
  intro text _
  have untimed (tag : Tag) (plain : tag.isPlain = true) : tag ≠ .timestamp := by
    intro same
    rw [same] at plain
    cases plain
  cases node with
  | scalar tag own => exact Fits.lift (Atom.ofText_plain fits)
  | sequence tag items =>
    dsimp only
    rw [if_neg (untimed tag fits)]
    exact Fits.lift (Atom.ofText_plain fits)
  | mapping tag entries =>
    dsimp only
    rw [if_neg (untimed tag fits)]
    exact Fits.lift (Atom.ofText_plain fits)

theorem fits_object (id : NodeId) : Fits (object id) fun _ => True := by
  unfold object
  apply Fits.get
  intro state _
  split
  · exact Fits.pure trivial
  · apply (fits_node id).bind
    intro node fits
    split
    · exact fits_storeEmpty id _
    · exact fits_storeEmpty id _
    · exact fits_storeEmpty id _
    · exact fits_storeEmpty id _
    · exact fits_storeEmpty id _
    · exact Fits.fail
    · exact Fits.fail
    · exact Fits.fail
    · apply (fits_atom id fits).bind
      intro atom _
      exact fits_store id _

theorem fits_keyAtom (id : NodeId) : Fits (keyAtom id) fun _ => True := by
  unfold keyAtom
  apply (fits_object id).bind
  intro object _
  cases object with
  | atom atom => exact Fits.pure trivial
  | list items => exact Fits.fail
  | pairs count => exact Fits.fail
  | mapping entries => exact Fits.fail
  | set members => exact Fits.fail

theorem fits_filledEntries (id : NodeId) : Fits (filledEntries id) fun _ => True := by
  unfold filledEntries
  apply (fits_node id).bind
  intro node _
  cases node with
  | scalar tag text => exact Fits.fail
  | sequence tag items => exact Fits.fail
  | mapping tag old =>
    apply fits_entryCount.bind
    intro count _
    apply (fits_flatten _ id).bind
    intro _ _
    apply (fits_entries id).bind
    intro entries _
    apply Fits.bind
    · apply Fits.forIn
      intro entry
      apply (fits_keyAtom entry.1).bind
      intro _ _
      apply (fits_object entry.2).bind
      intro _ _
      exact Fits.pure trivial
    · intro _ _
      exact Fits.pure trivial

theorem fits_distinct (keys : List NodeId) : Fits (distinct keys) fun _ => True := by
  unfold distinct
  apply Fits.bind
  · apply Fits.foldlM
    intro members key
    apply (fits_keyAtom key).bind
    intro atom _
    exact Fits.pure trivial
  · intro members _
    exact Fits.pure trivial

theorem fits_pair (id : NodeId) : Fits (pair id) fun _ => True := by
  unfold pair
  apply (fits_entries id).bind
  intro entries _
  split
  · apply (fits_object _).bind
    intro _ _
    apply (fits_object _).bind
    intro _ _
    exact Fits.pure trivial
  · exact Fits.fail

theorem fits_fill (id : NodeId) : Fits (fill id) fun _ => True := by
  unfold fill
  apply (fits_node id).bind
  intro node _
  have stored (object : Object) : Fits (discard (store id object)) fun _ => True :=
    (fits_store id object).discard
  split
  · apply (fits_filledEntries id).bind
    intro entries _
    exact stored _
  · apply (fits_filledEntries id).bind
    intro entries _
    apply (fits_distinct _).bind
    intro members _
    exact stored _
  · next tag items _ =>
    apply Fits.bind
    · apply Fits.forM
      intro item _
      exact (fits_object item).discard
    · intro _ _
      exact stored _
  · next tag items _ =>
    apply Fits.bind
    · apply Fits.forM
      intro item _
      exact fits_pair item
    · intro _ _
      exact stored _
  · exact Fits.fail

theorem fits_fillAll (bound : Nat) : Fits (fillAll bound) fun _ => True := by
  induction bound with
  | zero => exact Fits.pure trivial
  | succ bound ih =>
    unfold fillAll
    apply Fits.get
    intro state _
    split
    · exact Fits.pure trivial
    · apply Fits.bind
      · apply Fits.modify
        intro state plain
        exact plain
      · intro _ _
        apply Fits.bind
        · apply Fits.forM
          intro id _
          exact fits_fill id
        · intro _ _
          exact ih

end Construct

theorem NodeTable.objects_of_plain {table : NodeTable}
    (plain : ∀ node ∈ table.nodes, node.tag.isPlain = true) :
    (∃ objects, table.objects = .ok objects) ∨ ∃ fault, table.objects = malformed fault := by
  have built : Construct.Fits (do
      let _ ← Construct.object table.root
      Construct.fillAll (table.nodes.size + 1)) fun _ => True := by
    apply (Construct.fits_object table.root).bind
    intro _ _
    exact Construct.fits_fillAll _
  have start : Construction.IsPlain ⟨table.nodes, .replicate table.nodes.size none, []⟩ := plain
  have ended := built.run start
  unfold objects
  dsimp only
  split at ended
  · next value after same =>
    rw [same]
    exact .inl ⟨_, rfl⟩
  · next fault same =>
    rw [same]
    exact .inr ⟨fault, rfl⟩
  · exact ended.elim

/-- A misfit is found where a text is read, or it comes from a node whose tag is not plain. -/
theorem Value.origin_of_misfit {text : String} {misfit : Misfit}
    (failed : Value.ofText text = .error (.misfit misfit)) :
    NodeTable.ofText? text.toList = .error (.misfit misfit) ∨
      ∃ table, NodeTable.ofText? text.toList = .ok (some table) ∧
        ∃ node ∈ table.nodes, node.tag.isPlain = false := by
  unfold Value.ofText at failed
  cases parsed : NodeTable.ofText? text.toList with
  | error fault =>
    rw [parsed] at failed
    cases failed
    exact .inl rfl
  | ok table? =>
    rw [parsed] at failed
    cases table? with
    | none => cases failed
    | some table =>
      refine .inr ⟨table, rfl, ?_⟩
      by_contra none
      have plain : ∀ node ∈ table.nodes, node.tag.isPlain = true := by
        intro node member
        by_contra loose
        exact none ⟨node, member, (Bool.not_eq_true _).mp loose⟩
      rcases NodeTable.objects_of_plain plain with ⟨objects, built⟩ | ⟨fault, built⟩
      · dsimp only [Bind.bind, Except.bind] at failed
        rw [built] at failed
        cases failed
      · dsimp only [Bind.bind, Except.bind] at failed
        rw [built] at failed
        cases failed

end DocumentNormalizer.Yaml
