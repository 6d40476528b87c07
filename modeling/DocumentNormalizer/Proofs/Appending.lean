import DocumentNormalizer.Proofs.Acceptance

namespace DocumentNormalizer

namespace Selection

def outline (selection : Selection) : Selection := selection.mapSelections fun _ => []

variable {selection : Selection}

@[simp]
theorem outline_mapSelections (f : List Selection → List Selection) (selection : Selection) :
    (selection.mapSelections f).outline = selection.outline := by
  cases selection <;> rfl

@[simp]
theorem isSome_set?_outline (selection : Selection) :
    selection.outline.set?.isSome = selection.set?.isSome := by
  cases selection <;> rfl

theorem set?_mapSelections {inner : SelectionSet} (f : List Selection → List Selection)
    (has : selection.set? = some inner) :
    (selection.mapSelections f).set? = some ⟨inner.position, f inner.selections⟩ := by
  cases selection with
  | leaf => cases has
  | branch => cases has; rfl
  | inline => cases has; rfl
  | spread => cases has

theorem map_outline_modify (f : List Selection → List Selection) (selections : List Selection)
    (index : Nat) :
    (selections.modify index (·.mapSelections f)).map outline = selections.map outline := by
  apply List.ext_getElem?
  intro i
  rw [List.getElem?_map, List.getElem?_modify, List.getElem?_map, Option.map_eq_map, Option.map_map]
  congr 1
  funext selection
  by_cases same : index = i <;> simp [same]

end Selection

namespace SelectionSet

def outlines (set : SelectionSet) : List Selection := set.selections.map Selection.outline

theorem getElem?_outlines (set : SelectionSet) (index : Nat) :
    set.outlines[index]? = set.selections[index]?.map Selection.outline :=
  List.getElem?_map

theorem at?_appendAt {set inner : SelectionSet} {path : List Nat} (added : List Selection)
    (other : List Nat) (found : set.at? path = some inner) :
    ∃ later : SelectionSet,
      (⟨set.position, Selection.appendAt added other set.selections⟩ : SelectionSet).at? path =
        some later ∧
      later.outlines =
        inner.outlines ++ if other = path then added.map Selection.outline else [] := by
  induction path generalizing set other with
  | nil =>
    cases found
    refine ⟨_, rfl, ?_⟩
    cases other with
    | nil => simp [outlines, Selection.appendAt]
    | cons index rest => simp [outlines, Selection.appendAt, Selection.map_outline_modify]
  | cons index path ih =>
    rw [at?] at found
    cases chosen : set.selections[index]? with
    | none => simp [chosen] at found
    | some selection =>
      cases has : selection.set? with
      | none => simp [chosen, has] at found
      | some between =>
        simp only [chosen, has] at found
        cases other with
        | nil =>
          have kept : (set.selections ++ added)[index]? = some selection := by
            obtain ⟨inside, _⟩ := List.getElem?_eq_some_iff.1 chosen
            rw [List.getElem?_append_left inside, chosen]
          refine ⟨inner, ?_, by simp⟩
          simp only [Selection.appendAt, at?, kept, has, found]
        | cons i rest =>
          by_cases same : i = index
          · subst same
            obtain ⟨later, there, grown⟩ := ih rest found
            have below := Selection.set?_mapSelections (Selection.appendAt added rest) has
            refine ⟨later, ?_, by simpa using grown⟩
            simp only [Selection.appendAt, at?, List.getElem?_modify, chosen, if_true,
              Option.map_eq_map, Option.map_some, below, there]
          · refine ⟨inner, ?_, by simp [same]⟩
            simp only [Selection.appendAt, at?, List.getElem?_modify, chosen, same, if_false,
              Option.map_eq_map, Option.map_some, has, found]

end SelectionSet

namespace Store

variable {store : Store}

theorem get?_append (store : Store) (other : Place) (added : List Selection) (key : String) :
    (store.append other added).get? key = (store.get? key).map fun document =>
      if key = other.key then
        { document with definition := document.definition.appendAt other.path added }
      else document := by
  rw [append, modify, get?_mapDocuments]

theorem set?_append {place : Place} {set : SelectionSet} (other : Place) (added : List Selection)
    (found : store.set? place = some set) :
    ∃ later, (store.append other added).set? place = some later ∧
      later.outlines =
        set.outlines ++ if other = place then added.map Selection.outline else [] := by
  obtain ⟨document, there, inside⟩ := Option.bind_eq_some_iff.1 found
  obtain ⟨key, path⟩ := place
  obtain ⟨holder, rest⟩ := other
  simp only [set?, get?_append, there]
  by_cases same : key = holder
  · subst same
    obtain ⟨later, below, grown⟩ := SelectionSet.at?_appendAt added rest inside
    refine ⟨later, ?_, by simpa using grown⟩
    simp only [Option.map_some, if_true, Option.bind_eq_bind, Option.bind_some]
    exact below
  · have apart : (⟨holder, rest⟩ : Place) ≠ ⟨key, path⟩ := by
      intro whole
      exact same (congrArg Place.key whole).symm
    refine ⟨set, ?_, by simp [apart]⟩
    simpa [same] using inside

theorem hasFragment_append (other : Place) (added : List Selection) (name : String) :
    (store.append other added).HasFragment name ↔ store.HasFragment name := by
  simp only [HasFragment, get?_append, Option.map_eq_some_iff]
  constructor
  · rintro ⟨document, ⟨before, found, rfl⟩, fragment⟩
    refine ⟨before, found, ?_⟩
    split at fragment <;> exact fragment
  · rintro ⟨document, found, fragment⟩
    refine ⟨_, ⟨document, found, rfl⟩, ?_⟩
    split <;> exact fragment

theorem hasFragment_of_fragment? {name condition : String}
    (found : store.fragment? name = .ok (some condition)) : store.HasFragment name := by
  rw [fragment?] at found
  cases there : store.get? name with
  | none => rw [there] at found; cases found
  | some document =>
    rw [there] at found
    refine ⟨document, there, ?_⟩
    cases kind : document.kind with
    | fragment => rfl
    | operation => simp [kind, DocumentKind.isFragment] at found

theorem not_hasFragment_of_fragment? {name : String} (missing : store.fragment? name = .ok none) :
    ¬store.HasFragment name := by
  rintro ⟨document, there, fragment⟩
  rw [fragment?, there] at missing
  simp only [fragment, DocumentKind.isFragment, if_true] at missing
  split at missing <;> cases missing

/-- The set at a place opens the sets below it and the fragments that it spreads. -/
inductive Opens (store : Store) (place : Place) : Place → Prop
  | inside {set inner : SelectionSet} {index : Nat} {selection : Selection}
    (found : store.set? place = some set) (chosen : set.selections[index]? = some selection)
    (has : selection.set? = some inner) :
    Opens store place ⟨place.key, place.path ++ [index]⟩
  | across {set : SelectionSet} {index : Nat} {use : Spread} (found : store.set? place = some set)
    (chosen : set.selections[index]? = some (.spread use)) (known : store.HasFragment use.name) :
    Opens store place ⟨use.name, []⟩

end Store

end DocumentNormalizer
