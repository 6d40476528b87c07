import DocumentNormalizer.Document.Basic

namespace DocumentNormalizer

def Argument.unplaced (argument : Argument) : Argument := { argument with position := .start }

def Directive.unplaced (directive : Directive) : Directive where
  name := directive.name
  arguments := directive.arguments.map Argument.unplaced
  position := .start

def Field.unplaced (field : Field) : Field where
  label := field.label
  name := field.name
  arguments := field.arguments.map Argument.unplaced
  directives := field.directives.map Directive.unplaced
  position := none

def Spread.unplaced (use : Spread) : Spread :=
  ⟨use.name, use.directives.map Directive.unplaced, none⟩

def InlineFragment.unplaced (fragment : InlineFragment) : InlineFragment :=
  ⟨fragment.typeCondition, fragment.directives.map Directive.unplaced, none⟩

namespace Selection

mutual

def unplaced : Selection → Selection
  | .leaf field => .leaf field.unplaced
  | .branch field _ selections => .branch field.unplaced none (unplacedAll selections)
  | .inline fragment _ selections => .inline fragment.unplaced none (unplacedAll selections)
  | .spread use => .spread use.unplaced

def unplacedAll : List Selection → List Selection
  | [] => []
  | head :: rest => head.unplaced :: unplacedAll rest

end

theorem unplacedAll_eq_map (selections : List Selection) :
    unplacedAll selections = selections.map unplaced := by
  induction selections with
  | nil => rfl
  | cons head rest ih => rw [unplacedAll, ih, List.map_cons]

end Selection

def SelectionSet.unplaced (set : SelectionSet) : SelectionSet :=
  ⟨none, Selection.unplacedAll set.selections⟩

def VariableDefinition.unplaced (declared : VariableDefinition) : VariableDefinition :=
  { declared with directives := declared.directives.map Directive.unplaced }

def Heading.unplaced : Heading → Heading
  | .operation kind name declared => .operation kind name (declared.map VariableDefinition.unplaced)
  | .fragment name typeCondition => .fragment name typeCondition

/-- A definition as if it had not been read from anywhere. -/
def Definition.unplaced (definition : Definition) : Definition where
  description := definition.description
  heading := definition.heading.unplaced
  directives := definition.directives.map Directive.unplaced
  position := none
  selectionSet := definition.selectionSet.unplaced

namespace Printer

theorem map_argument_unplaced (given : List Argument) :
    (given.map Argument.unplaced).map argument = given.map argument := by
  rw [List.map_map]
  rfl

theorem directives_unplaced (given : List Directive) :
    directives (given.map Directive.unplaced) = directives given := by
  have each (use : Directive) : directive use.unplaced = directive use := by
    rw [directive, Directive.unplaced, map_argument_unplaced, directive]
  rw [directives, List.map_map, directives]
  exact congrArg _ (List.map_congr_left fun use _ => each use)

theorem fieldHead_unplaced (field : Field) : fieldHead field.unplaced = fieldHead field := by
  rw [fieldHead, Field.unplaced, map_argument_unplaced, fieldHead]

mutual

theorem selection_unplaced (given : Selection) : selection given.unplaced = selection given := by
  cases given with
  | leaf field =>
    rw [Selection.unplaced, selection, fieldHead_unplaced, Field.unplaced, directives_unplaced,
      selection]
  | branch field position children =>
    rw [Selection.unplaced, selection, fieldHead_unplaced, Field.unplaced, directives_unplaced,
      selections_unplaced, selection]
  | inline fragment position children =>
    rw [Selection.unplaced, selection, InlineFragment.unplaced, directives_unplaced,
      selections_unplaced, selection]
  | spread use =>
    rw [Selection.unplaced, selection, Spread.unplaced, directives_unplaced, selection]

theorem selections_unplaced (given : List Selection) :
    selections (Selection.unplacedAll given) = selections given := by
  cases given with
  | nil => rfl
  | cons head rest =>
    rw [Selection.unplacedAll, selections, selection_unplaced, selections_unplaced, selections]

end

theorem variableDefinitions_unplaced (declared : List VariableDefinition) :
    variableDefinitions (declared.map VariableDefinition.unplaced) =
      variableDefinitions declared := by
  have each (variable_ : VariableDefinition) :
      variableDefinition variable_.unplaced = variableDefinition variable_ := by
    rw [variableDefinition, VariableDefinition.unplaced, directives_unplaced, variableDefinition]
  have all : (declared.map VariableDefinition.unplaced).map variableDefinition =
      declared.map variableDefinition := by
    rw [List.map_map]
    exact List.map_congr_left fun variable_ _ => each variable_
  rw [variableDefinitions, all, variableDefinitions]

theorem heading_unplaced (given : Definition) : heading given.unplaced = heading given := by
  obtain ⟨description, heading, directives, position, set⟩ := given
  cases heading with
  | operation kind name declared =>
    simp only [Printer.heading, Definition.unplaced, Heading.unplaced, variableDefinitions_unplaced,
      directives_unplaced]
  | fragment name condition =>
    simp only [Printer.heading, Definition.unplaced, Heading.unplaced, directives_unplaced]

theorem definition_unplaced (given : Definition) :
    definition given.unplaced = definition given := by
  have set : selections given.unplaced.selectionSet.selections =
      selections given.selectionSet.selections := selections_unplaced _
  rw [definition, heading_unplaced, set]
  rfl

end Printer

end DocumentNormalizer
