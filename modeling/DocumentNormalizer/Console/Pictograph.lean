import DocumentNormalizer.Console.Pictograph.Names
import DocumentNormalizer.Text.Blank
import DocumentNormalizer.Text.Lines
import DocumentNormalizer.Text.Lowercase

namespace DocumentNormalizer.Pictograph

/-- The pictographs of names that stand in turn with them. -/
def pairs : List (List Char) → List (List Char × List Char)
  | name :: shown :: rest => (name, shown) :: pairs rest
  | _ => []

def names : List (List Char × List Char) :=
  nameTable.flatMap fun row => pairs (Text.parts ' ' row.toList)

def ofName? (name : List Char) : Option (List Char) :=
  names.lookup (Text.small name)

/-- The characters that ask for a form of a pictograph, by what is written for them. -/
def forms : List (List Char × List Char) :=
  [("-emoji:".toList, ['\ufe0f']), ("-text:".toList, ['\ufe0e']), ([':'], [])]

/-- Takes a name up to its closing colon. Also tells which form is asked for and how much is taken. -/
def name? : List Char → Option (List Char × List Char × Nat)
  | [] => none
  | c :: rest =>
    match forms.find? fun form => form.1.isPrefixOf (c :: rest) with
    | some (written, form) => some ([], form, written.length)
    | none =>
      if Text.isBlank c then none
      else (name? rest).map fun (name, form, taken) => (c :: name, form, taken + 1)

def expand : List Char → List Char
  | [] => []
  | c :: rest =>
    match if c = ':' then name? rest else none with
    | none => c :: expand rest
    | some (name, form, taken) =>
      (match ofName? name with
      | some shown => shown ++ form
      | none => c :: rest.take taken) ++ expand (rest.drop taken)
termination_by text => text.length
decreasing_by all_goals simp only [List.length_cons, List.length_drop]; omega

end DocumentNormalizer.Pictograph
