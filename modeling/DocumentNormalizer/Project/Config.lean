import DocumentNormalizer.Files.Path
import DocumentNormalizer.Yaml.Value

namespace DocumentNormalizer

/-- Where the schema is, which documents to compile, where to write them, which fields identify an
object, and where to report. Documents are given as patterns. -/
structure ProjectConfig where
  schema : String := "schema.graphql"
  documents : List String := ["**/*.graphql"]
  output : String := "generated"
  keyFields : List String := []
  report : Option String := none
deriving DecidableEq

inductive SettingFault where
  | notText | notList | badBytes
deriving DecidableEq

/-- A setting, or an item of it, that is not as it should be. -/
structure ConfigProblem where
  key : String
  index : Option Nat
  fault : SettingFault
deriving DecidableEq

/-- Values that replace settings. An empty list replaces nothing. -/
structure ConfigChanges where
  schema : Option String := none
  documents : List String := []
  output : Option String := none
  keyFields : List String := []
  report : Option String := none

namespace ProjectConfig

abbrev Checked := Except (List ConfigProblem)

def problems {α : Type} : Checked α → List ConfigProblem
  | .ok _ => []
  | .error problems => problems

def checkText (key : String) (index : Option Nat) (value : Yaml.Value) : Checked String :=
  let orBadBytes (text : Option String) : Checked String :=
    match text with
    | some text => .ok text
    | none => .error [⟨key, index, .badBytes⟩]
  match value with
  | .text text => orBadBytes (Text.ofPoints? text)
  | .bytes content => orBadBytes (String.fromUTF8? content)
  | _ => .error [⟨key, index, .notText⟩]

def checkOptional (key : String) : Yaml.Value → Checked (Option String)
  | .null => .ok none
  | value => some <$> checkText key none value

def checkItems (key : String) (index : Nat) : List Yaml.Value → Checked (List String)
  | [] => .ok []
  | item :: rest =>
    match checkText key (some index) item, checkItems key (index + 1) rest with
    | .ok text, .ok texts => .ok (text :: texts)
    | first, others => .error (problems first ++ problems others)

def checkList (key : String) : Yaml.Value → Checked (List String)
  | .list items => checkItems key 0 items
  | _ => .error [⟨key, none, .notList⟩]

def setting {α : Type} (entries : List (Yaml.Value × Yaml.Value)) (key : String) (default : α)
    (check : String → Yaml.Value → Checked α) : Checked α :=
  match Yaml.Value.field? key entries with
  | none => .ok default
  | some value => check key value

/-- The settings in a mapping. Other entries do not matter. The schema has two keys, of which the short
one counts if both are there. -/
def ofEntries (entries : List (Yaml.Value × Yaml.Value)) : Checked ProjectConfig :=
  let defaults : ProjectConfig := {}
  let schemaKey := if (Yaml.Value.field? "schema" entries).isSome then "schema" else "schema_path"
  match
    setting entries schemaKey defaults.schema (checkText · none),
    setting entries "documents" defaults.documents checkList,
    setting entries "output" defaults.output (checkText · none),
    setting entries "key_fields" defaults.keyFields checkList,
    setting entries "report" defaults.report checkOptional with
  | .ok schema, .ok documents, .ok output, .ok keyFields, .ok report =>
    .ok { schema, documents, output, keyFields, report }
  | schema, documents, output, keyFields, report =>
    .error (problems schema ++ problems documents ++ problems output ++ problems keyFields ++
      problems report)

/-- A path as seen from a directory. Absolute ones stay as they are spelled. -/
def anchor (base : Path) (text : String) : String :=
  let path := Path.ofText text
  if path.isAbsolute then text else (base.join path).text

/-- The settings as seen from a directory. An empty report is none. -/
def resolve (config : ProjectConfig) (base : Path) : ProjectConfig :=
  { config with
    schema := anchor base config.schema
    documents := config.documents.map (anchor base)
    output := anchor base config.output
    report := (config.report.filter (· ≠ "")).map (anchor base) }

def change (config : ProjectConfig) (changes : ConfigChanges) : ProjectConfig where
  schema := changes.schema.getD config.schema
  documents := if changes.documents.isEmpty then config.documents else changes.documents
  output := changes.output.getD config.output
  keyFields := if changes.keyFields.isEmpty then config.keyFields else changes.keyFields
  report := changes.report.or config.report

end ProjectConfig

end DocumentNormalizer
