import DocumentNormalizer.Document.Collect
import DocumentNormalizer.Files.Find
import DocumentNormalizer.Project.Config
import DocumentNormalizer.Schema.Build

namespace DocumentNormalizer

inductive InputSort where
  | config | schema | source
deriving DecidableEq

/-- The word for a sort of file, in front of its path. -/
def InputSort.label : InputSort → String
  | .config => "config "
  | .schema => "schema "
  | .source => ""

/-- Why a file is of no use to a project. -/
inductive InputError where
  | unreadable (sort : InputSort) (error : FileError)
  | malformedConfig (path : Path) (fault : Yaml.Fault)
  | notMapping (path : Path)
  | invalidConfig (path : Path) (problems : List ConfigProblem)
  | invalidSchema (path : Path) (error : SchemaError)
  | collection (error : CollectionError)
  | notText (path : Path)
  | unusable (error : FileError)
  | misfit (misfit : Yaml.Misfit)

def SettingFault.words : SettingFault → String
  | .notText => "must be a text"
  | .notList => "must be a list"
  | .badBytes => "must be a text in UTF-8"

def ConfigProblem.message (problem : ConfigProblem) : String :=
  problem.key ++ (problem.index.elim "" fun index => "[" ++ toString index ++ "]") ++ " " ++
    problem.fault.words

namespace InputError

def message : InputError → String
  | .unreadable sort error =>
    "Cannot read " ++ sort.label ++ error.path.text ++ ": " ++ error.message
  | .malformedConfig path fault => "Invalid YAML in " ++ path.text ++ ": " ++ fault.message
  | .notMapping path => "Config " ++ path.text ++ " must be a mapping"
  | .invalidConfig path problems =>
    "Invalid config " ++ path.text ++ ": " ++ ", ".intercalate (problems.map (·.message))
  | .invalidSchema path error => "Invalid schema " ++ path.text ++ ": " ++ error.message
  | .collection error => error.message
  | .notText path => path.text ++ " is not a text in UTF-8"
  | .unusable error => error.message
  | .misfit cause => cause.message

/-- Whether an error is told in words. The others break off whatever reads the file. -/
def isReported : InputError → Bool
  | .notText _ | .unusable _ | .misfit _ => false
  | _ => true

/-- The error of a file that cannot be read. A null character in its path is not reported. -/
def ofRead (sort : InputSort) : ReadError → InputError
  | .file error =>
    if error.fault = .nullCharacter then .unusable error else .unreadable sort error
  | .notText path => .notText path

end InputError

def Disk.readInput (disk : Disk) (sort : InputSort) (path : Path) : Except InputError String :=
  (disk.readText path).mapError (.ofRead sort)

namespace ProjectConfig

/-- The settings in a text. A text without a value has none. -/
def ofText (path : Path) (text : String) : Except InputError ProjectConfig :=
  match Yaml.Value.ofText text with
  | .error (.malformed fault) => .error (.malformedConfig path fault)
  | .error (.misfit misfit) => .error (.misfit misfit)
  | .ok .null => .ok {}
  | .ok (.mapping entries) => (ofEntries entries).mapError (.invalidConfig path)
  | .ok _ => .error (.notMapping path)

def read (disk : Disk) (path : Path) : Except InputError ProjectConfig :=
  match disk.readInput .config path with
  | .error error => .error error
  | .ok text => (ofText path text).map (·.resolve path.parent)

end ProjectConfig

def Schema.read (disk : Disk) (path : Path) : Except InputError Schema :=
  match disk.readInput .schema path with
  | .error error => .error error
  | .ok text => (Schema.ofText text).mapError (.invalidSchema path)

namespace Document

def read (disk : Disk) (path : Path) : Except InputError (List Document) :=
  match disk.readInput .source path with
  | .error error => .error error
  | .ok text => (collect text path.text).mapError .collection

/-- Reads the documents in several files, up to the first that is of no use. -/
def readAll (disk : Disk) (paths : List Path) : Except InputError (List Document) :=
  (paths.mapM (read disk)).map (·.flatten)

end Document

/-- The files that the documents of a project are in. Neither its schema nor what it wrote is among
them. -/
def ProjectConfig.files (config : ProjectConfig) (disk : Disk) : Except InputError (List Path) :=
  (disk.findFiles config.documents [.ofText config.schema, .ofText config.output]).mapError
    .unusable

end DocumentNormalizer
