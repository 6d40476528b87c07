import DocumentNormalizer.Artifacts
import DocumentNormalizer.Project.Inputs

namespace DocumentNormalizer

inductive BuildEvent where
  | loading (schema : String)
  | loaded (types : Nat)
  | collected (documents files : Nat)
  | pass (event : RunEvent)
  | finished (advisories : Nat) (ok : Bool)

def BuildEvent.message : BuildEvent → String
  | .loading schema => "Loading schema " ++ schema
  | .loaded types => "  Found " ++ toString types ++ " types"
  | .collected documents files =>
    "Collected " ++ toString documents ++ " documents from " ++ toString files ++ " files"
  | .pass event => event.message
  | .finished advisories ok =>
    "  " ++ toString advisories ++ " warning(s), " ++ if ok then "no errors" else "compile failed"

inductive BuildError where
  | input (error : InputError)
  | artifacts (fault : ArtifactFault)

namespace BuildError

def message : BuildError → String
  | .input error => error.message
  | .artifacts fault => fault.message

/-- Whether an error is one to report in words. Passes are not supposed to fail. -/
def isReported : BuildError → Bool
  | .input error => error.isReported
  | .artifacts (.pass _) => false
  | .artifacts _ => true

end BuildError

/-- What a build told on the way, and what came of it. -/
structure ProjectBuild where
  events : List BuildEvent
  outcome : Except BuildError Artifacts

namespace ProjectConfig

def compile (config : ProjectConfig) (told : List BuildEvent) (schema : Schema)
    (documents : List Document) : ProjectBuild :=
  let (events, outcome) := Artifacts.ofDocuments schema documents (Pass.defaults config.keyFields)
  let told := told ++ events.map .pass
  match outcome with
  | .error fault => ⟨told, .error (.artifacts fault)⟩
  | .ok artifacts =>
    ⟨told ++ [.finished (advisories artifacts.diagnostics).length artifacts.ok], .ok artifacts⟩

def collect (config : ProjectConfig) (disk : Disk) : Except InputError (Nat × List Document) := do
  let files ← config.files disk
  return (files.length, ← Document.readAll disk files)

def build (config : ProjectConfig) (disk : Disk) : ProjectBuild :=
  let told := [.loading config.schema]
  match Schema.read disk (.ofText config.schema) with
  | .error error => ⟨told, .error (.input error)⟩
  | .ok schema =>
    let told := told ++ [.loaded schema.types.length]
    match config.collect disk with
    | .error error => ⟨told, .error (.input error)⟩
    | .ok (files, documents) =>
      config.compile (told ++ [.collected documents.length files]) schema documents

end ProjectConfig

end DocumentNormalizer
