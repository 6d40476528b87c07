import DocumentNormalizer.Compile

namespace DocumentNormalizer

structure PrintedDocument where
  name : String
  kind : DocumentKind
  sourceFile : String
  text : String

structure Artifacts where
  documents : List PrintedDocument
  diagnostics : List Diagnostic

def Artifacts.ok (artifacts : Artifacts) : Bool := !anyFatal artifacts.diagnostics

/-- Why there is nothing to hand on. -/
inductive ArtifactFault where
  | duplicateName (duplicate : DuplicateName)
  | pass (fault : Fault)
  | namesChanged (expected found : List String)
  | unstablePrint (document : String)

def Fault.message : Fault → String
  | .raised message => message
  | .walk (.mislabelled _) => "A document is not of the kind that it is labelled with"
  | .walk .tooDeep => "A walk goes too deep"

def ArtifactFault.message : ArtifactFault → String
  | .duplicateName duplicate => duplicate.message
  | .pass fault => fault.message
  | .namesChanged _ _ => "Passes must not add, remove, rename or reorder documents"
  | .unstablePrint document => "Printing " ++ Text.quote document ++ " is not stable"

namespace Document

def print (document : Document) : PrintedDocument :=
  ⟨document.name, document.kind, document.sourceFile, document.text⟩

end Document

namespace Store

def names (store : Store) : List String := store.documents.map (·.name)

def confirms (store : Store) (printed : PrintedDocument) : Bool :=
  (store.get? printed.name).any (·.text = printed.text)

def print (store : Store) : Except ArtifactFault (List PrintedDocument) :=
  let printed := store.documents.map Document.print
  match printed.find? (!store.confirms ·) with
  | some unstable => .error (.unstablePrint unstable.name)
  | none => .ok printed

end Store

namespace Run

/-- Lets a run through whose passes ended and left the names of documents and their number
alone. -/
def checked (run : Run) (documents : Nat) : Except ArtifactFault Run :=
  match run.fault with
  | some fault => .error (.pass fault)
  | none =>
    if run.store.names = run.store.keys ∧ run.store.keys.length = documents then .ok run
    else .error (.namesChanged run.store.keys run.store.names)

def print (run : Run) : Except ArtifactFault Artifacts :=
  run.store.print.map fun documents => ⟨documents, run.diagnostics⟩

end Run

namespace Artifacts

/-- Runs passes over documents and prints the outcome; also what the run told on the way. -/
def ofDocuments (schema : Schema) (documents : List Document) (passes : List Pass) :
    List RunEvent × Except ArtifactFault Artifacts :=
  match compileDocuments schema documents passes with
  | .error duplicate => ([], .error (.duplicateName duplicate))
  | .ok run => (run.events, run.checked documents.length >>= Run.print)

end Artifacts

end DocumentNormalizer
