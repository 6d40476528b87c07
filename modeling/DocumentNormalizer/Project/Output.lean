import DocumentNormalizer.Artifacts
import DocumentNormalizer.Files.Disk
import DocumentNormalizer.Text.JsonTree

namespace DocumentNormalizer

/-- Why documents are not written. -/
inductive WriteError where
  | failedCompile
  | file (error : FileError)

def WriteError.message : WriteError → String
  | .failedCompile => "Refusing to write documents from a failed compile"
  | .file error => error.message

abbrev WrittenFiles := List (String × Path)

namespace PrintedDocument

def path (document : PrintedDocument) (directory : Path) : Path :=
  directory.join (.ofText (document.name ++ ".graphql"))

def write (directory : Path) (document : PrintedDocument) : DiskAction FileError (String × Path) := do
  let path := document.path directory
  DiskAction.writeFile path (document.text ++ "\n").toUTF8
  return (document.name, path)

def report (written : WrittenFiles) (document : PrintedDocument) : JsonTree :=
  .object [("name", .text document.name), ("kind", .text document.kind.text),
    ("source_file", .text document.sourceFile),
    ("output_file", (written.lookup document.name).elim .null fun path => .text path.text)]

end PrintedDocument

def Diagnostic.report (diagnostic : Diagnostic) : JsonTree :=
  .object [("severity", .text diagnostic.severity.text), ("message", .text diagnostic.message),
    ("document", .text diagnostic.document), ("location", .text diagnostic.location.text),
    ("pass", .text diagnostic.pass)]

namespace Artifacts

def write (artifacts : Artifacts) (directory : Path) : DiskAction WriteError WrittenFiles :=
  if artifacts.ok then
    ExceptT.adapt .file do
      DiskAction.makeDirectories directory
      artifacts.documents.mapM (PrintedDocument.write directory)
  else throw .failedCompile

def report (artifacts : Artifacts) (written : WrittenFiles) : JsonTree :=
  .object [("ok", .truth artifacts.ok),
    ("documents", .list (artifacts.documents.map (PrintedDocument.report written))),
    ("diagnostics", .list (artifacts.diagnostics.map Diagnostic.report))]

end Artifacts

/-- Writes a report. The directories on the way are made if they are not there. -/
def JsonTree.write (report : JsonTree) (path : Path) : DiskAction FileError Unit := do
  DiskAction.makeDirectories path.parent
  DiskAction.writeFile path report.indented.toUTF8

end DocumentNormalizer
