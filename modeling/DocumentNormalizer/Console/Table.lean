import DocumentNormalizer.Console.Markup
import DocumentNormalizer.Diagnostic

namespace DocumentNormalizer

structure Table where
  title : String
  columns : List String
  rows : List (List String)

namespace Table

def severityCell : Severity → String
  | .fatal => "[red]" ++ Severity.fatal.text ++ "[/red]"
  | .advisory => "[yellow]" ++ Severity.advisory.text ++ "[/yellow]"

/-- The cells of a diagnostic. Locations and messages may hold any text, names are plain words. -/
def row (diagnostic : Diagnostic) : List String :=
  [severityCell diagnostic.severity, diagnostic.document, Markup.escape diagnostic.location.text,
    diagnostic.pass, Markup.escape (Text.truncate 120 diagnostic.message)]

def ofDiagnostics (diagnostics : List Diagnostic) : Table :=
  ⟨"Diagnostics", ["Severity", "Document", "Location", "Pass", "Message"],
    diagnostics.map row⟩

end Table

end DocumentNormalizer
