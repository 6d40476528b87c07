import DocumentNormalizer.CommandLine.Invocation

namespace DocumentNormalizer

def Command.purpose : Command → String
  | .compile => "Normalize GraphQL documents against a schema and write them out."
  | .inspect => "Print the transformed documents without writing anything."

def Command.optionLines : Command → List String
  | .compile =>
    ["  -c, --config FILE  Project config file (gqlnorm.yaml)",
      "  -o, --output TEXT  Output directory for transformed documents",
      "  --key-field TEXT   Cache key field to select on every entity (repeatable, none",
      "                     by default)",
      "  --report TEXT      Write a JSON compile report to this path",
      "  --help             Show this message and exit."]
  | .inspect =>
    ["  --key-field TEXT  Cache key field (repeatable, none by default)",
      "  --help            Show this message and exit."]

namespace Help

def body : Option Command → List String
  | none =>
    ["  Normalize GraphQL documents against a schema before code generation.", "", "Options:",
      "  --version  Show the version and exit.", "  --help     Show this message and exit.", "",
      "Commands:"] ++
      [Command.compile, .inspect].map fun command => "  " ++ command.name ++ "  " ++ command.purpose
  | some command => ["  " ++ command.purpose, "", "Options:"] ++ command.optionLines

def text (program : String) (command : Option Command) : String :=
  "\n".intercalate ([UsageError.usage program command, ""] ++ body command) ++ "\n"

end Help

end DocumentNormalizer
