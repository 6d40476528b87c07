import DocumentNormalizer.CommandLine.Options
import DocumentNormalizer.Files.Disk
import DocumentNormalizer.Project.Config

namespace DocumentNormalizer

inductive Command where
  | compile | inspect
deriving DecidableEq

namespace Command

def name : Command → String
  | .compile => "compile"
  | .inspect => "inspect"

def ofName? : String → Option Command
  | "compile" => some .compile
  | "inspect" => some .inspect
  | _ => none

def synopsis : Command → String
  | .compile => "[OPTIONS] [SCHEMA] [DOCUMENTS]..."
  | .inspect => "[OPTIONS] SCHEMA DOCUMENTS..."

end Command

inductive ToolOption where
  | version | help
deriving DecidableEq

inductive CommandOption where
  | config | output | keyField | report | help
deriving DecidableEq

def ToolOption.specs : List (OptionSpec ToolOption) :=
  [⟨.version, "--version", .flag⟩, ⟨.help, "--help", .flag⟩]

def Command.specs : Command → List (OptionSpec CommandOption)
  | .compile =>
    [⟨.config, "--config", .valued (some 'c')⟩, ⟨.output, "--output", .valued (some 'o')⟩,
      ⟨.keyField, "--key-field", .valued none⟩, ⟨.report, "--report", .valued none⟩,
      ⟨.help, "--help", .flag⟩]
  | .inspect => [⟨.keyField, "--key-field", .valued none⟩, ⟨.help, "--help", .flag⟩]

/-- Something on the command line that stands for a file or for patterns. -/
inductive Parameter where
  | optionalSchema | schema | documents | config
deriving DecidableEq

def Parameter.label : Parameter → String
  | .optionalSchema => "'[SCHEMA]'"
  | .schema => "'SCHEMA'"
  | .documents => "'DOCUMENTS...'"
  | .config => "'-c' / '--config'"

/-- Why a command line cannot be followed. -/
inductive UsageFault where
  | option (fault : OptionFault)
  | unknownCommand (name : String) (similar : List String)
  | missing (parameter : Parameter)
  | noFile (parameter : Parameter) (path : String)
  | notFile (parameter : Parameter) (path : String)
  | unusable (error : FileError)
  | noCommand
  | noProject

namespace UsageFault

def suggestion : List String → String
  | [] => ""
  | [word] => " Did you mean " ++ Text.quote word ++ "?"
  | words => " (Did you mean one of: " ++ ", ".intercalate (words.map Text.quote) ++ "?)"

def message : UsageFault → String
  | .option (.unknown name similar) =>
    "No such option " ++ Text.quote name ++ "." ++ suggestion similar
  | .option (.missingValue name) => "Option " ++ Text.quote name ++ " requires an argument."
  | .option (.unwantedValue name) => "Option " ++ Text.quote name ++ " does not take a value."
  | .unknownCommand name similar =>
    "No such command " ++ Text.quote name ++ "." ++ suggestion similar
  | .missing parameter => "Missing argument " ++ parameter.label ++ "."
  | .noFile parameter path =>
    "Invalid value for " ++ parameter.label ++ ": File " ++ Text.quote path ++ " does not exist."
  | .notFile parameter path =>
    "Invalid value for " ++ parameter.label ++ ": File " ++ Text.quote path ++ " is a directory."
  | .unusable error => error.message
  | .noCommand => "Missing command."
  | .noProject => "Provide a SCHEMA argument or a --config file"

/-- Whether a fault is told with a line on how to use the command. One in the value of an option is
not. -/
def showsUsage : UsageFault → Bool
  | .option (.missingValue _) | .option (.unwantedValue _) => false
  | _ => true

end UsageFault

/-- A fault, and the command it is about; without one it is about what stands in front of
commands. -/
structure UsageError where
  command : Option Command
  fault : UsageFault

namespace UsageError

def call (program : String) (command : Option Command) : String :=
  program ++ command.elim "" (" " ++ ·.name)

def usage (program : String) (command : Option Command) : String :=
  "Usage: " ++ call program command ++ " " ++
    command.elim "[OPTIONS] COMMAND [ARGS]..." Command.synopsis

/-- What an error says, to someone who called the program by a name. -/
def text (program : String) (error : UsageError) : String :=
  let hint :=
    if error.fault.showsUsage then
      usage program error.command ++ "\nTry '" ++ call program error.command ++
        " --help' for help.\n\n"
    else ""
  hint ++ "Error: " ++ error.fault.message ++ "\n"

end UsageError

/-- What is asked for. An empty line asks for nothing. -/
inductive Invocation where
  | nothing
  | version
  | help (command : Option Command)
  | compile (config : Option String) (changes : ConfigChanges)
  | inspect (changes : ConfigChanges)

namespace Invocation

def value? (option : CommandOption) (options : List (CommandOption × String)) : Option String :=
  options.reverse.lookup option

def values (option : CommandOption) (options : List (CommandOption × String)) : List String :=
  (options.filter (·.1 = option)).map (·.2)

def checkFile (disk : Disk) (parameter : Parameter) (path : String) : Except UsageFault Unit :=
  match disk.nodeOfText path with
  | .ok (.file _) => .ok ()
  | .ok (.directory _) => .error (.notFile parameter path)
  | .error .nullCharacter => .error (.unusable ⟨.nullCharacter, .ofText path⟩)
  | .error _ => .error (.noFile parameter path)

def checkOptional (disk : Disk) (parameter : Parameter) : Option String → Except UsageFault Unit
  | none => .ok ()
  | some path => checkFile disk parameter path

/-- Reads the words behind `compile`. A settings file that the surroundings name counts if the line
names none. -/
def ofCompileWords (disk : Disk) (surroundings : Option String)
    (sorted : SortedWords CommandOption) : Except UsageFault Invocation := do
  let options := sorted.options
  let schema := sorted.words.head?
  let given := value? .config options
  let config := given.or (surroundings.filter (· ≠ ""))
  checkOptional disk .config given
  checkOptional disk .optionalSchema schema
  checkOptional disk .config config
  let changes : ConfigChanges :=
    { schema
      documents := sorted.words.tail
      output := value? .output options
      keyFields := values .keyField options
      report := value? .report options }
  return .compile config changes

def ofInspectWords (disk : Disk) (sorted : SortedWords CommandOption) :
    Except UsageFault Invocation :=
  match sorted.words with
  | [] => .error (.missing .schema)
  | schema :: documents =>
    match checkFile disk .schema schema with
    | .error fault => .error fault
    | .ok () =>
      if documents.isEmpty then .error (.missing .documents)
      else
        let keyFields := values .keyField sorted.options
        .ok (.inspect { schema := some schema, documents, keyFields })

/-- Reads the words behind a command. A wish for help comes before everything but its options. -/
def ofCommandWords (disk : Disk) (surroundings : Option String) (command : Command)
    (words : List String) : Except UsageFault Invocation :=
  match OptionSpec.sortWords command.specs true words with
  | .error fault => .error (.option fault)
  | .ok sorted =>
    if (value? .help sorted.options).isSome then .ok (.help (some command))
    else
      match command with
      | .compile => ofCompileWords disk surroundings sorted
      | .inspect => ofInspectWords disk sorted

/-- What options in front of commands ask for: the first of them counts. -/
def ofToolOptions : List (ToolOption × String) → Option Invocation
  | [] => none
  | (.version, _) :: _ => some .version
  | (.help, _) :: _ => some (.help none)

/-- The fault of a name that no command has. A name that looks like an option is taken for one
first. -/
def unknownCommand (name : String) (rest : List String) : Except UsageFault Invocation :=
  let fault : UsageFault := .unknownCommand name
    (Text.similarWords name [Command.compile.name, Command.inspect.name])
  match OptionSpec.sortWords ToolOption.specs false (name :: rest) with
  | .error fault => .error (.option fault)
  | .ok sorted => (ofToolOptions sorted.options).elim (.error fault) .ok

/-- Reads a command line. `surroundings` names a settings file for lines that name none. -/
def ofWords (disk : Disk) (surroundings : Option String) (words : List String) :
    Except UsageError Invocation :=
  match OptionSpec.sortWords ToolOption.specs false words with
  | .error fault => .error ⟨none, .option fault⟩
  | .ok sorted =>
    match ofToolOptions sorted.options, sorted.words with
    | some invocation, _ => .ok invocation
    | none, [] => if words.isEmpty then .ok .nothing else .error ⟨none, .noCommand⟩
    | none, name :: rest =>
      match Command.ofName? name with
      | none => (unknownCommand name rest).mapError (⟨none, ·⟩)
      | some command =>
        (ofCommandWords disk surroundings command rest).mapError (⟨some command, ·⟩)

end Invocation

end DocumentNormalizer
