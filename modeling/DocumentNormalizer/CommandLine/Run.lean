import DocumentNormalizer.CommandLine.Help
import DocumentNormalizer.Console.Screen
import DocumentNormalizer.Project.Build
import DocumentNormalizer.Project.Output

namespace DocumentNormalizer

/-- What breaks a command off without being reported in words. -/
inductive Breakdown where
  | input (error : InputError)
  | pass (fault : Fault)
  | file (error : FileError)
  | markup (fault : MarkupFault)

def Breakdown.message : Breakdown → String
  | .input error => error.message
  | .pass fault => fault.message
  | .file error => error.message
  | .markup fault => fault.message

/-- Why a command ends early. -/
inductive Stop where
  | failed
  | reported (message : String)
  | usage (fault : UsageFault)
  | brokenOff (breakdown : Breakdown)

/-- What commands work on: the files, and what the console shows. -/
structure Workspace where
  disk : Disk
  shown : List Shown

abbrev CommandAction := ExceptT Stop (StateM Workspace)

namespace Stop

def ofInput (error : InputError) : Stop :=
  if error.isReported then .reported error.message else .brokenOff (.input error)

def ofBuild : BuildError → Stop
  | .input error => ofInput error
  | .artifacts (.pass fault) => .brokenOff (.pass fault)
  | .artifacts fault => .reported fault.message

/-- What an error in writing documents makes of a command. -/
def ofWrite : WriteError → Stop
  | .failedCompile => .reported WriteError.failedCompile.message
  | .file error => .brokenOff (.file error)

end Stop

namespace CommandAction

def display (shown : Shown) : CommandAction Unit :=
  modify fun workspace => { workspace with shown := workspace.shown ++ [shown] }

def say (line : String) : CommandAction Unit :=
  match Screen.marked line with
  | .ok text => display (.line text)
  | .error fault => throw (.brokenOff (.markup fault))

def sayPlain (text : String) : CommandAction Unit := display (.line (Screen.plain text))

def require {ε α : Type} (stop : ε → Stop) : Except ε α → CommandAction α
  | .ok value => pure value
  | .error error => throw (stop error)

def onDisk {ε α : Type} (stop : ε → Stop) (action : DiskAction ε α) : CommandAction α := do
  let workspace ← get
  let (outcome, disk) := action.run workspace.disk
  set { workspace with disk }
  require stop outcome

end CommandAction

inductive SettingsError where
  | noProject
  | input (error : InputError)

def Stop.ofSettings : SettingsError → Stop
  | .noProject => .usage .noProject
  | .input error => .ofInput error

/-- The settings of a command: those of a file, if there is one, with changes from the line. Without a
file at least a schema must be named. An empty name stands for a file without settings. -/
def ProjectConfig.choose (disk : Disk) (config : Option String) (changes : ConfigChanges) :
    Except SettingsError ProjectConfig :=
  match config with
  | none =>
    if changes.schema.isNone then .error .noProject else .ok (({} : ProjectConfig).change changes)
  | some path =>
    if path = "" then .ok (({} : ProjectConfig).change changes)
    else
      match ProjectConfig.read disk (.ofText path) with
      | .error error => .error (.input error)
      | .ok settings => .ok (settings.change changes)

namespace Command

open CommandAction

def build (config : ProjectConfig) : CommandAction Artifacts := do
  say ("[bold]Compiling documents against " ++ config.schema ++ "[/bold]")
  let result := config.build (← get).disk
  for event in result.events do
    say ("  " ++ event.message)
  let artifacts ← require .ofBuild result.outcome
  unless artifacts.diagnostics.isEmpty do
    display (.table (.ofDiagnostics artifacts.diagnostics))
  if let some fatal := firstFatal? artifacts.diagnostics then
    say ("[red]Compile failed: " ++ Markup.escape fatal.text ++ "[/red]")
  return artifacts

/-- Writes the documents of a build into the output directory and tells so. -/
def writeDocuments (config : ProjectConfig) (artifacts : Artifacts) :
    CommandAction WrittenFiles := do
  let written ← onDisk .ofWrite (artifacts.write (.ofText config.output))
  say ("[green]Wrote " ++ toString written.length ++ " documents to " ++ config.output ++ "[/green]")
  return written

def writeReport (path : Path) (artifacts : Artifacts) (written : WrittenFiles) :
    CommandAction Unit := do
  onDisk (.brokenOff ∘ .file) ((artifacts.report written).write path)
  say ("[green]Compile report written to " ++ path.text ++ "[/green]")

def demandOk (artifacts : Artifacts) : CommandAction Unit :=
  if artifacts.ok then pure () else throw .failed

/-- Builds a project and writes what comes of it. A failed compile leaves no more than its report. -/
def runCompile (config : Option String) (changes : ConfigChanges) : CommandAction Unit := do
  let settings ← require .ofSettings (ProjectConfig.choose (← get).disk config changes)
  let artifacts ← build settings
  let written ← if artifacts.ok then writeDocuments settings artifacts else pure []
  if let some report := settings.report.filter (· ≠ "") then
    writeReport (.ofText report) artifacts written
  demandOk artifacts

def showDocument (document : PrintedDocument) : CommandAction Unit := do
  say ""
  say ("[bold]# " ++ document.name ++ "[/bold] [dim](" ++ document.kind.text ++ ", " ++
    document.sourceFile ++ ")[/dim]")
  sayPlain document.text

def runInspect (changes : ConfigChanges) : CommandAction Unit := do
  let settings ← require .ofSettings (ProjectConfig.choose (← get).disk none changes)
  let artifacts ← build settings
  artifacts.documents.forM showDocument
  demandOk artifacts

end Command

/-- How a command line went: its exit code, what was shown, the files, and what it broke off for. -/
structure CommandResult where
  exitCode : Nat
  shown : List Shown
  disk : Disk
  breakdown : Option Breakdown

namespace CommandResult

/-- The result of a command. Errors are shown as they are, without markup and without colours. -/
def ofAction (program : String) (command : Command) (action : CommandAction Unit) (disk : Disk) :
    CommandResult :=
  let (outcome, workspace) := action.run ⟨disk, []⟩
  let ended (code : Nat) (shown : List Shown) (breakdown : Option Breakdown) : CommandResult :=
    ⟨code, workspace.shown ++ shown, workspace.disk, breakdown⟩
  match outcome with
  | .ok () => ended 0 [] none
  | .error .failed => ended 1 [] none
  | .error (.reported message) =>
    ended 1 [.text (Screen.told ("Error: " ++ message ++ "\n"))] none
  | .error (.usage fault) => ended 2 [.text (UsageError.text program ⟨some command, fault⟩)] none
  | .error (.brokenOff breakdown) => ended 1 [] (some breakdown)

def telling (exitCode : Nat) (text : String) (disk : Disk) : CommandResult :=
  ⟨exitCode, [.text text], disk, none⟩

def ofWords (program : String) (surroundings : Option String) (words : List String) (disk : Disk) :
    CommandResult :=
  match Invocation.ofWords disk surroundings words with
  | .error ⟨_, .unusable error⟩ => ⟨1, [], disk, some (.file error)⟩
  | .error error => telling 2 (error.text program) disk
  | .ok .nothing => telling 2 (Help.text program none) disk
  | .ok .version => telling 0 "gqlnorm, version 0.1.0\n" disk
  | .ok (.help command) => telling 0 (Help.text program command) disk
  | .ok (.compile config changes) =>
    ofAction program .compile (Command.runCompile config changes) disk
  | .ok (.inspect changes) => ofAction program .inspect (Command.runInspect changes) disk

end CommandResult

end DocumentNormalizer
