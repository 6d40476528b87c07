import DocumentNormalizer.Proofs.Building

namespace DocumentNormalizer

namespace CommandAction

variable {workspace : Workspace} {bad : Stop → Workspace → Prop}

theorem yields_display (shown : Shown) :
    Yields (display shown) workspace (fun _ after => after.disk = workspace.disk) bad :=
  ⟨rfl⟩

/-- What is said leaves the files alone. Only the markup of a line can be wrong. -/
theorem yields_say (line : String)
    (broken : ∀ fault, bad (.brokenOff (.markup fault)) workspace) :
    Yields (say line) workspace (fun _ after => after.disk = workspace.disk) bad := by
  rw [say]
  split
  · exact yields_display _
  · exact .throw (broken _)

theorem yields_require {ε α : Type} {stop : ε → Stop} {outcome : Except ε α}
    (failed : ∀ error, outcome = .error error → bad (stop error) workspace) :
    Yields (require stop outcome) workspace
      (fun value after => outcome = .ok value ∧ after.disk = workspace.disk) bad := by
  cases outcome with
  | error error => exact .throw (failed error rfl)
  | ok value => exact .pure ⟨rfl, rfl⟩

theorem yields_onDisk {ε α : Type} {stop : ε → Stop} {action : DiskAction ε α}
    {good : α → Disk → Prop} {worse : ε → Disk → Prop}
    (done : Yields action workspace.disk good worse)
    (failed : ∀ {error after}, worse error after → bad (stop error) ⟨after, workspace.shown⟩) :
    Yields (onDisk stop action) workspace (fun value after => good value after.disk) bad := by
  obtain ⟨holds⟩ := done
  refine .get ?_
  generalize action.run workspace.disk = result at holds
  obtain ⟨outcome, disk⟩ := result
  have changed : Yields (set { workspace with disk } : CommandAction PUnit) workspace
      (fun _ after => after = ⟨disk, workspace.shown⟩) bad := .set rfl
  refine changed.bind ?_
  rintro _ _ rfl
  cases outcome with
  | error error => exact .throw (failed holds)
  | ok value => exact .pure holds

theorem yields_forIn {α : Type} {items : List α} {line : α → String}
    (broken : ∀ fault after, after.disk = workspace.disk →
      bad (.brokenOff (.markup fault)) after) :
    Yields (forIn items PUnit.unit fun item _ => do
        say (line item)
        return ForInStep.yield PUnit.unit) workspace
      (fun _ after => after.disk = workspace.disk) bad := by
  induction items generalizing workspace with
  | nil => exact .pure rfl
  | cons item rest ih =>
    rw [List.forIn_cons, bind_assoc]
    refine (yields_say _ fun fault => broken fault _ rfl).bind fun said => ?_
    rw [pure_bind, ← said]
    exact ih fun fault after same => broken fault after (same.trans said)

end CommandAction

theorem FileError.IsFairTo.null_mem {error : FileError} {path : Path} (fair : error.IsFairTo path)
    (null : error.fault = .nullCharacter) : '\x00' ∈ path.text.toList :=
  Path.null_mem_text_of_subset (fair.null null) fair.within

/-- Documents have paths that the system can be asked about. -/
theorem CompiledProject.fault_ne_nullCharacter {disk : Disk} {config : Option String}
    {changes : ConfigChanges} (project : CompiledProject disk config changes) {error : FileError}
    (fair : error.IsFairTo project.directory ∨ ∃ document ∈ project.artifacts.documents,
      error.IsFairTo (document.path project.directory)) : error.fault ≠ .nullCharacter := by
  intro null
  rcases fair with directory | ⟨document, member, fair⟩
  · exact project.null_not_mem_directory (directory.null_mem null)
  · exact project.null_not_mem_path member (fair.null_mem null)

namespace Command

open CommandAction

variable {workspace : Workspace} {bad : Stop → Workspace → Prop}

theorem yields_verdict (artifacts : Artifacts)
    (broken : ∀ fault, bad (.brokenOff (.markup fault)) workspace) :
    Yields (do
        if let some fatal := firstFatal? artifacts.diagnostics then
          say ("[red]Compile failed: " ++ Markup.escape fatal.text ++ "[/red]")
        return artifacts) workspace
      (fun value after => value = artifacts ∧ after.disk = workspace.disk) bad := by
  dsimp only
  split
  · exact (yields_say _ broken).bind fun said => .pure ⟨rfl, said⟩
  · exact .pure ⟨rfl, rfl⟩

theorem yields_build {settings : ProjectConfig}
    (broken : ∀ fault after, after.disk = workspace.disk →
      bad (.brokenOff (.markup fault)) after)
    (failed : ∀ error, (settings.build workspace.disk).outcome = .error error → ∀ after,
      after.disk = workspace.disk → bad (.ofBuild error) after) :
    Yields (build settings) workspace
      (fun artifacts after => after.disk = workspace.disk ∧
        (settings.build workspace.disk).outcome = .ok artifacts) bad := by
  unfold build
  refine (yields_say _ fun fault => broken fault _ rfl).bind fun {_ after} said => ?_
  refine .get ?_
  rw [said]
  have brokenLine fault (later : Workspace) (told : later.disk = after.disk) :=
    broken fault later (told.trans said)
  refine (yields_forIn brokenLine).bind fun {_ later} told => ?_
  refine (yields_require fun error same => failed error same _ (told.trans said)).bind ?_
  rintro artifacts last ⟨built, same⟩
  have unchanged : last.disk = workspace.disk := same.trans (told.trans said)
  have judged (shown : Workspace) (sound : shown.disk = workspace.disk) :=
    (yields_verdict artifacts fun fault => broken fault shown sound).mono
      (fun {value after} (ended : value = artifacts ∧ after.disk = shown.disk) =>
        And.intro (ended.2.trans sound) (ended.1 ▸ built)) id
  dsimp only
  split
  · exact judged last unchanged
  · exact (yields_display _).bind fun shown => judged _ (shown.trans unchanged)

theorem yields_writeDocuments {settings : ProjectConfig} {artifacts : Artifacts}
    (broken : ∀ fault after, bad (.brokenOff (.markup fault)) after)
    (unwritten : ∀ error after, error.IsFairTo (.ofText settings.output) ∨
      (∃ document ∈ artifacts.documents, error.IsFairTo (document.path (.ofText settings.output))) →
        bad (.brokenOff (.file error)) after)
    (working : workspace.disk.HasWorkingDirectory) (ok : artifacts.ok = true)
    (apart : ((artifacts.documents.map
      (PrintedDocument.file workspace.disk (.ofText settings.output))).map Prod.fst).Nodup) :
    Yields (writeDocuments settings artifacts) workspace
      (fun written after =>
        workspace.disk.Wrote after.disk (artifacts.documents.map
          (PrintedDocument.file workspace.disk (.ofText settings.output))) ∧
        written = artifacts.documents.map (PrintedDocument.entry (.ofText settings.output)))
      bad := by
  have files := artifacts.yields_write (.ofText settings.output) working ok apart
  refine (yields_onDisk files ?_).bind ?_
  · rintro _ after ⟨cause, rfl, fair⟩
    exact unwritten cause _ fair
  · rintro written middle ⟨wrote, same⟩
    refine (yields_say _ (broken · _)).bind fun {_ after} said => .pure ⟨?_, same⟩
    rw [said]
    exact wrote

theorem yields_writeReport (path : Path) (artifacts : Artifacts) (written : WrittenFiles)
    (broken : ∀ fault after, bad (.brokenOff (.markup fault)) after)
    (unwritten : ∀ error after, error.IsFairTo path → bad (.brokenOff (.file error)) after)
    (working : workspace.disk.HasWorkingDirectory) :
    Yields (writeReport path artifacts written) workspace
      (fun _ after => workspace.disk.Wrote after.disk
        [(workspace.disk.resolve path, (artifacts.report written).indented.toUTF8)]) bad := by
  have file := (artifacts.report written).yields_write path working
  refine (yields_onDisk file (unwritten _ _)).bind fun {_ middle} wrote => ?_
  refine (yields_say _ (broken · _)).mono (fun {_ after} said => ?_) id
  rw [said]
  exact wrote

/-- How a compile ends that does not go well. Unless showing or writing fails, it leaves no more
than a report, and that only if there was something fatal to report. -/
inductive CompileFails (disk : Disk) (config : Option String) (changes : ConfigChanges) :
    Stop → Workspace → Prop
  | markup (fault : MarkupFault) (after : Workspace) :
      CompileFails disk config changes (.brokenOff (.markup fault)) after
  | unwritten (project : CompiledProject disk config changes) (error : FileError)
      (after : Workspace) (plain : error.fault = .nullCharacter →
        ∃ path ∈ project.reportPath?, '\x00' ∈ path.text.toList) :
      CompileFails disk config changes (.brokenOff (.file error)) after
  | fatal {after : Workspace} (project : CompiledProject disk config changes)
      (fatal : anyFatal project.run.diagnostics = true)
      (wrote : disk.Wrote after.disk project.reports) :
      CompileFails disk config changes .failed after
  | hopeless (stop : Stop) {after : Workspace}
      (none : IsEmpty (CompiledProject disk config changes)) (same : after.disk = disk) :
      CompileFails disk config changes stop after

section Compile

variable {disk : Disk} {config : Option String} {changes : ConfigChanges}

/-- How a compile ends that goes well: all documents are written, and the report if one is asked
for. -/
def CompileWrites (disk : Disk) (config : Option String) (changes : ConfigChanges) (_ : Unit)
    (after : Workspace) : Prop :=
  ∃ project : CompiledProject disk config changes, anyFatal project.run.diagnostics = false ∧
    disk.Wrote after.disk (project.outputs ++ project.reports)

variable (project : CompiledProject disk config changes)

/-- The documents that are written: all of them, or none after a failed compile. -/
theorem yields_documents (working : disk.HasWorkingDirectory) (same : workspace.disk = disk) :
    Yields
      (if project.artifacts.ok then writeDocuments project.settings project.artifacts
        else pure [])
      workspace
      (fun written after => written = project.written ∧
        disk.Wrote after.disk (if project.artifacts.ok then project.outputs else []))
      (CompileFails disk config changes) := by
  subst same
  rw [CompiledProject.written]
  split
  · next ok =>
    refine (yields_writeDocuments .markup ?_ working ok project.nodup_outputs).mono ?_ id
    · intro error after fair
      exact .unwritten project error after fun null => absurd null (project.fault_ne_nullCharacter fair)
    · exact fun ⟨wrote, same⟩ => ⟨same, wrote⟩
  · exact .pure ⟨rfl, .refl _⟩

theorem yields_demandOk
    (wrote : disk.Wrote workspace.disk
      ((if project.artifacts.ok then project.outputs else []) ++ project.reports)) :
    Yields (demandOk project.artifacts) workspace (CompileWrites disk config changes)
      (CompileFails disk config changes) := by
  rw [demandOk]
  split
  · next ok =>
    rw [if_pos ok] at wrote
    rw [Artifacts.ok, Bool.not_eq_true'] at ok
    exact .pure ⟨project, ok, wrote⟩
  · next failed =>
    rw [if_neg failed] at wrote
    rw [Artifacts.ok, Bool.not_eq_true, Bool.not_eq_false'] at failed
    exact .throw (.fatal project failed wrote)

theorem yields_finish (working : disk.HasWorkingDirectory)
    (apart : ∀ place ∈ project.outputs.map Prod.fst, place ∉ project.reports.map Prod.fst)
    (before : disk.Wrote workspace.disk (if project.artifacts.ok then project.outputs else [])) :
    Yields (do
        if let some report := project.settings.report.filter (· ≠ "") then
          writeReport (.ofText report) project.artifacts project.written
        demandOk project.artifacts)
      workspace (CompileWrites disk config changes) (CompileFails disk config changes) := by
  have apart : ∀ place ∈ (if project.artifacts.ok then project.outputs else []).map Prod.fst,
      place ∉ project.reports.map Prod.fst := by
    split
    · exact apart
    · exact fun _ member => nomatch member
  have asked : project.reportPath? = (project.settings.report.filter (· ≠ "")).map .ofText := rfl
  dsimp only
  split
  · next report found =>
    have reports : project.reports = [(disk.resolve (.ofText report),
        (project.artifacts.report project.written).indented.toUTF8)] := by
      rw [CompiledProject.reports, asked, found]
      rfl
    have path : .ofText report ∈ project.reportPath? := by
      rw [asked, found]
      rfl
    refine (yields_writeReport _ _ _ .markup ?_ (before.hasWorkingDirectory working)).bind ?_
    · intro error after fair
      exact .unwritten project error after fun null => ⟨_, path, fair.null_mem null⟩
    · intro _ after wrote
      rw [before.resolve, ← reports] at wrote
      exact yields_demandOk project (before.trans wrote apart)
  · next none =>
    have reports : project.reports = [] := by
      rw [CompiledProject.reports, asked]
      cases found : project.settings.report.filter (· ≠ "") with
      | none => rfl
      | some report => exact absurd found (none report)
    apply yields_demandOk project
    rwa [reports, List.append_nil]

end Compile

theorem yields_runCompile {disk : Disk} (config : Option String) (changes : ConfigChanges)
    (working : disk.HasWorkingDirectory)
    (apart : ∀ project : CompiledProject disk config changes,
      ∀ place ∈ project.outputs.map Prod.fst, place ∉ project.reports.map Prod.fst) :
    Yields (runCompile config changes) ⟨disk, []⟩ (CompileWrites disk config changes)
      (CompileFails disk config changes) := by
  unfold runCompile
  refine .get ((yields_require ?_).bind ?_)
  · intro error failed
    refine .hopeless _ ⟨fun project => ?_⟩ rfl
    cases failed.symm.trans project.resolves
  · rintro settings chosen ⟨resolves, same⟩
    refine (yields_build (fun fault after _ => .markup fault after) ?_).bind ?_
    · intro error failed after unchanged
      refine .hopeless _ ⟨fun project => ?_⟩ (unchanged.trans same)
      cases resolves.symm.trans project.resolves
      rw [same] at failed
      cases failed.symm.trans project.build_outcome
    · rintro artifacts built ⟨unchanged, outcome⟩
      rw [same] at outcome
      obtain ⟨project, rfl, rfl⟩ := CompiledProject.exists_of_build resolves outcome
      have documents := yields_documents project working (unchanged.trans same)
      have finish {written : WrittenFiles} {after : Workspace} (done : written = project.written ∧
          disk.Wrote after.disk (if project.artifacts.ok then project.outputs else [])) :=
        done.1 ▸ yields_finish project working (apart project) done.2
      dsimp only
      split
      · next ok =>
        rw [if_pos ok] at documents
        exact documents.bind finish
      · next failed =>
        rw [if_neg failed] at documents
        exact documents.bind finish

end Command

namespace Sample

def disk : Disk where
  root := .directory [(⟨"schema.graphql", by decide⟩, .file "type Query { name: String }".toUTF8),
    (⟨"page.graphql", by decide⟩, .file "query Page { name }".toUTF8)]
  workingDirectory := []

def schemaFile : FileName := ⟨"schema.graphql", by decide⟩

def pageFile : FileName := ⟨"page.graphql", by decide⟩

def changes : ConfigChanges where
  schema := some "schema.graphql"
  documents := ["page.graphql"]
  output := some "out"
  report := some "report.json"

def result : CommandResult :=
  .ofAction "gqlnorm" .compile (Command.runCompile none changes) disk

theorem exitCode_result : result.exitCode = 0 := by decide +kernel

end Sample

/-- The fault of the files that breaks a command off. -/
def Breakdown.fault? : Breakdown → Option FileFault
  | .file error => some error.fault
  | .input _ | .pass _ | .markup _ => none

namespace Sample

end Sample

end DocumentNormalizer
