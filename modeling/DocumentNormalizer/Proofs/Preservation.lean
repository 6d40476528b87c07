import DocumentNormalizer.Proofs.Commands
import DocumentNormalizer.Proofs.Finding

namespace DocumentNormalizer

namespace Disk

variable {old middle new : Disk} {touched : Address → Prop}

/-- One disk has all directories and all files of another one, and the same bytes but for the files
at the places that are touched. -/
structure Keeps (old new : Disk) (touched : Address → Prop) : Prop where
  workingDirectory : new.workingDirectory = old.workingDirectory
  directories : ∀ place, old.root.IsDirectoryAt place → new.root.IsDirectoryAt place
  files : ∀ place, (old.file? place).isSome → (new.file? place).isSome
  others : ∀ place, ¬touched place → new.file? place = old.file? place

namespace Keeps

theorem refl (disk : Disk) : disk.Keeps disk touched where
  workingDirectory := rfl
  directories _ isDirectory := isDirectory
  files _ isFile := isFile
  others _ _ := rfl

theorem wrote {files : List (Address × ByteArray)} (kept : old.Keeps middle touched)
    (wrote : middle.Wrote new files) (among : ∀ place ∈ files.map Prod.fst, touched place) :
    old.Keeps new touched where
  workingDirectory := wrote.workingDirectory.trans kept.workingDirectory
  directories place isDirectory := wrote.root.directories place (kept.directories place isDirectory)
  files place isFile := by
    by_cases member : place ∈ files.map Prod.fst
    · obtain ⟨file, there, rfl⟩ := List.mem_map.1 member
      rw [Disk.file?, wrote.root.written file there]
      rfl
    · rw [Disk.file?, wrote.root.others place member]
      exact kept.files place isFile
  others place untouched := by
    rw [Disk.file?, wrote.root.others place fun member => untouched (among place member)]
    exact kept.others place untouched

theorem hasWorkingDirectory (kept : old.Keeps new touched) (working : old.HasWorkingDirectory) :
    new.HasWorkingDirectory := by
  rw [HasWorkingDirectory, kept.workingDirectory]
  exact kept.directories _ working

theorem startAddress (kept : old.Keeps new touched) (start : PathStart) :
    new.startAddress start = old.startAddress start := by
  cases start with
  | here => exact kept.workingDirectory
  | root => rfl
  | doubleRoot => rfl

theorem resolve (kept : old.Keeps new touched) (path : Path) :
    new.resolve path = old.resolve path := by
  rw [Disk.resolve, kept.startAddress, Disk.resolve]

theorem follow (kept : old.Keeps new touched) {parts : List (Option Step)} {start place : Address}
    (found : old.follow start parts = .ok place) : new.follow start parts = .ok place := by
  induction parts generalizing start with
  | nil => exact found
  | cons part rest ih =>
    rw [Disk.follow] at found ⊢
    cases there : old.root.at? start with
    | none => rw [there] at found; cases found
    | some tree =>
      cases tree with
      | file content => rw [there] at found; cases found
      | directory entries =>
        obtain ⟨others, still⟩ := kept.directories start ⟨entries, there⟩
        rw [there] at found
        rw [still]
        dsimp only at found ⊢
        split at found
        · cases found
        · next fits =>
          rw [if_neg fits]
          exact ih found

theorem locate (kept : old.Keeps new touched) {path : Path} {place : Address}
    (found : old.locate path = .ok place) : new.locate path = .ok place := by
  rw [Disk.locate] at found ⊢
  split at found
  · cases found
  · rw [kept.startAddress]
    exact kept.follow found

end Keeps

variable {disk : Disk} {path : Path} {place : Address} {content : ByteArray}

theorem file?_eq_some_iff :
    disk.file? place = some content ↔ disk.root.at? place = some (.file content) := by
  rw [file?, FileTree.file?]
  cases disk.root.at? place with
  | none => simp
  | some tree => cases tree <;> simp [FileTree.bytes?]

theorem readBytes_eq_ok_iff :
    disk.readBytes path = .ok content ↔ disk.node path = .ok (.file content) := by
  rw [readBytes]
  cases disk.node path with
  | error fault => simp
  | ok tree => cases tree <;> simp

theorem readBytes_eq_ok_iff_locate : disk.readBytes path = .ok content ↔
    ∃ place, disk.locate path = .ok place ∧ disk.file? place = some content := by
  rw [readBytes_eq_ok_iff, node_eq_ok_iff]
  simp only [file?_eq_some_iff]

theorem isFile_iff_readBytes :
    disk.isFile path = true ↔ ∃ content, disk.readBytes path = .ok content := by
  simp only [isFile_iff, readBytes_eq_ok_iff]

theorem Keeps.readBytes (kept : old.Keeps new touched) (working : old.HasWorkingDirectory)
    (untouched : ¬touched (old.resolve path)) (read : old.readBytes path = .ok content) :
    new.readBytes path = .ok content := by
  obtain ⟨place, found, file⟩ := readBytes_eq_ok_iff_locate.1 read
  obtain ⟨rfl, _⟩ := locate_eq_ok working found
  have same := kept.others _ untouched
  exact readBytes_eq_ok_iff_locate.2 ⟨_, kept.locate found, same.trans file⟩

theorem Keeps.isFile (kept : old.Keeps new touched) (file : old.isFile path = true) :
    new.isFile path = true := by
  obtain ⟨content, read⟩ := isFile_iff_readBytes.1 file
  obtain ⟨place, found, there⟩ := readBytes_eq_ok_iff_locate.1 read
  obtain ⟨after, still⟩ := Option.isSome_iff_exists.1 (kept.files place (by rw [there]; rfl))
  exact isFile_iff_readBytes.2 ⟨after, readBytes_eq_ok_iff_locate.2 ⟨_, kept.locate found, still⟩⟩

end Disk

/-- What holds of a state before an action holds afterwards, whether it goes well or not. -/
def Maintains {ε σ α : Type} (action : ExceptT ε (StateM σ) α) (holds : σ → Prop) : Prop :=
  ∀ state, holds state → Yields action state (fun _ => holds) fun _ => holds

namespace Maintains

variable {ε ε' σ α β : Type} {action : ExceptT ε (StateM σ) α} {holds : σ → Prop}

theorem pure (value : α) : Maintains (pure value : ExceptT ε (StateM σ) α) holds :=
  fun _ before => .pure before

theorem throw (error : ε) : Maintains (throw error : ExceptT ε (StateM σ) α) holds :=
  fun _ before => .throw before

theorem bind {f : α → ExceptT ε (StateM σ) β} (first : Maintains action holds)
    (further : ∀ value, Maintains (f value) holds) : Maintains (action >>= f) holds :=
  fun _ before => (first _ before).bind fun after => further _ _ after

theorem mapM {f : β → ExceptT ε (StateM σ) α} {items : List β}
    (each : ∀ item ∈ items, Maintains (f item) holds) : Maintains (items.mapM f) holds := by
  induction items with
  | nil => exact pure []
  | cons item rest ih =>
    obtain ⟨first, others⟩ := List.forall_mem_cons.1 each
    rw [List.mapM_cons]
    exact first.bind fun _ => (ih others).bind fun _ => pure _

theorem adapt {f : ε → ε'} (maintained : Maintains action holds) :
    Maintains (ExceptT.adapt f action) holds :=
  fun _ before => (maintained _ before).adapt

end Maintains

section Disk

variable {disk : Disk} {touched : Address → Prop}

theorem DiskAction.maintains_makeDirectories (path : Path) :
    Maintains (makeDirectories path) (disk.Keeps · touched) := by
  intro middle kept
  have both {after : Disk} (wrote : middle.Wrote after []) : disk.Keeps after touched :=
    kept.wrote wrote fun _ member => nomatch member
  exact (yields_makeDirectories path).mono both fun bad => both bad.1

theorem DiskAction.maintains_writeFile {path : Path} (working : disk.HasWorkingDirectory)
    (touches : touched (disk.resolve path)) (content : ByteArray) :
    Maintains (writeFile path content) (disk.Keeps · touched) := by
  intro middle kept
  refine .get ?_
  split
  · next done =>
    have wrote := Disk.wrote_of_write (kept.hasWorkingDirectory working) done
    rw [kept.resolve] at wrote
    exact .set (kept.wrote wrote (List.forall_mem_singleton.2 touches))
  · exact .throw kept

theorem Artifacts.maintains_write {artifacts : Artifacts} {directory : Path}
    (working : disk.HasWorkingDirectory)
    (touches : ∀ place ∈ (artifacts.documents.map (PrintedDocument.file disk directory)).map
      Prod.fst, touched place) :
    Maintains (artifacts.write directory) (disk.Keeps · touched) := by
  have document (printed : PrintedDocument) (member : printed ∈ artifacts.documents) :
      Maintains (printed.write directory) (disk.Keeps · touched) := by
    refine .bind (DiskAction.maintains_writeFile working ?_ _) fun _ => .pure _
    exact touches _ (List.mem_map_of_mem (List.mem_map_of_mem member))
  rw [write]
  split
  · exact .adapt (.bind (DiskAction.maintains_makeDirectories _) fun _ => .mapM document)
  · exact .throw _

theorem JsonTree.maintains_write {path : Path} (report : JsonTree)
    (working : disk.HasWorkingDirectory) (touches : touched (disk.resolve path)) :
    Maintains (report.write path) (disk.Keeps · touched) :=
  .bind (DiskAction.maintains_makeDirectories _) fun _ =>
    DiskAction.maintains_writeFile working touches _

end Disk

namespace CommandAction

variable {holds : Disk → Prop}

theorem maintains_say (line : String) : Maintains (say line) (holds ·.disk) :=
  fun _ before => (yields_say line fun _ => before).mono (fun same => same ▸ before) id

theorem maintains_onDisk {ε α : Type} {stop : ε → Stop} {action : DiskAction ε α}
    (maintained : Maintains action holds) : Maintains (onDisk stop action) (holds ·.disk) :=
  fun _ before => yields_onDisk (maintained _ before) id

end CommandAction

/-- The places that a compile can write to: those of the documents, unless something fatal is
reported, and that of the report. -/
def CompiledProject.IsTarget {disk : Disk} {config : Option String} {changes : ConfigChanges}
    (project : CompiledProject disk config changes) (place : Address) : Prop :=
  (project.artifacts.ok = true ∧ place ∈ project.outputs.map Prod.fst) ∨
    place ∈ project.reports.map Prod.fst

namespace Command

open CommandAction

variable {disk : Disk} {config : Option String} {changes : ConfigChanges}

/-- What a compile leaves, if all that it touches are the targets of its project. -/
def CompileKeeps (disk : Disk) (config : Option String) (changes : ConfigChanges)
    (after : Disk) : Prop :=
  disk.Keeps after fun place =>
    ∃ project : CompiledProject disk config changes, project.IsTarget place

variable (project : CompiledProject disk config changes)

theorem maintains_writeDocuments (working : disk.HasWorkingDirectory)
    (ok : project.artifacts.ok = true) :
    Maintains (writeDocuments project.settings project.artifacts)
      (CompileKeeps disk config changes ·.disk) := by
  refine .bind (maintains_onDisk (Artifacts.maintains_write working ?_)) fun _ =>
    .bind (maintains_say _) fun _ => .pure _
  exact fun place member => ⟨project, .inl ⟨ok, member⟩⟩

theorem maintains_writeReport (working : disk.HasWorkingDirectory) {report : String}
    (asked : project.settings.report.filter (· ≠ "") = some report) (written : WrittenFiles) :
    Maintains (writeReport (.ofText report) project.artifacts written)
      (CompileKeeps disk config changes ·.disk) := by
  refine .bind (maintains_onDisk (JsonTree.maintains_write _ working ?_)) fun _ => maintains_say _
  refine ⟨project, .inr ?_⟩
  rw [CompiledProject.reports, CompiledProject.reportPath?, asked]
  exact List.mem_singleton.2 rfl

/-- What a compile that goes well leaves: its project has nothing fatal. -/
def CompileSucceeds (disk : Disk) (config : Option String) (changes : ConfigChanges) (_ : Unit)
    (after : Workspace) : Prop :=
  CompileKeeps disk config changes after.disk ∧
    ∃ project : CompiledProject disk config changes, project.artifacts.ok = true

theorem yields_demandOk_keeps {workspace : Workspace}
    (kept : CompileKeeps disk config changes workspace.disk) :
    Yields (demandOk project.artifacts) workspace (CompileSucceeds disk config changes)
      fun _ after => CompileKeeps disk config changes after.disk := by
  rw [demandOk]
  split
  · next ok => exact .pure ⟨kept, project, ok⟩
  · exact .throw kept

theorem yields_finish_keeps (working : disk.HasWorkingDirectory) (written : WrittenFiles)
    {workspace : Workspace} (kept : CompileKeeps disk config changes workspace.disk) :
    Yields (do
        if let some report := project.settings.report.filter (· ≠ "") then
          writeReport (.ofText report) project.artifacts written
        demandOk project.artifacts)
      workspace (CompileSucceeds disk config changes)
      fun _ after => CompileKeeps disk config changes after.disk := by
  dsimp only
  split
  · next report asked =>
    have reported := maintains_writeReport project working asked written
    exact (reported workspace kept).bind (yields_demandOk_keeps project)
  · exact yields_demandOk_keeps project kept

theorem yields_runCompile_keeps (config : Option String) (changes : ConfigChanges)
    (working : disk.HasWorkingDirectory) :
    Yields (runCompile config changes) ⟨disk, []⟩ (CompileSucceeds disk config changes)
      fun _ after => CompileKeeps disk config changes after.disk := by
  have unchanged {after : Workspace} (same : after.disk = disk) :
      CompileKeeps disk config changes after.disk := same ▸ Disk.Keeps.refl disk
  unfold runCompile
  refine .get ((yields_require fun _ _ => unchanged rfl).bind ?_)
  rintro settings chosen ⟨resolves, same⟩
  refine (yields_build (fun _ _ told => unchanged (told.trans same))
    fun _ _ _ told => unchanged (told.trans same)).bind ?_
  rintro artifacts built ⟨told, outcome⟩
  rw [same] at outcome
  obtain ⟨project, rfl, rfl⟩ := CompiledProject.exists_of_build resolves outcome
  have kept := unchanged (told.trans same)
  dsimp only
  split
  · next ok =>
    have documents := maintains_writeDocuments project working ok
    exact (documents built kept).bind (yields_finish_keeps project working _)
  · exact yields_finish_keeps project working _ kept

end Command

namespace CompiledProject

variable {disk : Disk} {config : Option String} {changes : ConfigChanges}
  (project : CompiledProject disk config changes)

theorem reports_eq_nil (unreported : project.settings.report.filter (· ≠ "") = none) :
    project.reports = [] := by
  rw [reports, reportPath?, unreported]
  rfl

theorem isPrefixOf_of_mem_outputs {place : Address}
    (member : place ∈ project.outputs.map Prod.fst) :
    (disk.resolve project.directory).isPrefixOf place = true := by
  obtain ⟨file, among, rfl⟩ := List.mem_map.1 member
  obtain ⟨document, held, rfl⟩ := List.mem_map.1 among
  obtain ⟨name, _, entry⟩ := project.exists_entry held
  rw [entry, List.isPrefixOf_iff_prefix]
  exact List.prefix_append _ _

end CompiledProject

namespace ProjectConfig

variable {settings : ProjectConfig} {disk : Disk} {paths : List Path} {path : Path}

theorem files_eq_ok_iff : settings.files disk = .ok paths ↔
    disk.findFiles settings.documents [.ofText settings.schema, .ofText settings.output] =
      .ok paths := by
  rw [files]
  exact mapError_eq_ok_iff

theorem not_isPrefixOf_of_mem_files (found : settings.files disk = .ok paths)
    (member : path ∈ paths) :
    (disk.resolve (.ofText settings.output)).isPrefixOf (disk.resolve path) = false := by
  obtain ⟨_, _, outside⟩ := (Disk.mem_findFiles (files_eq_ok_iff.1 found)).1 member
  rw [Disk.isWithin, List.any_eq_false] at outside
  exact Bool.eq_false_of_not_eq_true (outside _ (by simp))

end ProjectConfig

namespace Sample

theorem hasWorkingDirectory : disk.HasWorkingDirectory := ⟨_, rfl⟩

def silentChanges : ConfigChanges := { changes with report := none }

def silentResult : CommandResult :=
  .ofAction "gqlnorm" .compile (Command.runCompile none silentChanges) disk

/-- A project whose schema lies where its document goes. -/
def nestedDisk : Disk where
  root := .directory [(⟨"out", by decide⟩, .directory
      [(⟨"Page.graphql", by decide⟩, .file "type Query { name: String }".toUTF8)]),
    (⟨"query.graphql", by decide⟩, .file "query Page { name }".toUTF8)]
  workingDirectory := []

def nestedChanges : ConfigChanges where
  schema := some "out/Page.graphql"
  documents := ["query.graphql"]
  output := some "out"

def nestedResult : CommandResult :=
  .ofAction "gqlnorm" .compile (Command.runCompile none nestedChanges) nestedDisk

end Sample

namespace CommandResult

variable {disk : Disk}

theorem compileKeeps_ofAction (program : String) (config : Option String) (changes : ConfigChanges)
    (working : disk.HasWorkingDirectory) :
    let result := ofAction program .compile (Command.runCompile config changes) disk
    Command.CompileKeeps disk config changes result.disk ∧ (result.exitCode = 0 →
      ∃ project : CompiledProject disk config changes, project.artifacts.ok = true) := by
  obtain ⟨holds⟩ := Command.yields_runCompile_keeps config changes working
  unfold ofAction
  generalize (Command.runCompile config changes).run ⟨disk, []⟩ = ended at holds ⊢
  obtain ⟨outcome, after⟩ := ended
  cases outcome with
  | ok value => exact ⟨holds.1, fun _ => holds.2⟩
  | error stop => cases stop <;> exact ⟨holds, fun zero => nomatch zero⟩

/-- A compile that goes well writes all of its documents, and then its report. -/
theorem wrote_ofAction (program : String) (config : Option String) (changes : ConfigChanges)
    (working : disk.HasWorkingDirectory)
    (apart : ∀ project : CompiledProject disk config changes,
      ∀ place ∈ project.outputs.map Prod.fst, place ∉ project.reports.map Prod.fst)
    (project : CompiledProject disk config changes) :
    let result := ofAction program .compile (Command.runCompile config changes) disk
    result.exitCode = 0 → disk.Wrote result.disk (project.outputs ++ project.reports) := by
  obtain ⟨holds⟩ := Command.yields_runCompile config changes working apart
  unfold ofAction
  generalize (Command.runCompile config changes).run ⟨disk, []⟩ = ended at holds ⊢
  obtain ⟨outcome, after⟩ := ended
  cases outcome with
  | ok value =>
    intro result zero
    obtain ⟨other, _, wrote⟩ := holds
    cases Subsingleton.elim other project
    exact wrote
  | error stop => cases stop <;> exact fun zero => nomatch zero

/-- Without a report, a compile leaves the source files as they are, however it ends. It also leaves
any other file as it is, the schema and the settings among them, unless that is where a document goes;
then it holds that document as soon as the compile went well. -/
theorem readBytes_ofAction_runCompile (program : String) (config : Option String)
    (changes : ConfigChanges) (working : disk.HasWorkingDirectory)
    (unreported : ∀ settings, ProjectConfig.choose disk config changes = .ok settings →
      settings.report.filter (· ≠ "") = none) :
    let result := ofAction program .compile (Command.runCompile config changes) disk
    (∀ settings paths, ProjectConfig.choose disk config changes = .ok settings →
      settings.files disk = .ok paths → ∀ path ∈ paths, ∃ content,
        disk.readBytes path = .ok content ∧ result.disk.readBytes path = .ok content) ∧
    ∀ path content, disk.readBytes path = .ok content →
      result.disk.readBytes path = .ok content ∨
      ∃ project : CompiledProject disk config changes, project.artifacts.ok = true ∧
        ∃ document ∈ project.artifacts.documents,
          disk.resolve path = disk.resolve (document.path project.directory) ∧
          (result.exitCode = 0 →
            result.disk.readBytes path = .ok (document.text ++ "\n").toUTF8) := by
  intro result
  have silent (project : CompiledProject disk config changes) : project.reports = [] :=
    project.reports_eq_nil (unreported _ project.resolves)
  obtain ⟨kept, _⟩ := compileKeeps_ofAction program config changes working
  have targets (project : CompiledProject disk config changes) {place : Address}
      (target : project.IsTarget place) :
      project.artifacts.ok = true ∧ place ∈ project.outputs.map Prod.fst := by
    rcases target with output | report
    · exact output
    · rw [silent] at report
      cases report
  constructor
  · intro settings paths resolves found path member
    obtain ⟨file, _, _⟩ :=
      (Disk.mem_findFiles (ProjectConfig.files_eq_ok_iff.1 found)).1 member
    obtain ⟨content, read⟩ := Disk.isFile_iff_readBytes.1 file
    -- A source file that documents went to would be beneath the output directory.
    refine ⟨content, read, kept.readBytes working ?_ read⟩
    rintro ⟨project, target⟩
    have beneath := project.isPrefixOf_of_mem_outputs (targets project target).2
    cases resolves.symm.trans project.resolves
    have outside := ProjectConfig.not_isPrefixOf_of_mem_files found member
    exact absurd (outside.symm.trans beneath) Bool.false_ne_true
  · intro path content read
    by_cases touched : ∃ project : CompiledProject disk config changes,
        project.IsTarget (disk.resolve path)
    · right
      obtain ⟨project, target⟩ := touched
      obtain ⟨ok, member⟩ := targets project target
      obtain ⟨file, among, same⟩ := List.mem_map.1 member
      obtain ⟨document, held, rfl⟩ := List.mem_map.1 among
      refine ⟨project, ok, document, held, same.symm, fun zero => ?_⟩
      have apart (other : CompiledProject disk config changes) :
          ∀ place ∈ other.outputs.map Prod.fst, place ∉ other.reports.map Prod.fst := by
        intro place _ report
        rw [silent] at report
        cases report
      have wrote := wrote_ofAction program config changes working apart project zero
      rw [silent, List.append_nil] at wrote
      obtain ⟨place, found, _⟩ := Disk.readBytes_eq_ok_iff_locate.1 read
      obtain ⟨rfl, _⟩ := Disk.locate_eq_ok working found
      have written := wrote.root.written _ among
      rw [same] at written
      exact Disk.readBytes_eq_ok_iff_locate.2 ⟨_, kept.locate found, written⟩
    · exact .inl (kept.readBytes working touched read)

theorem readBytes_ofAction_runCompile_sample :
    ∃ content, Sample.disk.readBytes (.ofText "page.graphql") = .ok content ∧
      Sample.silentResult.disk.readBytes (.ofText "page.graphql") = .ok content := by
  have silent (settings : ProjectConfig)
      (resolves : ProjectConfig.choose Sample.disk none Sample.silentChanges = .ok settings) :
      settings.report.filter (· ≠ "") = none := by
    cases resolves
    rfl
  obtain ⟨sources, _⟩ := readBytes_ofAction_runCompile "gqlnorm" none Sample.silentChanges
    Sample.hasWorkingDirectory silent
  have found : ((({} : ProjectConfig).change Sample.silentChanges).files Sample.disk).toOption =
      some [.ofText "page.graphql"] := by decide +kernel
  cases files : (({} : ProjectConfig).change Sample.silentChanges).files Sample.disk with
  | error error => rw [files] at found; cases found
  | ok paths =>
    rw [files] at found
    cases found
    exact sources _ _ rfl files _ List.mem_cons_self

theorem schema_overwritten :
    Sample.nestedResult.exitCode = 0 ∧
    (Sample.nestedDisk.readBytes (.ofText "out/Page.graphql")).toOption =
      some "type Query { name: String }".toUTF8 ∧
    (Sample.nestedResult.disk.readBytes (.ofText "out/Page.graphql")).toOption =
      some "query Page \x7b\n  name\n\x7d\n".toUTF8 := by
  decide +kernel

end CommandResult

end DocumentNormalizer
