import DocumentNormalizer.Proofs.Preservation

namespace DocumentNormalizer

namespace Disk.Keeps

variable {old new : Disk} {touched : Address → Prop}

/-- Where there is a way now and there was none, a directory has been made. -/
theorem exists_made (kept : old.Keeps new touched) {steps : List Step} {start place : Address}
    (leads : new.follow start (steps.map some) = .ok place)
    (lost : old.follow start (steps.map some) ≠ .ok place) :
    ∃ first, first <+: steps ∧ old.root.at? (first.foldl Step.apply start) = none ∧
      new.root.IsDirectoryAt (first.foldl Step.apply start) := by
  -- The first place on the way that nothing was at is the one that has been made.
  induction steps generalizing start with
  | nil => exact absurd leads lost
  | cons step rest ih =>
    rw [List.map_cons, Disk.follow] at leads lost
    cases there : new.root.at? start with
    | none => rw [there] at leads; cases leads
    | some tree =>
      cases tree with
      | file content => rw [there] at leads; cases leads
      | directory entries =>
        cases before : old.root.at? start with
        | none => exact ⟨[], List.nil_prefix, before, entries, there⟩
        | some tree =>
          cases tree with
          | file content =>
            have still := kept.files start (by rw [Disk.file?_eq_some_iff.2 before]; rfl)
            rw [Disk.file?, FileTree.file?, there] at still
            cases still
          | directory others =>
            rw [there] at leads
            rw [before] at lost
            dsimp only at leads lost
            split at leads
            · cases leads
            · next fits =>
              rw [if_neg fits] at lost
              obtain ⟨first, within, nothing, made⟩ := ih leads lost
              exact ⟨step :: first, List.cons_prefix_cons.2 ⟨rfl, within⟩, nothing, made⟩

variable {patterns : List String} {excluded before after : List Path} {path : Path}

theorem isWithin (kept : old.Keeps new touched) (excluded : List Path) (path : Path) :
    new.isWithin (excluded.map new.resolve) path =
      old.isWithin (excluded.map old.resolve) path := by
  have same : new.resolve = old.resolve := funext kept.resolve
  rw [Disk.isWithin, Disk.isWithin, same]

theorem filter_findFiles (kept : old.Keeps new touched)
    (found : old.findFiles patterns excluded = .ok before)
    (again : new.findFiles patterns excluded = .ok after) : after.filter old.isFile = before := by
  apply Path.IsSorted.eq_of_mem_iff
  · exact (Disk.isSorted_findFiles again).filter _
  · exact Disk.isSorted_findFiles found
  · intro path
    rw [List.mem_filter, Disk.mem_findFiles found, Disk.mem_findFiles again, Disk.Finds, Disk.Finds,
      kept.isWithin]
    constructor
    · rintro ⟨⟨_, spelled, outside⟩, file⟩
      exact ⟨file, spelled, outside⟩
    · rintro ⟨file, spelled, outside⟩
      exact ⟨⟨kept.isFile file, spelled, outside⟩, file⟩

/-- A file that is read where none was before has been written, or the way to it has been made. -/
theorem touched_or_exists_made (kept : old.Keeps new touched) (working : old.HasWorkingDirectory)
    (file : new.isFile path = true) (fresh : old.isFile path = false) :
    touched (old.resolve path) ∨ ∃ steps, steps <+: path.steps ∧
      old.root.at? (old.resolve ⟨path.start, steps⟩) = none ∧
      new.root.IsDirectoryAt (old.resolve ⟨path.start, steps⟩) := by
  obtain ⟨content, read⟩ := Disk.isFile_iff_readBytes.1 file
  obtain ⟨place, located, there⟩ := Disk.readBytes_eq_ok_iff_locate.1 read
  obtain ⟨rfl, _⟩ := Disk.locate_eq_ok (kept.hasWorkingDirectory working) located
  rw [kept.resolve] at located there
  have fine := Disk.ofSpelling?_of_locate located
  by_cases known : old.locate path = .ok (old.resolve path)
  · left
    by_contra untouched
    rw [kept.others _ untouched] at there
    have read := Disk.readBytes_eq_ok_iff_locate.2 ⟨_, known, there⟩
    exact absurd (fresh.symm.trans (Disk.isFile_iff_readBytes.2 ⟨_, read⟩)) Bool.false_ne_true
  · right
    rw [Disk.locate_eq_follow fine] at known located
    rw [kept.startAddress] at located
    exact kept.exists_made located known

end Disk.Keeps

namespace Sample

def sweepingChanges : ConfigChanges where
  schema := some "schema.graphql"
  documents := ["page.graphql", "out/../page.graphql", "report.graphql"]
  output := some "out"
  report := some "report.graphql"

def sweeping : ProjectConfig := ({} : ProjectConfig).change sweepingChanges

/-- The project is compiled with patterns that match its report. -/
def sweepingResult : CommandResult :=
  .ofAction "gqlnorm" .compile (Command.runCompile none sweepingChanges) disk

end Sample

namespace CommandResult

variable {disk : Disk}

/-- After a compile that went well, the files that were collected are collected again, in their order,
and no document that was written is. Files that are new among them are the report, or they are found
by way of a directory that has been made. Nothing else can change, but for a path that is found now
and is too long to be looked at. -/
theorem files_ofAction_runCompile (program : String) (config : Option String)
    (changes : ConfigChanges) (working : disk.HasWorkingDirectory)
    (zero : (ofAction program .compile (Command.runCompile config changes) disk).exitCode = 0) :
    let result := ofAction program .compile (Command.runCompile config changes) disk
    ∃ settings before, ProjectConfig.choose disk config changes = .ok settings ∧
      settings.files disk = .ok before ∧
      ((∃ after, settings.files result.disk = .ok after ∧ after.filter disk.isFile = before ∧
        ∀ path ∈ after,
          (disk.resolve (.ofText settings.output)).isPrefixOf (disk.resolve path) = false ∧
          (disk.isFile path = false →
            (∃ report, settings.report.filter (· ≠ "") = some report ∧
              disk.resolve path = disk.resolve (.ofText report)) ∨
            ∃ steps, steps <+: path.steps ∧
              disk.root.at? (disk.resolve ⟨path.start, steps⟩) = none ∧
              result.disk.root.IsDirectoryAt (disk.resolve ⟨path.start, steps⟩))) ∨
      ∃ path, settings.files result.disk = .error (.unusable ⟨.tooLong, path⟩) ∧
        FileFault.pathLimit ≤ path.text.utf8ByteSize ∧
        ∃ pattern ∈ settings.documents, path ∈ result.disk.glob (.ofText pattern) ∧
          path ∉ disk.glob (.ofText pattern)) := by
  intro result
  obtain ⟨kept, compiled⟩ := compileKeeps_ofAction program config changes working
  obtain ⟨project, ok⟩ := compiled zero
  refine ⟨project.settings, project.paths, project.resolves, project.matched, ?_⟩
  have found := ProjectConfig.files_eq_ok_iff.1 project.matched
  rcases Disk.findFiles_of_findFiles found result.disk with ⟨after, again⟩ | ⟨path, failed, long⟩
  · left
    refine ⟨after, ProjectConfig.files_eq_ok_iff.2 again, kept.filter_findFiles found again, ?_⟩
    intro path member
    have outside := ProjectConfig.not_isPrefixOf_of_mem_files
      (ProjectConfig.files_eq_ok_iff.2 again) member
    rw [kept.resolve, kept.resolve] at outside
    refine ⟨outside, fun fresh => ?_⟩
    obtain ⟨file, _⟩ := (Disk.mem_findFiles again).1 member
    rcases kept.touched_or_exists_made working file fresh with ⟨other, target⟩ | made
    · left
      cases Subsingleton.elim other project
      rcases target with ⟨_, output⟩ | report
      · have beneath := project.isPrefixOf_of_mem_outputs output
        exact absurd (outside.symm.trans beneath) Bool.false_ne_true
      · rw [CompiledProject.reports, CompiledProject.reportPath?] at report
        cases asked : project.settings.report.filter (· ≠ "") with
        | none => rw [asked] at report; cases report
        | some text =>
          rw [asked] at report
          exact ⟨text, rfl, List.mem_singleton.1 report⟩
    · exact .inr made
  · right
    refine ⟨path, ?_, long⟩
    rw [ProjectConfig.files, failed]
    rfl

theorem files_ofAction_runCompile_sample : Sample.result.exitCode = 0 ∧
    ∃ settings before after, ProjectConfig.choose Sample.disk none Sample.changes = .ok settings ∧
      settings.files Sample.disk = .ok before ∧ settings.files Sample.result.disk = .ok after ∧
      after.filter Sample.disk.isFile = before := by
  have zero := Sample.exitCode_result
  have fine :
      ((({} : ProjectConfig).change Sample.changes).files Sample.result.disk).isOk = true := by
    decide +kernel
  obtain ⟨settings, before, resolves, found, again⟩ :=
    files_ofAction_runCompile "gqlnorm" none Sample.changes Sample.hasWorkingDirectory zero
  refine ⟨zero, settings, before, ?_⟩
  rcases again with ⟨after, again, same, _⟩ | ⟨path, failed, _⟩
  · exact ⟨after, resolves, found, again, same⟩
  · cases resolves
    have broken : (Except.error (.unusable ⟨.tooLong, path⟩) :
        Except InputError (List Path)).isOk = true := failed ▸ fine
    cases broken

/-- A report that a pattern stands for is collected, and so is a document by way of the output
directory once that is there. -/
theorem files_sweepingResult : Sample.sweepingResult.exitCode = 0 ∧
    (Sample.sweeping.files Sample.disk).toOption = some [.ofText "page.graphql"] ∧
    ∃ after, Sample.sweeping.files Sample.sweepingResult.disk = .ok after ∧
      .ofText "report.graphql" ∈ after ∧ .ofText "out/../page.graphql" ∈ after := by
  -- Sorting is not computed here: that a path is found is told without it.
  have computed : Sample.sweepingResult.exitCode = 0 ∧
      (Sample.sweeping.files Sample.disk).toOption = some [.ofText "page.graphql"] ∧
      (Sample.sweeping.files Sample.sweepingResult.disk).isOk = true ∧
      ∀ text ∈ ["report.graphql", "out/../page.graphql"], text ∈ Sample.sweeping.documents ∧
        Sample.sweepingResult.disk.isFile (.ofText text) = true ∧
        .ofText text ∈ Sample.sweepingResult.disk.glob (.ofText text) ∧
        Sample.sweepingResult.disk.isWithin
          ([.ofText Sample.sweeping.schema, .ofText Sample.sweeping.output].map
            Sample.sweepingResult.disk.resolve) (.ofText text) = false := by
    decide +kernel
  obtain ⟨zero, before, fine, each⟩ := computed
  refine ⟨zero, before, ?_⟩
  cases again : Sample.sweeping.files Sample.sweepingResult.disk with
  | error error => rw [again] at fine; cases fine
  | ok after =>
    have collected (text : String) (member : text ∈ ["report.graphql", "out/../page.graphql"]) :
        .ofText text ∈ after := by
      obtain ⟨listed, file, among, outside⟩ := each text member
      exact (Disk.mem_findFiles (ProjectConfig.files_eq_ok_iff.1 again)).2
        (Disk.finds_of_mem_glob file listed among outside)
    exact ⟨after, rfl, collected _ (by simp), collected _ (by simp)⟩

end CommandResult

end DocumentNormalizer
