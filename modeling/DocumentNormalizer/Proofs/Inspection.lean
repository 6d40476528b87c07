import DocumentNormalizer.Proofs.Display
import DocumentNormalizer.Proofs.Spellings

namespace DocumentNormalizer

section Runs

variable {ε σ α β : Type} {action : ExceptT ε (StateM σ) α} {f : α → ExceptT ε (StateM σ) β}
  {state after : σ}

theorem run_bind_of_ok {value : α} (ran : action.run state = (.ok value, after)) :
    (action >>= f).run state = (f value).run after := by
  simp only [ExceptT.run, Bind.bind, ExceptT.bind, ExceptT.mk, StateT.bind] at ran ⊢
  rw [ran]
  rfl

theorem run_bind_of_error {error : ε} (ran : action.run state = (.error error, after)) :
    (action >>= f).run state = (.error error, after) := by
  simp only [ExceptT.run, Bind.bind, ExceptT.bind, ExceptT.mk, StateT.bind] at ran ⊢
  rw [ran]
  rfl

theorem exists_of_run_bind_eq_ok {result : β} (ran : (action >>= f).run state = (.ok result, after)) :
    ∃ value middle, action.run state = (.ok value, middle) ∧
      (f value).run middle = (.ok result, after) := by
  cases first : action.run state with
  | mk outcome middle =>
    cases outcome with
    | error error =>
      rw [run_bind_of_error first] at ran
      cases ran
    | ok value =>
      rw [run_bind_of_ok first] at ran
      exact ⟨value, middle, rfl, ran⟩

end Runs

theorem Screen.marked_empty : marked "" = .ok "" := by
  have pieces : Markup.pieces 0 "".toList = [] := by
    rw [String.toList_empty, Markup.pieces]
    rfl
  have shown : Markup.plain "" = .ok "" := by
    rw [Markup.plain, pieces, Markup.showPieces, List.reverse_nil, Pictograph.expand]
    rfl
  rw [marked, shown]
  rfl

namespace CommandAction

variable {workspace after : Workspace} {line text : String}

theorem run_say_of_ok (shows : Screen.marked line = .ok text) : (say line).run workspace =
    (.ok (), ⟨workspace.disk, workspace.shown ++ [.line text]⟩) := by
  rw [say, shows]
  rfl

theorem run_say_of_error {fault : MarkupFault} (fails : Screen.marked line = .error fault) :
    (say line).run workspace = (.error (.brokenOff (.markup fault)), workspace) := by
  rw [say, fails]
  rfl

theorem exists_of_run_say (said : (say line).run workspace = (.ok (), after)) :
    ∃ text, Screen.marked line = .ok text ∧
      after = ⟨workspace.disk, workspace.shown ++ [.line text]⟩ := by
  cases shows : Screen.marked line with
  | error fault =>
    rw [run_say_of_error shows] at said
    cases said
  | ok text =>
    rw [run_say_of_ok shows] at said
    cases said
    exact ⟨text, rfl, rfl⟩

theorem exists_of_run_require {ε α : Type} {stop : ε → Stop} {outcome : Except ε α} {value : α}
    (ran : (require stop outcome).run workspace = (.ok value, after)) :
    outcome = .ok value ∧ after = workspace := by
  cases outcome with
  | error error => cases ran
  | ok other =>
    cases ran
    exact ⟨rfl, rfl⟩

theorem shown_of_run_onDisk {ε α : Type} {stop : ε → Stop} {action : DiskAction ε α} {value : α}
    (ran : (onDisk stop action).run workspace = (.ok value, after)) :
    after.shown = workspace.shown := by
  obtain ⟨_, _, got, ran⟩ := exists_of_run_bind_eq_ok ran
  cases got
  generalize action.run workspace.disk = result at ran
  obtain ⟨outcome, disk⟩ := result
  obtain ⟨_, _, changed, ran⟩ := exists_of_run_bind_eq_ok ran
  cases changed
  rw [(exists_of_run_require ran).2]

end CommandAction

namespace Command

open CommandAction

variable {workspace : Workspace}

def heading (document : PrintedDocument) : String :=
  "[bold]# " ++ document.name ++ "[/bold] [dim](" ++ document.kind.text ++ ", " ++
    document.sourceFile ++ ")[/dim]"

theorem showDocument_eq (document : PrintedDocument) : showDocument document = (do
    say ""
    say (heading document)
    sayPlain document.text) := rfl

/-- What is shown of a document: a blank line, the line above it and its text. -/
def view (document : PrintedDocument) : Except MarkupFault (List Shown) :=
  (Screen.marked (heading document)).map fun line =>
    [.line "", .line line, .line (Screen.plain document.text)]

theorem exists_of_view {document : PrintedDocument} {views : List Shown}
    (shows : view document = .ok views) :
    ∃ line, Screen.marked (heading document) = .ok line ∧
      views = [.line "", .line line, .line (Screen.plain document.text)] := by
  rw [view] at shows
  cases marked : Screen.marked (heading document) with
  | error fault =>
    rw [marked] at shows
    cases shows
  | ok line =>
    rw [marked] at shows
    cases shows
    exact ⟨line, rfl, rfl⟩

theorem run_showDocument_of_ok {document : PrintedDocument} {views : List Shown}
    (shows : view document = .ok views) :
    (showDocument document).run workspace = (.ok (), ⟨workspace.disk, workspace.shown ++ views⟩) := by
  obtain ⟨line, marked, rfl⟩ := exists_of_view shows
  rw [showDocument_eq, run_bind_of_ok (run_say_of_ok Screen.marked_empty),
    run_bind_of_ok (run_say_of_ok marked)]
  show (_, _) = _
  simp

theorem run_showDocument_of_error {document : PrintedDocument} {fault : MarkupFault}
    (fails : view document = .error fault) : (showDocument document).run workspace =
      (.error (.brokenOff (.markup fault)), ⟨workspace.disk, workspace.shown ++ [.line ""]⟩) := by
  rw [view] at fails
  cases marked : Screen.marked (heading document) with
  | error other =>
    rw [marked] at fails
    cases fails
    rw [showDocument_eq, run_bind_of_ok (run_say_of_ok Screen.marked_empty),
      run_bind_of_error (run_say_of_error marked)]
  | ok line =>
    rw [marked] at fails
    cases fails

/-- Documents are shown up to the first whose heading is no markup. -/
theorem run_forM_showDocument (documents : List PrintedDocument) (workspace : Workspace) :
    match documents.mapM view with
    | .ok views => (documents.forM showDocument).run workspace =
      (.ok (), ⟨workspace.disk, workspace.shown ++ views.flatten⟩)
    | .error fault => ∃ told, (documents.forM showDocument).run workspace =
      (.error (.brokenOff (.markup fault)), ⟨workspace.disk, workspace.shown ++ told⟩) := by
  induction documents generalizing workspace with
  | nil =>
    show _ = _
    simp
    rfl
  | cons document rest ih =>
    rw [List.mapM_cons]
    cases first : view document with
    | error fault =>
      refine ⟨[.line ""], ?_⟩
      exact run_bind_of_error (run_showDocument_of_error first)
    | ok views =>
      have others := ih ⟨workspace.disk, workspace.shown ++ views⟩
      have here : ((document :: rest).forM showDocument).run workspace =
          (rest.forM showDocument).run ⟨workspace.disk, workspace.shown ++ views⟩ :=
        run_bind_of_ok (run_showDocument_of_ok first)
      cases later : rest.mapM view with
      | error fault =>
        rw [later] at others
        obtain ⟨told, ran⟩ := others
        refine ⟨views ++ told, ?_⟩
        rw [here, ran, List.append_assoc]
      | ok more =>
        rw [later] at others
        show _ = _
        rw [here, others, List.append_assoc]
        rfl

theorem run_build_congr {settings other : ProjectConfig} (schema : other.schema = settings.schema)
    (same : other.build workspace.disk = settings.build workspace.disk) :
    (build other).run workspace = (build settings).run workspace := by
  rw [build, build, schema]
  cases marked : Screen.marked ("[bold]Compiling documents against " ++ settings.schema ++ "[/bold]") with
  | error fault =>
    rw [run_bind_of_error (run_say_of_error marked), run_bind_of_error (run_say_of_error marked)]
  | ok text =>
    rw [run_bind_of_ok (run_say_of_ok marked), run_bind_of_ok (run_say_of_ok marked)]
    have got (disk : Disk) (shown : List Shown) :
        (get : CommandAction Workspace).run ⟨disk, shown⟩ = (.ok ⟨disk, shown⟩, ⟨disk, shown⟩) := rfl
    rw [run_bind_of_ok (got _ _), run_bind_of_ok (got _ _)]
    dsimp only
    rw [same]

end Command

namespace ProjectConfig

variable {settings : ProjectConfig} {disk : Disk} {paths : List Path}

def intoDirectory (settings : ProjectConfig) (output : String) : ProjectConfig :=
  { settings with output := output }

theorem build_intoDirectory {output : String}
    (same : (settings.intoDirectory output).files disk = settings.files disk) :
    (settings.intoDirectory output).build disk = settings.build disk := by
  have gathered : (settings.intoDirectory output).collect disk = settings.collect disk := by
    rw [collect, collect, same]
  have compiled (told : List BuildEvent) (schema : Schema) (documents : List Document) :
      (settings.intoDirectory output).compile told schema documents =
        settings.compile told schema documents := by
    have keys : (settings.intoDirectory output).keyFields = settings.keyFields := rfl
    rw [compile, compile, keys]
  have schema : (settings.intoDirectory output).schema = settings.schema := rfl
  unfold build
  rw [schema]
  cases Schema.read disk (.ofText settings.schema) with
  | error error => rfl
  | ok made =>
    dsimp only
    rw [gathered]
    cases settings.collect disk with
    | error error => rfl
    | ok counted =>
      obtain ⟨count, documents⟩ := counted
      exact compiled _ _ _

/-- What is collected where no matched file is beneath the output directory: the same for another one,
without what is beneath that. -/
theorem files_intoDirectory {output : String} (found : settings.files disk = .ok paths)
    (sound : '\x00' ∉ (Path.ofText output).text.toList)
    (apart : ∀ path, disk.Finds settings.documents [.ofText settings.schema] path →
      ¬disk.resolve (.ofText settings.output) <+: disk.resolve path) :
    (settings.intoDirectory output).files disk = .ok (paths.filter fun path =>
      !(disk.resolve (.ofText output)).isPrefixOf (disk.resolve path)) := by
  have matched := files_eq_ok_iff.1 found
  have can := Disk.exists_findFiles_iff.1 ⟨paths, matched⟩
  have canOther : disk.CanFind settings.documents [.ofText settings.schema, .ofText output] := {
    excludes := by
      intro path member
      rcases List.mem_cons.1 member with rfl | last
      · exact can.excludes _ List.mem_cons_self
      · rw [List.mem_singleton.1 last]
        exact sound
    looks := can.looks
    fits := can.fits }
  obtain ⟨others, again⟩ := Disk.exists_findFiles_iff.2 canOther
  rw [files_eq_ok_iff]
  show disk.findFiles settings.documents [.ofText settings.schema, .ofText output] = _
  rw [again]
  apply congrArg Except.ok
  apply Path.IsSorted.eq_of_mem_iff (Disk.isSorted_findFiles again)
  · exact (Disk.isSorted_findFiles matched).filter _
  · intro path
    rw [List.mem_filter, Disk.mem_findFiles again, Disk.mem_findFiles matched, Disk.Finds, Disk.Finds,
      Disk.isWithin_eq_false_iff, Disk.isWithin_eq_false_iff, Bool.not_eq_true',
      ← Bool.not_eq_true, List.isPrefixOf_iff_prefix]
    constructor
    · intro finds
      obtain ⟨file, spelled, outside⟩ := finds
      obtain ⟨first, last⟩ := List.forall_mem_cons.1 outside
      have known : disk.Finds settings.documents [.ofText settings.schema] path :=
        ⟨file, spelled, Disk.isWithin_eq_false_iff.2 (List.forall_mem_singleton.2 first)⟩
      refine ⟨⟨file, spelled, ?_⟩, last _ List.mem_cons_self⟩
      exact List.forall_mem_cons.2 ⟨first, List.forall_mem_singleton.2 (apart path known)⟩
    · intro both
      obtain ⟨⟨file, spelled, outside⟩, beside⟩ := both
      obtain ⟨first, _⟩ := List.forall_mem_cons.1 outside
      exact ⟨file, spelled, List.forall_mem_cons.2 ⟨first, List.forall_mem_singleton.2 beside⟩⟩

end ProjectConfig

namespace Command

open CommandAction

variable {workspace after : Workspace} {disk : Disk} {changes : ConfigChanges}
  {settings : ProjectConfig} {artifacts : Artifacts}

theorem run_build_intoDirectory {output : String}
    (same : (settings.intoDirectory output).files disk = settings.files disk) {shown : List Shown} :
    (build (settings.intoDirectory output)).run ⟨disk, shown⟩ = (build settings).run ⟨disk, shown⟩ := by
  have schema : (settings.intoDirectory output).schema = settings.schema := rfl
  exact run_build_congr schema (ProjectConfig.build_intoDirectory same)

theorem outcome_of_run_build (built : (build settings).run workspace = (.ok artifacts, after)) :
    after.disk = workspace.disk ∧ (settings.build workspace.disk).outcome = .ok artifacts := by
  have made : Yields (build settings) workspace (fun artifacts after => after.disk = workspace.disk ∧
      (settings.build workspace.disk).outcome = .ok artifacts) fun _ _ => True :=
    yields_build (fun _ _ _ => trivial) fun _ _ _ _ => trivial
  have outcome := made.run
  rw [built] at outcome
  exact outcome

theorem shown_of_run_writeDocuments {written : WrittenFiles}
    (ran : (writeDocuments settings artifacts).run workspace = (.ok written, after)) :
    ∃ line, after.shown = workspace.shown ++ [.line line] := by
  obtain ⟨files, middle, wrote, ran⟩ := exists_of_run_bind_eq_ok ran
  obtain ⟨_, last, said, ran⟩ := exists_of_run_bind_eq_ok ran
  obtain ⟨line, _, same⟩ := exists_of_run_say said
  cases ran
  rw [same, shown_of_run_onDisk wrote]
  exact ⟨_, rfl⟩

theorem run_demandOk (ran : (demandOk artifacts).run workspace = (.ok (), after)) :
    artifacts.ok = true ∧ after = workspace := by
  rw [demandOk] at ran
  split at ran
  · next ok =>
    cases ran
    exact ⟨ok, rfl⟩
  · cases ran

/-- A compile that goes well without a report has built something that is all right, and tells one more
line behind. -/
theorem exists_of_run_compile (unreported : settings.report = none)
    (chosen : ProjectConfig.choose disk none changes = .ok settings)
    (ran : (runCompile none changes).run ⟨disk, []⟩ = (.ok (), after)) :
    ∃ artifacts built line, (build settings).run ⟨disk, []⟩ = (.ok artifacts, built) ∧
      artifacts.ok = true ∧ after.shown = built.shown ++ [.line line] := by
  unfold runCompile at ran
  obtain ⟨_, _, got, ran⟩ := exists_of_run_bind_eq_ok ran
  cases got
  obtain ⟨other, _, required, ran⟩ := exists_of_run_bind_eq_ok ran
  obtain ⟨same, rfl⟩ := exists_of_run_require required
  cases chosen.symm.trans same
  obtain ⟨artifacts, built, first, ran⟩ := exists_of_run_bind_eq_ok ran
  have silent : settings.report.filter (· ≠ "") = none := by rw [unreported]; rfl
  dsimp only at ran
  rw [silent] at ran
  split at ran
  · next ok =>
    obtain ⟨written, middle, wrote, ran⟩ := exists_of_run_bind_eq_ok ran
    obtain ⟨line, told⟩ := shown_of_run_writeDocuments wrote
    obtain ⟨_, rfl⟩ := run_demandOk ran
    exact ⟨artifacts, built, line, first, ok, told⟩
  · next failed =>
    obtain ⟨_, _, _, ran⟩ := exists_of_run_bind_eq_ok ran
    exact absurd (run_demandOk ran).1 failed

/-- What an inspection shows that builds something that is all right: what the build tells, and then the
documents up to the first whose heading is no markup. -/
theorem run_inspect (chosen : ProjectConfig.choose disk none changes = .ok settings)
    (built : (build settings).run ⟨disk, []⟩ = (.ok artifacts, workspace)) (ok : artifacts.ok = true) :
    match artifacts.documents.mapM view with
    | .ok views => (runInspect changes).run ⟨disk, []⟩ =
      (.ok (), ⟨workspace.disk, workspace.shown ++ views.flatten⟩)
    | .error fault => ∃ told, (runInspect changes).run ⟨disk, []⟩ =
      (.error (.brokenOff (.markup fault)), ⟨workspace.disk, workspace.shown ++ told⟩) := by
  have begins : (runInspect changes).run ⟨disk, []⟩ =
      (do
        artifacts.documents.forM showDocument
        demandOk artifacts : CommandAction Unit).run workspace := by
    unfold runInspect
    have got : (get : CommandAction Workspace).run ⟨disk, []⟩ = (.ok ⟨disk, []⟩, ⟨disk, []⟩) := rfl
    rw [run_bind_of_ok got]
    dsimp only
    rw [chosen]
    have required : (require Stop.ofSettings (.ok settings) : CommandAction ProjectConfig).run
        ⟨disk, []⟩ = (.ok settings, ⟨disk, []⟩) := rfl
    rw [run_bind_of_ok required, run_bind_of_ok built]
  have shown := run_forM_showDocument artifacts.documents workspace
  split at shown
  · next views _ =>
    rw [begins, run_bind_of_ok shown, demandOk, if_pos ok]
    rfl
  · next fault _ =>
    obtain ⟨told, ran⟩ := shown
    exact ⟨told, by rw [begins, run_bind_of_error ran]⟩

end Command

theorem ProjectConfig.choose_intoDirectory {disk : Disk} {changes : ConfigChanges}
    {settings : ProjectConfig} (chosen : choose disk none changes = .ok settings) :
    choose disk none { changes with output := none } = .ok (settings.intoDirectory "generated") := by
  rw [choose] at chosen ⊢
  split at chosen
  · cases chosen
  · next named =>
    cases chosen
    rw [if_neg named]
    rfl

namespace CommandResult

variable {disk : Disk} {changes : ConfigChanges} {settings : ProjectConfig}

theorem exists_of_exitCode {program : String} {command : Command} {action : CommandAction Unit}
    (zero : (ofAction program command action disk).exitCode = 0) : ∃ after,
      action.run ⟨disk, []⟩ = (.ok (), after) ∧
        (ofAction program command action disk).shown = after.shown := by
  unfold ofAction at zero ⊢
  generalize action.run ⟨disk, []⟩ = ended at zero ⊢
  obtain ⟨outcome, after⟩ := ended
  cases outcome with
  | ok value => exact ⟨after, rfl, List.append_nil _⟩
  | error stop => cases stop <;> cases zero

theorem ofAction_runInspect (program : String) {artifacts : Artifacts} {workspace : Workspace}
    (chosen : ProjectConfig.choose disk none changes = .ok settings)
    (built : (Command.build settings).run ⟨disk, []⟩ = (.ok artifacts, workspace))
    (ok : artifacts.ok = true) :
    match artifacts.documents.mapM Command.view with
    | .ok views => ofAction program .inspect (Command.runInspect changes) disk =
      ⟨0, workspace.shown ++ views.flatten, workspace.disk, none⟩
    | .error fault => ∃ told, ofAction program .inspect (Command.runInspect changes) disk =
      ⟨1, workspace.shown ++ told, workspace.disk, some (.markup fault)⟩ := by
  have ran := Command.run_inspect chosen built ok
  split at ran
  · next views _ =>
    rw [ofAction, ran]
    dsimp only
    rw [List.append_nil]
  · next fault _ =>
    obtain ⟨told, ran⟩ := ran
    use told
    rw [ofAction, ran]
    dsimp only
    rw [List.append_nil]

/-- After a compile that went well, with no matched file beneath its output directory, an inspection of
the same arguments collects what is not beneath the directory that is the output directory by default.
If that is everything, it tells the same and shows the documents that were written, up to the first
whose heading is no markup. However many columns the console has, it draws their texts as they are
written if they are plain for it. -/
theorem inspect_shows (program : String) (working : disk.HasWorkingDirectory)
    (chosen : ProjectConfig.choose disk none changes = .ok settings)
    (unreported : settings.report = none)
    (apart : ∀ path, disk.Finds settings.documents [.ofText settings.schema] path →
      ¬disk.resolve (.ofText settings.output) <+: disk.resolve path)
    (zero : (ofAction program .compile (Command.runCompile none changes) disk).exitCode = 0) :
    let compiled := ofAction program .compile (Command.runCompile none changes) disk
    let inspected :=
      ofAction program .inspect (Command.runInspect { changes with output := none }) disk
    ∃ project : CompiledProject disk none changes, disk.Wrote compiled.disk project.outputs ∧
      (settings.intoDirectory "generated").files disk = .ok (project.paths.filter fun path =>
        !(disk.resolve (.ofText "generated")).isPrefixOf (disk.resolve path)) ∧
      ((∀ path ∈ project.paths, ¬disk.resolve (.ofText "generated") <+: disk.resolve path) →
        inspected.disk = disk ∧ ∃ told line, compiled.shown = told ++ [.line line] ∧
          match project.artifacts.documents.mapM Command.view with
          | .ok views => inspected.exitCode = 0 ∧ inspected.breakdown = none ∧
            inspected.shown = told ++ views.flatten
          | .error fault => inspected.exitCode = 1 ∧ inspected.breakdown = some (.markup fault) ∧
            ∃ more, inspected.shown = told ++ more) ∧
      ∀ document ∈ project.artifacts.documents, ∀ views, Command.view document = .ok views →
        ∃ line text, Screen.marked (Command.heading document) = .ok line ∧
          views = [.line "", .line line, .line text] ∧
          ∀ columns, Screen.IsPlain columns document.text →
            text = document.text ∧ Screen.drawn columns text = document.text ++ "\n" := by
  intro compiled inspected
  obtain ⟨after, ran, shown⟩ := exists_of_exitCode zero
  obtain ⟨artifacts, built, line, begun, ok, told⟩ :=
    Command.exists_of_run_compile unreported chosen ran
  obtain ⟨_, compiles⟩ := compileKeeps_ofAction program none changes working
  obtain ⟨project, _⟩ := compiles zero
  cases chosen.symm.trans project.resolves
  have silent : project.reports = [] :=
    project.reports_eq_nil (by rw [unreported]; rfl)
  have wrote := wrote_ofAction program none changes working
    (fun other place _ => by
      rw [Subsingleton.elim other project, silent]
      exact List.not_mem_nil) project zero
  rw [silent, List.append_nil] at wrote
  have sound : '\x00' ∉ (Path.ofText "generated").text.toList := by decide
  have files := ProjectConfig.files_intoDirectory project.matched sound apart
  refine ⟨project, wrote, files, ?_, ?_⟩
  · intro beside
    have same : (project.settings.intoDirectory "generated").files disk =
        project.settings.files disk := by
      rw [files, project.matched, List.filter_eq_self.2]
      intro path member
      rw [Bool.not_eq_true', ← Bool.not_eq_true, List.isPrefixOf_iff_prefix]
      exact beside path member
    have alike := (Command.run_build_intoDirectory same).trans begun
    obtain ⟨unchanged, outcome⟩ := Command.outcome_of_run_build begun
    have equal : artifacts = project.artifacts :=
      Except.ok.inj (outcome.symm.trans project.build_outcome)
    have shows := ofAction_runInspect program
      (ProjectConfig.choose_intoDirectory project.resolves) alike ok
    rw [equal] at shows
    have result : inspected = ofAction program .inspect
      (Command.runInspect { changes with output := none }) disk := rfl
    split at shows
    · next views viewed =>
      rw [result, shows]
      exact ⟨unchanged, built.shown, line, shown.trans told, rfl, rfl, rfl⟩
    · next fault viewed =>
      obtain ⟨more, shows⟩ := shows
      rw [result, shows]
      exact ⟨unchanged, built.shown, line, shown.trans told, rfl, rfl, more, rfl⟩
  · intro document _ views shows
    obtain ⟨line, marked, whole⟩ := Command.exists_of_view shows
    refine ⟨line, _, marked, whole, ?_⟩
    intro columns plain
    rw [Screen.plain_of_isPlain plain]
    exact ⟨rfl, Screen.drawn_of_isPlain plain⟩

end CommandResult

namespace Sample

def silentSettings : ProjectConfig := ({} : ProjectConfig).change silentChanges

def inspection : CommandResult :=
  .ofAction "gqlnorm" .inspect (Command.runInspect { silentChanges with output := none }) disk

/-- A project whose document lies where documents go by default. -/
def misplaced : Disk where
  root := .directory [(schemaFile, .file "type Query { name: String }".toUTF8),
    (⟨"generated", by decide⟩, .directory
      [(pageFile, .file "query Page { name }".toUTF8)])]
  workingDirectory := []

def misplacedChanges : ConfigChanges where
  schema := some "schema.graphql"
  documents := ["generated/page.graphql"]
  output := some "out"

end Sample

theorem CommandResult.inspect_shows_sample :
    ∃ (project : CompiledProject Sample.disk none Sample.silentChanges) (views : List (List Shown))
      (told : List Shown) (line : String),
      Sample.disk.Wrote Sample.silentResult.disk project.outputs ∧
      Sample.inspection.disk = Sample.disk ∧
      project.artifacts.documents.mapM Command.view = .ok views ∧
      Sample.silentResult.shown = told ++ [.line line] ∧
      Sample.inspection.shown = told ++ views.flatten := by
  have zero : Sample.silentResult.exitCode = 0 := by decide +kernel
  have computed : (Sample.disk.findFiles Sample.silentSettings.documents
        [.ofText Sample.silentSettings.schema]).toOption = some [.ofText "page.graphql"] ∧
      (Sample.silentSettings.files Sample.disk).toOption = some [.ofText "page.graphql"] := by
    decide +kernel
  have apart : ∀ path, Sample.disk.Finds Sample.silentSettings.documents
      [.ofText Sample.silentSettings.schema] path →
      ¬Sample.disk.resolve (.ofText Sample.silentSettings.output) <+: Sample.disk.resolve path := by
    intro path finds
    have member := (Disk.mem_findFiles (eq_ok_of_toOption computed.1)).2 finds
    rw [List.mem_singleton.1 member]
    decide +kernel
  obtain ⟨project, wrote, _, shows, _⟩ :=
    inspect_shows "gqlnorm" Sample.hasWorkingDirectory rfl rfl apart zero
  have settings : project.settings = Sample.silentSettings :=
    Except.ok.inj (project.resolves.symm.trans rfl)
  have paths : project.paths = [.ofText "page.graphql"] := by
    have matched := project.matched
    rw [settings, eq_ok_of_toOption computed.2] at matched
    exact (Except.ok.inj matched).symm
  have beside : ∀ path ∈ project.paths,
      ¬Sample.disk.resolve (.ofText "generated") <+: Sample.disk.resolve path := by
    rw [paths]
    decide +kernel
  obtain ⟨unchanged, told, line, compiled, shown⟩ := shows beside
  split at shown
  · next views viewed =>
    exact ⟨project, views, told, line, wrote, unchanged, viewed, compiled, shown.2.2⟩
  · have fine : Sample.inspection.exitCode = 0 := by decide +kernel
    cases fine.symm.trans shown.1

/-- A document that lies where documents go by default is compiled, but an inspection leaves it out. -/
theorem CommandResult.inspect_misses :
    let compiled := ofAction "gqlnorm" .compile
      (Command.runCompile none Sample.misplacedChanges) Sample.misplaced
    let inspected := ofAction "gqlnorm" .inspect
      (Command.runInspect { Sample.misplacedChanges with output := none }) Sample.misplaced
    compiled.exitCode = 0 ∧ inspected.exitCode = 0 ∧
    (compiled.disk.readBytes (.ofText "out/Page.graphql")).toOption =
      some "query Page \x7b\n  name\n\x7d\n".toUTF8 ∧
    (inspected.shown.map fun
      | .text line | .line line => line
      | .table table => table.title) =
      ["Compiling documents against schema.graphql", "  Loading schema schema.graphql",
        "    Found 11 types", "  Collected 0 documents from 0 files",
        "  Running pass validate_documents over 0 documents",
        "  Running pass add_typename over 0 documents", "    0 warning(s), no errors"] := by
  decide +kernel

end DocumentNormalizer
