import DocumentNormalizer.CommandLine.Run
import DocumentNormalizer.Proofs.Commands
import DocumentNormalizer.Proofs.Fitting

namespace DocumentNormalizer

namespace InputError

/-- The sort of file that an error reports about in words. -/
def sort? : InputError → Option InputSort
  | .unreadable sort _ => some sort
  | .malformedConfig _ _ | .notMapping _ | .invalidConfig _ _ => some .config
  | .invalidSchema _ _ => some .schema
  | .collection _ => some .source
  | .notText _ | .unusable _ | .misfit _ => none

theorem isSome_sort? (error : InputError) : error.sort?.isSome = error.isReported := by
  cases error <;> rfl

end InputError

/-- What reading files of a sort gives: each error is one of the sort, or it is stray, and there is a
stray one exactly in some cases. -/
structure Reports {α : Type} (outcome : Except InputError α) (sort : InputSort) (stray : Prop) :
    Prop where
  own : ∀ error, outcome = .error error → error.isReported = true → error.sort? = some sort
  breaks : (∃ error, outcome = .error error ∧ error.isReported = false) ↔ stray

namespace Disk

variable {disk : Disk} {path : Path} {sort : InputSort} {error : InputError}

/-- Whether nothing can be told about a file: its path has a null character, or it is no text. -/
def HasNoText (disk : Disk) (path : Path) : Prop :=
  '\x00' ∈ path.text.toList ∨
    ∃ content, disk.readBytes path = .ok content ∧ String.fromUTF8? content = none

theorem node_eq_nullCharacter_iff :
    disk.node path = .error .nullCharacter ↔ '\x00' ∈ path.text.toList := by
  rw [← @locate_eq_nullCharacter_iff disk, node]
  cases disk.locate path with
  | error fault =>
    show Except.error fault = Except.error _ ↔ _
    rw [Except.error.injEq, Except.error.injEq]
  | ok place =>
    apply iff_of_false
    · intro same
      change disk.atAddress place = _ at same
      rw [atAddress] at same
      split at same <;> cases same
    · intro same
      cases same

theorem readBytes_eq_error {error : FileError} (failed : disk.readBytes path = .error error) :
    error.fault = .nullCharacter ↔ '\x00' ∈ path.text.toList := by
  rw [← @node_eq_nullCharacter_iff disk, readBytes] at *
  cases found : disk.node path with
  | error fault =>
    rw [found] at failed
    cases failed
    simp
  | ok tree =>
    rw [found] at failed
    cases tree with
    | file content => cases failed
    | directory entries =>
      cases failed
      simp

/-- Reading a file fails with an error of its sort, or nothing can be told about the file. -/
theorem readInput_eq_error (failed : disk.readInput sort path = .error error) :
    (error.isReported = true → error.sort? = some sort) ∧
      (error.isReported = false ↔ disk.HasNoText path) := by
  rw [readInput, mapError_eq_error_iff] at failed
  obtain ⟨cause, rfl, failed⟩ := failed
  rw [readText] at failed
  split at failed
  · next fault unread =>
    cases failed
    have asked := readBytes_eq_error unread
    have text : disk.HasNoText path ↔ '\x00' ∈ path.text.toList := by
      rw [HasNoText, or_iff_left]
      intro found
      obtain ⟨content, read, _⟩ := found
      cases unread.symm.trans read
    rw [text, ← asked, InputError.ofRead]
    split
    · next null => exact ⟨fun reported => (nomatch reported), iff_of_true rfl null⟩
    · next other => exact ⟨fun _ => rfl, iff_of_false (fun same => nomatch same) other⟩
  · next content read =>
    split at failed
    · next invalid =>
      cases failed
      exact ⟨fun reported => (nomatch reported), iff_of_true rfl (.inr ⟨content, read, invalid⟩)⟩
    · cases failed

theorem not_hasNoText {text : String} (read : disk.readInput sort path = .ok text) :
    ¬disk.HasNoText path := by
  have readable := mapError_eq_ok_iff.1 read
  rw [readText] at readable
  split at readable
  · cases readable
  · next content whole =>
    split at readable
    · cases readable
    · next decoded valid =>
      intro none
      rcases none with null | ⟨other, again, invalid⟩
      · rw [← @node_eq_nullCharacter_iff disk] at null
        rw [readBytes, null] at whole
        cases whole
      · cases whole.symm.trans again
        cases valid.symm.trans invalid

end Disk

namespace Reports

variable {α : Type} {outcome : Except InputError α} {sort : InputSort} {stray : Prop}

theorem ofText (disk : Disk) (path : Path) {make : String → Except InputError α}
    (own : ∀ text error, make text = .error error → error.isReported = true →
      error.sort? = some sort) :
    Reports (match disk.readInput sort path with
      | .error error => .error error
      | .ok text => make text) sort
      (disk.HasNoText path ∨ ∃ text, disk.readInput sort path = .ok text ∧
        ∃ error, make text = .error error ∧ error.isReported = false) := by
  cases read : disk.readInput sort path with
  | error error =>
    obtain ⟨reported, broken⟩ := Disk.readInput_eq_error read
    constructor
    · intro other same
      cases same
      exact reported
    · rw [← broken]
      simp
  | ok text =>
    have sound := Disk.not_hasNoText read
    constructor
    · intro error same
      exact own text error same
    · simp [sound]

theorem ofText_told {ε : Type} {disk : Disk} {path : Path} {make : String → Except ε α}
    {tell : ε → InputError} (own : ∀ cause, (tell cause).sort? = some sort) :
    Reports (match disk.readInput sort path with
      | .error error => .error error
      | .ok text => (make text).mapError tell) sort (disk.HasNoText path) := by
  have told (text : String) (error : InputError) (failed : (make text).mapError tell = .error error) :
      error.sort? = some sort := by
    obtain ⟨cause, rfl, _⟩ := mapError_eq_error_iff.1 failed
    exact own cause
  have all := ofText disk path fun text error failed _ => told text error failed
  constructor
  · exact all.own
  · rw [all.breaks]
    apply or_iff_left
    intro broken
    obtain ⟨text, _, error, failed, stray⟩ := broken
    rw [← error.isSome_sort?, told text error failed] at stray
    cases stray

end Reports

theorem Schema.read_reports (disk : Disk) (path : Path) :
    Reports (Schema.read disk path) .schema (disk.HasNoText path) :=
  Reports.ofText_told fun _ => rfl

theorem Document.read_reports (disk : Disk) (path : Path) :
    Reports (Document.read disk path) .source (disk.HasNoText path) :=
  Reports.ofText_told fun _ => rfl

/-- Documents break off at the first file that gives none, if nothing can be told about it. -/
theorem Document.readAll_reports (disk : Disk) (paths : List Path) :
    Reports (Document.readAll disk paths) .source (∃ before path after,
      paths = before ++ path :: after ∧
      (∀ other ∈ before, ∃ documents, Document.read disk other = .ok documents) ∧
      disk.HasNoText path) := by
  have fails (error : InputError) : Document.readAll disk paths = .error error ↔
      paths.mapM (Document.read disk) = .error error := by
    rw [readAll]
    cases paths.mapM (Document.read disk) <;> simp [Except.map]
  constructor
  · intro error failed
    rw [fails] at failed
    obtain ⟨_, path, _, _, _, failed⟩ := exists_first_of_mapM_eq_error failed
    exact (read_reports disk path).own error failed
  · constructor
    · intro broken
      obtain ⟨error, failed, stray⟩ := broken
      rw [fails] at failed
      obtain ⟨before, path, after, split, sound, failed⟩ := exists_first_of_mapM_eq_error failed
      exact ⟨before, path, after, split, sound, (read_reports disk path).breaks.1 ⟨error, failed, stray⟩⟩
    · intro found
      obtain ⟨before, path, after, rfl, sound, none⟩ := found
      obtain ⟨error, failed, stray⟩ := (read_reports disk path).breaks.2 none
      exact ⟨error, (fails error).2 (mapM_eq_error_of_first sound failed), stray⟩

namespace ProjectConfig

variable {path : Path} {text : String} {error : InputError}

theorem ofText_eq_error (failed : ofText path text = .error error) :
    (error.isReported = true → error.sort? = some .config) ∧
      (error.isReported = false ↔ ∃ misfit, Yaml.Value.ofText text = .error (.misfit misfit)) := by
  rw [ofText] at failed
  split at failed
  · next fault found =>
    cases failed
    simp [found, InputError.isReported, InputError.sort?]
  · next misfit found =>
    cases failed
    simp [found, InputError.isReported]
  · cases failed
  · next entries found =>
    obtain ⟨problems, rfl, _⟩ := mapError_eq_error_iff.1 failed
    simp [found, InputError.isReported, InputError.sort?]
  · next value _ _ found =>
    cases failed
    simp [found, InputError.isReported, InputError.sort?]

theorem map_ofText_eq_error :
    (ofText path text).map (·.resolve path.parent) = .error error ↔ ofText path text = .error error := by
  cases ofText path text <;> simp [Except.map]

theorem read_reports (disk : Disk) (path : Path) :
    Reports (read disk path) .config (disk.HasNoText path ∨
      ∃ text, disk.readInput .config path = .ok text ∧
        ∃ misfit, Yaml.Value.ofText text = .error (.misfit misfit)) := by
  have all : Reports (read disk path) .config _ :=
    Reports.ofText disk path fun text error failed =>
      (ofText_eq_error (map_ofText_eq_error.1 failed)).1
  refine ⟨all.own, all.breaks.trans ?_⟩
  apply or_congr Iff.rfl
  apply exists_congr
  intro text
  apply and_congr Iff.rfl
  constructor
  · intro broken
    obtain ⟨error, failed, stray⟩ := broken
    exact (ofText_eq_error (map_ofText_eq_error.1 failed)).2.1 stray
  · intro found
    obtain ⟨misfit, unfit⟩ := found
    refine ⟨.misfit misfit, map_ofText_eq_error.2 ?_, rfl⟩
    rw [ofText, unfit]

/-- Settings in which every node has a plain tag never break off. -/
theorem isReported_of_plain {disk : Disk} {table : Yaml.NodeTable}
    (readable : disk.readInput .config path = .ok text)
    (parsed : Yaml.NodeTable.ofText? text.toList = .ok (some table))
    (plain : ∀ node ∈ table.nodes, node.tag.isPlain = true)
    (failed : read disk path = .error error) : error.isReported = true := by
  by_contra stray
  have broken := (read_reports disk path).breaks.1 ⟨error, failed, (Bool.not_eq_true _).mp stray⟩
  rcases broken with none | ⟨other, again, misfit, unfit⟩
  · exact Disk.not_hasNoText readable none
  · cases readable.symm.trans again
    rcases Yaml.Value.origin_of_misfit unfit with unread | ⟨table, same, node, member, loose⟩
    · cases parsed.symm.trans unread
    · cases parsed.symm.trans same
      cases (plain node member).symm.trans loose

end ProjectConfig

namespace Command

open CommandAction

variable {disk : Disk} {config : Option String} {changes : ConfigChanges} {error : InputError}

/-- The inputs of a command fail: its settings do, or the schema or the documents they lead to. -/
inductive InputFails (disk : Disk) (config : Option String) (changes : ConfigChanges) :
    InputError → Prop
  | settings {error : InputError}
      (failed : ProjectConfig.choose disk config changes = .error (.input error)) :
      InputFails disk config changes error
  | project {settings : ProjectConfig} {error : InputError}
      (chosen : ProjectConfig.choose disk config changes = .ok settings)
      (failed : (settings.build disk).outcome = .error (.input error)) :
      InputFails disk config changes error

/-- How a command stops for an error in its inputs. A line of progress that is no markup stops it
before. -/
def StopsFor (disk : Disk) (error : InputError) (stop : Stop) (after : Workspace) : Prop :=
  after.disk = disk ∧ (stop = .ofInput error ∨ ∃ fault, stop = .brokenOff (.markup fault))

theorem yields_fails {rest : ProjectConfig → Artifacts → CommandAction Unit}
    (fails : InputFails disk config changes error) :
    Yields (do
        let workspace ← get
        let settings ← require .ofSettings (ProjectConfig.choose workspace.disk config changes)
        let artifacts ← build settings
        rest settings artifacts) ⟨disk, []⟩ (fun _ _ => False) (StopsFor disk error) := by
  apply Yields.get
  cases fails with
  | settings failed =>
    rw [failed]
    exact .throw ⟨rfl, .inl rfl⟩
  | @project settings error chosen failed =>
    rw [chosen]
    have built : Yields (build settings) ⟨disk, []⟩ (fun _ _ => False) (StopsFor disk error) := by
      apply (yields_build _ _).mono _ id
      · intro fault after same
        exact ⟨same, .inr ⟨fault, rfl⟩⟩
      · intro other same after unchanged
        cases failed.symm.trans same
        exact ⟨unchanged, .inl rfl⟩
      · intro artifacts after done
        cases failed.symm.trans done.2
    exact built.bind fun impossible => impossible.elim

end Command

/-- The result of a command whose inputs fail. Errors that are reported are told at the end; others
break the command off. -/
structure CommandResult.Tells (result : CommandResult) (error : InputError) : Prop where
  reported : error.isReported = true → result.breakdown = none ∧
    ∃ told, result.shown = told ++ [.text (Screen.told ("Error: " ++ error.message ++ "\n"))]
  stray : error.isReported = false → result.breakdown = some (.input error)

/-- A command fails for an error in its inputs: it leaves the files alone and exits with one. -/
structure CommandResult.Fails (result : CommandResult) (disk : Disk) (error : InputError) : Prop where
  disk : result.disk = disk
  exitCode : result.exitCode = 1
  told : result.Tells error ∨ ∃ fault, result.breakdown = some (.markup fault)

theorem CommandResult.fails_ofAction {program : String} {command : Command} {disk : Disk}
    {action : CommandAction Unit} {error : InputError}
    (stops : Yields action ⟨disk, []⟩ (fun _ _ => False) (Command.StopsFor disk error)) :
    (ofAction program command action disk).Fails disk error := by
  obtain ⟨holds⟩ := stops
  unfold ofAction
  generalize action.run ⟨disk, []⟩ = ended at holds ⊢
  obtain ⟨outcome, after⟩ := ended
  cases outcome with
  | ok value => exact holds.elim
  | error stop =>
    obtain ⟨same, rfl | ⟨fault, rfl⟩⟩ := holds
    · rw [Stop.ofInput]
      cases kind : error.isReported with
      | true =>
        refine ⟨same, rfl, .inl ⟨?_, ?_⟩⟩
        · intro _
          exact ⟨rfl, _, rfl⟩
        · intro stray
          cases kind.symm.trans stray
      | false =>
        refine ⟨same, rfl, .inl ⟨?_, ?_⟩⟩
        · intro reported
          cases kind.symm.trans reported
        · intro _
          rfl
    · exact ⟨same, rfl, .inr ⟨fault, rfl⟩⟩

/-- Settings, a schema and documents are read, or fail with an error of their own sort, unless a path has
a null character, a file is no text or a number in the settings does not fit; of documents the first
file that fails decides. Settings in which every node has a plain tag always fit. A command whose inputs
fail leaves the files alone and exits with one: it tells an error that is reported, and an error that is
not breaks it off. -/
theorem Disk.inputs_fail (disk : Disk) :
    (∀ path, Reports (ProjectConfig.read disk path) .config (disk.HasNoText path ∨
      ∃ text, disk.readInput .config path = .ok text ∧
        ∃ misfit, Yaml.Value.ofText text = .error (.misfit misfit))) ∧
    (∀ path text table, disk.readInput .config path = .ok text →
      Yaml.NodeTable.ofText? text.toList = .ok (some table) →
      (∀ node ∈ table.nodes, node.tag.isPlain = true) →
      ∀ error, ProjectConfig.read disk path = .error error → error.isReported = true) ∧
    (∀ path, Reports (Schema.read disk path) .schema (disk.HasNoText path)) ∧
    (∀ paths, Reports (Document.readAll disk paths) .source (∃ before path after,
      paths = before ++ path :: after ∧
      (∀ other ∈ before, ∃ documents, Document.read disk other = .ok documents) ∧
      disk.HasNoText path)) ∧
    (∀ program config changes error, Command.InputFails disk config changes error →
      (CommandResult.ofAction program .compile (Command.runCompile config changes) disk).Fails
        disk error) ∧
    (∀ program changes error, Command.InputFails disk none changes error →
      (CommandResult.ofAction program .inspect (Command.runInspect changes) disk).Fails
        disk error) := by
  refine ⟨ProjectConfig.read_reports disk, ?_, Schema.read_reports disk,
    Document.readAll_reports disk, ?_, ?_⟩
  · intro path text table readable parsed plain error failed
    exact ProjectConfig.isReported_of_plain readable parsed plain failed
  · intro program config changes error fails
    exact CommandResult.fails_ofAction (Command.yields_fails fails)
  · intro program changes error fails
    exact CommandResult.fails_ofAction (Command.yields_fails fails)

namespace Sample

def garbled : Disk where
  root := .directory [(schemaFile, .file ⟨#[0xff]⟩)]
  workingDirectory := []

def garbledResult : CommandResult :=
  .ofAction "gqlnorm" .inspect (Command.runInspect { schema := some "schema.graphql" }) garbled

end Sample

theorem Disk.inputs_garbled : ∃ error,
    Schema.read Sample.garbled (.ofText "schema.graphql") = .error error ∧
    error.isReported = false ∧ error.sort? = none ∧
    Sample.garbledResult.breakdown.isSome = true := by
  have none : Sample.garbled.HasNoText (.ofText "schema.graphql") := by
    have computed : (Sample.garbled.readBytes (.ofText "schema.graphql")).toOption =
        some ⟨#[0xff]⟩ := by
      decide +kernel
    exact .inr ⟨_, eq_ok_of_toOption computed, by decide +kernel⟩
  obtain ⟨error, failed, stray⟩ := (Schema.read_reports _ _).breaks.2 none
  refine ⟨error, failed, stray, ?_, by decide +kernel⟩
  rw [← Option.not_isSome_iff_eq_none, error.isSome_sort?, stray]
  exact Bool.false_ne_true

end DocumentNormalizer
