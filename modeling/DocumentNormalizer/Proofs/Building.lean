import DocumentNormalizer.CommandLine.Run
import DocumentNormalizer.Proofs.Anchoring
import DocumentNormalizer.Proofs.Parsing
import DocumentNormalizer.Proofs.Renaming
import DocumentNormalizer.Proofs.Verdict
import DocumentNormalizer.Proofs.Safety
import DocumentNormalizer.Proofs.Writing

namespace DocumentNormalizer

namespace Document

theorem exists_map_executable {sourceFile : String} {sources : List SourceDefinition}
    {documents : List Document}
    (each : List.Forall₂ (fun source document => ofDefinition sourceFile source = .ok document)
      sources documents) :
    ∃ found : List Definition, sources = found.map .executable := by
  induction each with
  | nil => exact ⟨[], rfl⟩
  | @cons source _ _ _ first _ ih =>
    obtain ⟨found, rfl⟩ := ih
    cases source with
    | typeSystem definition => cases first
    | executable definition => exact ⟨definition :: found, rfl⟩

theorem isName_of_ofDefinition {sourceFile : String} {definition : Definition}
    {document : Document} (proper : Parser.HasProperName definition)
    (made : ofDefinition sourceFile (.executable definition) = .ok document) :
    Lexer.IsName document.name := by
  obtain ⟨description, heading, directives, position, set⟩ := definition
  cases heading with
  | operation kind name declared =>
    cases name with
    | none => cases made
    | some name => cases made; exact proper
  | fragment name condition => cases made; exact proper

theorem isName_of_collect {text sourceFile : String} {documents : List Document}
    (made : collect text sourceFile = .ok documents) :
    ∀ document ∈ documents, Lexer.IsName document.name := by
  obtain ⟨sources, read, each⟩ := collect_eq_ok_iff.1 made
  obtain ⟨found, rfl⟩ := exists_map_executable each
  have proper := hasProperName_of_parseSource read
  rw [List.forall₂_map_left_iff] at each
  clear read made
  induction each with
  | nil => exact List.forall_mem_nil _
  | cons first _ ih =>
    obtain ⟨own, others⟩ := List.forall_mem_cons.1 proper
    exact List.forall_mem_cons.2 ⟨isName_of_ofDefinition own first, ih others⟩

theorem collect_of_read {disk : Disk} {path : Path} {documents : List Document}
    (made : read disk path = .ok documents) :
    ∃ text, collect text path.text = .ok documents := by
  rw [read] at made
  split at made
  · cases made
  · next text _ =>
    cases collected : collect text path.text with
    | error error => rw [collected] at made; cases made
    | ok found => rw [collected] at made; cases made; exact ⟨text, collected⟩

variable {disk : Disk} {paths : List Path} {collections : List (List Document)}

theorem exists_collect
    (each : List.Forall₂ (fun path found => read disk path = .ok found) paths collections)
    {document : Document} (member : document ∈ collections.flatten) :
    ∃ text sourceFile found, collect text sourceFile = .ok found ∧ document ∈ found := by
  obtain ⟨found, among, inside⟩ := List.mem_flatten.1 member
  obtain ⟨index, inRange, rfl⟩ := List.getElem_of_mem among
  have made := each.get (each.length_eq ▸ inRange) inRange
  obtain ⟨text, made⟩ := collect_of_read made
  exact ⟨text, _, _, made, inside⟩

theorem isCollected_of_read
    (each : List.Forall₂ (fun path found => read disk path = .ok found) paths collections) :
    ∀ document ∈ collections.flatten, document.IsCollected := by
  intro document member
  obtain ⟨text, file, found, made, inside⟩ := exists_collect each member
  exact isCollected_of_collect made document inside

theorem readAll_eq_ok_iff {documents : List Document} :
    readAll disk paths = .ok documents ↔ ∃ collections,
      List.Forall₂ (fun path found => read disk path = .ok found) paths collections ∧
        collections.flatten = documents := by
  rw [readAll]
  constructor
  · intro made
    cases each : paths.mapM (read disk) with
    | error error => rw [each] at made; cases made
    | ok collections =>
      rw [each] at made
      exact ⟨collections, mapM_eq_ok_iff.1 each, Except.ok.inj made⟩
  · rintro ⟨collections, each, rfl⟩
    rw [mapM_eq_ok_iff.2 each]
    rfl

end Document

namespace Run

variable {schema : Schema} {documents : List Document} {passes : List Pass} {run : Run}

theorem of_compileDocuments (collected : ∀ document ∈ documents, document.IsCollected)
    (standard : ∀ pass ∈ passes, pass.IsStandard)
    (compiled : compileDocuments schema documents passes = .ok run) :
    run.fault = none ∧ run.store.IsCollected ∧
      run.store.documents.map Document.name = documents.map Document.name := by
  obtain ⟨store, kept, rfl, rfl⟩ := exists_store_of_compileDocuments collected compiled
  obtain ⟨growth, diagnostics, events, ran, _⟩ := ofPasses_settles schema kept standard
  rw [ran]
  refine ⟨rfl, kept.grow growth, ?_⟩
  rw [Store.documents_grow, List.map_map, Store.documents, List.map_map]
  rfl

/-- Nothing is wrong with what the passes of a compile hand on. -/
theorem checked_print (sound : run.fault = none) (collected : run.store.IsCollected)
    (same : run.store.documents.map Document.name = documents.map Document.name) :
    run.checked documents.length >>= Run.print =
      .ok ⟨run.store.documents.map Document.print, run.diagnostics⟩ := by
  have names : run.store.names = run.store.keys := Store.names_eq_keys_iff.2 collected.named
  have count : run.store.keys.length = documents.length := by
    rw [← names, Store.names, same, List.length_map]
  rw [checked_eq_ok sound names count]
  exact print_eq names

end Run

theorem Text.parts_of_not_mem {separator : Char} {text : List Char} (absent : separator ∉ text) :
    parts separator text = [text] := by
  induction text with
  | nil => rfl
  | cons c rest ih =>
    have different := List.ne_of_not_mem_cons absent
    rw [parts, if_neg (Ne.symm different), ih (List.not_mem_of_not_mem_cons absent)]

theorem Path.ofText_of_not_mem (name : FileName) : ofText name.text = ⟨.here, [.down name]⟩ := by
  obtain ⟨text, valid⟩ := name
  obtain ⟨_, _, notUp, absent⟩ := id valid
  have start : PathStart.ofText text = .here := by
    have none : text.toList.takeWhile (· = '/') = [] := by
      cases chars : text.toList with
      | nil => rfl
      | cons c rest =>
        rw [chars] at absent
        have different := List.ne_of_not_mem_cons absent
        rw [List.takeWhile_cons_of_neg (by simpa using Ne.symm different)]
    rw [PathStart.ofText, none]
    rfl
  have step : Step.ofText? text = some (.down ⟨text, valid⟩) := by
    rw [Step.ofText?, if_neg notUp, FileName.ofText?, dif_pos valid]
    rfl
  rw [ofText, start, Text.splitAt, Text.parts_of_not_mem absent, List.map_singleton,
    String.ofList_toList, List.filterMap_cons_some step]
  rfl

theorem PrintedDocument.exists_path_eq_child {document : PrintedDocument}
    (proper : Lexer.IsName document.name) (directory : Path) :
    ∃ name : FileName, name.text = document.name ++ ".graphql" ∧
      document.path directory = directory.child name := by
  have long (text : String) (short : text.length < 8) : document.name ++ ".graphql" ≠ text := by
    rintro rfl
    have suffix : ".graphql".length = 8 := rfl
    rw [String.length_append] at short
    omega
  have absent : '/' ∉ (document.name ++ ".graphql").toList := by
    rw [String.toList_append, List.mem_append, not_or]
    exact ⟨fun member => absurd (proper _ member) (by decide), by decide⟩
  have valid := And.intro (long "" (by decide))
    (And.intro (long "." (by decide)) (And.intro (long ".." (by decide)) absent))
  refine ⟨⟨_, valid⟩, rfl, ?_⟩
  rw [path, Path.ofText_of_not_mem ⟨_, valid⟩]
  rfl

theorem Disk.resolve_child (disk : Disk) (path : Path) (name : FileName) :
    disk.resolve (path.child name) = disk.resolve path ++ [name] := by
  rw [resolve, Path.child, Path.append, List.foldl_append]
  rfl

namespace ProjectConfig

variable {settings : ProjectConfig} {disk : Disk}

theorem collect_eq_ok_iff {count : Nat} {documents : List Document} :
    settings.collect disk = .ok (count, documents) ↔ ∃ paths, settings.files disk = .ok paths ∧
      Document.readAll disk paths = .ok documents ∧ paths.length = count := by
  constructor
  · intro gathered
    obtain ⟨paths, matched, gathered⟩ := exists_of_bind_eq_ok gathered
    obtain ⟨found, read, same⟩ := exists_of_bind_eq_ok gathered
    cases same
    exact ⟨paths, matched, read, rfl⟩
  · rintro ⟨paths, matched, read, rfl⟩
    rw [collect, matched]
    show (return (paths.length, ← Document.readAll disk paths)) = _
    rw [read]
    rfl

theorem compile_outcome (told : List BuildEvent) (schema : Schema) (documents : List Document) :
    (settings.compile told schema documents).outcome =
      (Artifacts.ofDocuments schema documents (Pass.defaults settings.keyFields)).2.mapError
        .artifacts := by
  rw [compile]
  generalize Artifacts.ofDocuments schema documents (Pass.defaults settings.keyFields) = handed
  obtain ⟨events, outcome⟩ := handed
  cases outcome <;> rfl

end ProjectConfig

/-- A project whose settings, schema and documents are all right, with what its passes make. -/
structure CompiledProject (disk : Disk) (config : Option String) (changes : ConfigChanges) where
  settings : ProjectConfig
  schema : Schema
  paths : List Path
  collections : List (List Document)
  run : Run
  resolves : ProjectConfig.choose disk config changes = .ok settings
  builds : Schema.read disk (.ofText settings.schema) = .ok schema
  matched : settings.files disk = .ok paths
  collected : List.Forall₂ (fun path found => Document.read disk path = .ok found) paths collections
  distinct : (collections.flatten.map Document.name).Nodup
  compiles :
    compileDocuments schema collections.flatten (Pass.defaults settings.keyFields) = .ok run

namespace CompiledProject

variable {disk : Disk} {config : Option String} {changes : ConfigChanges}

instance : Subsingleton (CompiledProject disk config changes) := by
  constructor
  rintro ⟨settings, schema, paths, collections, run, resolves, builds, matched, collected, _,
    compiles⟩ ⟨_, _, _, _, _, resolves', builds', matched', collected', _, compiles'⟩
  cases resolves.symm.trans resolves'
  cases builds.symm.trans builds'
  cases matched.symm.trans matched'
  have unique : Relator.RightUnique fun path found => Document.read disk path = .ok found :=
    fun _ _ _ first second => Except.ok.inj (first.symm.trans second)
  cases List.right_unique_forall₂' unique collected collected'
  cases compiles.symm.trans compiles'
  rfl

/-- A project compiles as soon as its parts are all right and its documents have different names:
passes do not fail. -/
theorem nonempty_iff : Nonempty (CompiledProject disk config changes) ↔
    ∃ settings schema paths collections, ProjectConfig.choose disk config changes = .ok settings ∧
      Schema.read disk (.ofText settings.schema) = .ok schema ∧
      settings.files disk = .ok paths ∧
      List.Forall₂ (fun path found => Document.read disk path = .ok found) paths collections ∧
      (collections.flatten.map Document.name).Nodup := by
  constructor
  · rintro ⟨project⟩
    exact ⟨_, _, _, _, project.resolves, project.builds, project.matched, project.collected,
      project.distinct⟩
  · rintro ⟨settings, schema, paths, collections, resolves, builds, matched, collected, distinct⟩
    obtain ⟨store, made, _⟩ := Store.ofDocuments_of_nodup distinct
    exact ⟨settings, schema, paths, collections, _, resolves, builds, matched, collected, distinct,
      congrArg (Except.map _) made⟩

variable (project : CompiledProject disk config changes)

def documents : List Document := project.collections.flatten

def artifacts : Artifacts :=
  ⟨project.run.store.documents.map Document.print, project.run.diagnostics⟩

def directory : Path := .ofText project.settings.output

def outputs : List (Address × ByteArray) :=
  project.artifacts.documents.map (PrintedDocument.file disk project.directory)

def reportPath? : Option Path := (project.settings.report.filter (· ≠ "")).map .ofText

def written : WrittenFiles :=
  if project.artifacts.ok then
    project.artifacts.documents.map (PrintedDocument.entry project.directory)
  else []

/-- Where the report goes and what is written there, if one is asked for. -/
def reports : List (Address × ByteArray) :=
  project.reportPath?.toList.map fun path =>
    (disk.resolve path, (project.artifacts.report project.written).indented.toUTF8)

theorem isCollected : ∀ document ∈ project.documents, document.IsCollected :=
  Document.isCollected_of_read project.collected

theorem isName : ∀ document ∈ project.documents, Lexer.IsName document.name := by
  intro document member
  obtain ⟨text, file, found, made, inside⟩ := Document.exists_collect project.collected member
  exact Document.isName_of_collect made document inside

theorem map_name : project.run.store.documents.map Document.name =
    project.documents.map Document.name :=
  (Run.of_compileDocuments project.isCollected (Pass.isStandard_defaults _) project.compiles).2.2

theorem map_name_artifacts : project.artifacts.documents.map PrintedDocument.name =
    project.documents.map Document.name := by
  rw [artifacts, List.map_map, ← project.map_name]
  rfl

theorem isName_artifacts {document : PrintedDocument}
    (member : document ∈ project.artifacts.documents) : Lexer.IsName document.name := by
  have named := List.mem_map_of_mem (f := PrintedDocument.name) member
  rw [map_name_artifacts] at named
  obtain ⟨collected, there, same⟩ := List.mem_map.1 named
  exact same ▸ project.isName collected there

theorem exists_entry {document : PrintedDocument}
    (member : document ∈ project.artifacts.documents) :
    ∃ name : FileName, name.text = document.name ++ ".graphql" ∧
      (document.file disk project.directory).1 = disk.resolve project.directory ++ [name] := by
  obtain ⟨name, text, same⟩ :=
    PrintedDocument.exists_path_eq_child (project.isName_artifacts member) project.directory
  refine ⟨name, text, ?_⟩
  rw [PrintedDocument.file, same, Disk.resolve_child]

/-- Without a path that the system can be asked about, no documents would have been found. -/
theorem null_not_mem_directory : '\x00' ∉ project.directory.text.toList := by
  have found := mapError_eq_ok_iff.1 project.matched
  obtain ⟨plain, _⟩ := Disk.findFiles_eq_ok_iff.1 found
  simp only [List.find?_eq_none, List.contains_iff_mem] at plain
  exact plain _ (List.mem_cons_of_mem _ List.mem_cons_self)

theorem null_not_mem_path {document : PrintedDocument}
    (member : document ∈ project.artifacts.documents) :
    '\x00' ∉ (document.path project.directory).text.toList := by
  have proper := project.isName_artifacts member
  obtain ⟨name, text, same⟩ := PrintedDocument.exists_path_eq_child proper project.directory
  have plain : '\x00' ∉ name.text.toList := by
    rw [text, String.toList_append, List.mem_append, not_or]
    exact ⟨fun null => absurd (proper _ null) (by decide), by decide⟩
  have sound := project.null_not_mem_directory
  rw [Path.null_mem_text_iff] at sound
  rw [same, Path.null_mem_text_iff]
  rintro ⟨step, among, null⟩
  rcases List.mem_append.1 among with before | last
  · exact sound ⟨step, before, null⟩
  · rw [List.mem_singleton.1 last] at null
    exact plain null

theorem nodup_outputs : (project.outputs.map Prod.fst).Nodup := by
  have names : (project.artifacts.documents.map PrintedDocument.name).Nodup := by
    rw [map_name_artifacts]
    exact project.distinct
  rw [outputs, List.map_map]
  refine List.Nodup.map_on ?_ (List.Nodup.of_map _ names)
  intro first one second two same
  obtain ⟨name, text, place⟩ := project.exists_entry one
  obtain ⟨other, otherText, otherPlace⟩ := project.exists_entry two
  have places : disk.resolve project.directory ++ [name] =
      disk.resolve project.directory ++ [other] := place.symm.trans (same.trans otherPlace)
  obtain rfl := List.singleton_inj.1 (List.append_cancel_left places)
  have spelled := congrArg String.toList (text.symm.trans otherText)
  rw [String.toList_append, String.toList_append] at spelled
  exact List.inj_on_of_nodup_map names one two
    (String.toList_inj.1 (List.append_cancel_right spelled))

theorem build_outcome : (project.settings.build disk).outcome = .ok project.artifacts := by
  obtain ⟨sound, collected, same⟩ :=
    Run.of_compileDocuments project.isCollected (Pass.isStandard_defaults _) project.compiles
  have read : Document.readAll disk project.paths = .ok project.documents :=
    Document.readAll_eq_ok_iff.2 ⟨_, project.collected, rfl⟩
  unfold ProjectConfig.build
  rw [project.builds]
  dsimp only
  rw [ProjectConfig.collect_eq_ok_iff.2 ⟨_, project.matched, read, rfl⟩]
  dsimp only
  rw [ProjectConfig.compile_outcome, documents, Artifacts.ofDocuments, project.compiles]
  dsimp only
  have handed : project.run.checked project.collections.flatten.length >>= Run.print =
      .ok project.artifacts := Run.checked_print sound collected same
  rw [handed]
  rfl

theorem exists_of_build {settings : ProjectConfig} {artifacts : Artifacts}
    (resolves : ProjectConfig.choose disk config changes = .ok settings)
    (outcome : (settings.build disk).outcome = .ok artifacts) :
    ∃ project : CompiledProject disk config changes,
      project.settings = settings ∧ project.artifacts = artifacts := by
  have built := outcome
  unfold ProjectConfig.build at built
  cases builds : Schema.read disk (.ofText settings.schema) with
  | error error => rw [builds] at built; cases built
  | ok schema =>
    simp only [builds] at built
    cases gathered : settings.collect disk with
    | error error => rw [gathered] at built; cases built
    | ok counted =>
      obtain ⟨count, documents⟩ := counted
      obtain ⟨paths, matched, read, rfl⟩ := ProjectConfig.collect_eq_ok_iff.1 gathered
      obtain ⟨collections, collected, rfl⟩ := Document.readAll_eq_ok_iff.1 read
      simp only [gathered, ProjectConfig.compile_outcome, Artifacts.ofDocuments] at built
      cases compiles : compileDocuments schema collections.flatten
          (Pass.defaults settings.keyFields) with
      | error duplicate => rw [compiles] at built; cases built
      | ok run =>
        have kept := Document.isCollected_of_read collected
        obtain ⟨store, held, same, _⟩ := exists_store_of_compileDocuments kept compiles
        have distinct := held.nodup_names
        rw [same] at distinct
        let project : CompiledProject disk config changes :=
          ⟨settings, schema, paths, collections, run, resolves, builds, matched, collected,
            distinct, compiles⟩
        exact ⟨project, rfl, Except.ok.inj (project.build_outcome.symm.trans outcome)⟩

end CompiledProject

end DocumentNormalizer
