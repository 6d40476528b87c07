import DocumentNormalizer.Proofs.Recollection

namespace DocumentNormalizer

theorem GlobPart.eq_up_of_ofText {text : String} (up : ofText text = .fixed (some .up)) :
    text = ".." := by
  rw [ofText] at up
  split at up
  · cases up
  · split at up
    · cases up
    · rw [GlobPart.fixed.injEq, Step.ofText?] at up
      split at up
      · next same => exact same
      · obtain ⟨name, _, same⟩ := Option.map_eq_some_iff.1 up
        cases same

theorem GlobPart.Takes.exists_names {part : GlobPart} {taken : List Step}
    (takes : Takes part taken) (direct : part ≠ .fixed (some .up)) :
    ∃ names : List FileName, taken = names.map .down := by
  cases takes with
  | fixed step =>
    cases step with
    | none => exact ⟨[], rfl⟩
    | some step =>
      cases step with
      | up => exact absurd rfl direct
      | down name => exact ⟨[name], rfl⟩
  | @name _ _ name => exact ⟨[name], rfl⟩
  | @anyDepth names => exact ⟨names, rfl⟩

/-- Patterns that never go up only stand for paths that never do. -/
theorem GlobPart.Spells.exists_names {parts : List GlobPart} {steps : List Step}
    (spells : Spells parts steps) (direct : .fixed (some .up) ∉ parts) :
    ∃ names : List FileName, steps = names.map .down := by
  induction spells with
  | nil => exact ⟨[], rfl⟩
  | cons takes further moves ih =>
    obtain ⟨first, rfl⟩ := takes.exists_names (Ne.symm (List.ne_of_not_mem_cons direct))
    obtain ⟨others, rfl⟩ := ih (List.not_mem_of_not_mem_cons direct)
    exact ⟨first ++ others, List.map_append.symm⟩

/-- Patterns that all start alike, none of which goes up. -/
def Glob.AreDirect (patterns : List String) : Prop :=
  ∃ start, ∀ pattern ∈ patterns, PathStart.ofText pattern = start ∧
    ".." ∉ Text.splitAt '/' pattern

theorem Glob.AreDirect.exists_eq {patterns : List String} (direct : AreDirect patterns) :
    ∃ start, ∀ pattern ∈ patterns, ∀ path, (ofText pattern).Spells path →
      ∃ names : List FileName, path = ⟨start, names.map .down⟩ := by
  obtain ⟨start, each⟩ := direct
  use start
  intro pattern member path spells
  obtain ⟨same, straight⟩ := each pattern member
  have downward : .fixed (some .up) ∉ (ofText pattern).parts := by
    intro up
    obtain ⟨text, among, goesUp⟩ := List.mem_map.1 up
    rw [GlobPart.eq_up_of_ofText goesUp] at among
    exact straight among
  obtain ⟨_, starts, steps⟩ := spells
  obtain ⟨names, down⟩ := steps.exists_names downward
  obtain ⟨pathStart, pathSteps⟩ := path
  cases down
  cases starts
  exact ⟨names, congrArg (Path.mk · _) same⟩

theorem Path.IsSorted.nodup {paths : List Path} (sorted : IsSorted paths) : paths.Nodup := by
  apply List.Pairwise.imp _ sorted
  intro first second before same
  rw [same, comesBefore_iff] at before
  exact lt_irrefl _ before

namespace Disk

variable {disk : Disk} {pattern : String} {patterns others : List String}
  {excluded otherExcluded files : List Path} {path : Path} {place : Address}

/-- What finding files needs. No system can be asked about a path with a null character, nor about one
that is too long. -/
structure CanFind (disk : Disk) (patterns : List String) (excluded : List Path) : Prop where
  excludes : ∀ path ∈ excluded, '\x00' ∉ path.text.toList
  looks : ∀ pattern ∈ patterns, (Glob.ofText pattern).looksBehindNull = false
  fits : ∀ pattern ∈ patterns, ∀ path ∈ disk.glob (.ofText pattern),
    path.text.utf8ByteSize < FileFault.pathLimit

theorem exists_filesOf_iff : (∃ files, disk.filesOf pattern = .ok files) ↔
    (Glob.ofText pattern).looksBehindNull = false ∧ ∀ path ∈ disk.glob (.ofText pattern),
      path.text.utf8ByteSize < FileFault.pathLimit := by
  constructor
  · intro found
    obtain ⟨files, looked⟩ := found
    obtain ⟨sound, short, _⟩ := filesOf_eq_ok looked
    exact ⟨sound, short⟩
  · intro fine
    obtain ⟨sound, short⟩ := fine
    cases looked : disk.filesOf pattern with
    | ok files => exact ⟨files, rfl⟩
    | error error =>
      rcases filesOf_eq_error looked with behind | ⟨path, member, long, _⟩
      · exact absurd (sound.symm.trans behind) Bool.false_ne_true
      · exact absurd (short path member) (Nat.not_lt_of_le long)

theorem exists_findFiles_iff :
    (∃ files, disk.findFiles patterns excluded = .ok files) ↔ disk.CanFind patterns excluded := by
  have plain : excluded.find? (·.text.toList.contains '\x00') = none ↔
      ∀ path ∈ excluded, '\x00' ∉ path.text.toList := by
    simp only [List.find?_eq_none, List.contains_iff_mem]
  constructor
  · intro found
    obtain ⟨files, found⟩ := found
    obtain ⟨fine, groups, each, _⟩ := findFiles_eq_ok_iff.1 found
    have looked (pattern : String) (member : pattern ∈ patterns) :
        ∃ files, disk.filesOf pattern = .ok files := by
      obtain ⟨index, inRange, rfl⟩ := List.getElem_of_mem member
      exact ⟨_, each.get inRange (each.length_eq ▸ inRange)⟩
    exact {
      excludes := plain.1 fine
      looks := fun pattern member => (exists_filesOf_iff.1 (looked pattern member)).1
      fits := fun pattern member => (exists_filesOf_iff.1 (looked pattern member)).2 }
  · intro can
    cases each : patterns.mapM disk.filesOf with
    | ok groups =>
      exact ⟨_, findFiles_eq_ok_iff.2 ⟨plain.2 can.excludes, groups, mapM_eq_ok_iff.1 each, rfl⟩⟩
    | error error =>
      obtain ⟨pattern, member, failed⟩ := exists_of_mapM_eq_error each
      obtain ⟨files, looked⟩ :=
        exists_filesOf_iff.2 ⟨can.looks pattern member, can.fits pattern member⟩
      cases failed.symm.trans looked

theorem isWithin_eq_false_iff : disk.isWithin (excluded.map disk.resolve) path = false ↔
    ∀ other ∈ excluded, ¬disk.resolve other <+: disk.resolve path := by
  rw [isWithin, List.any_eq_false]
  simp only [List.forall_mem_map, List.isPrefixOf_iff_prefix]

theorem findFiles_congr (found : disk.findFiles patterns excluded = .ok files)
    (same : ∀ pattern, pattern ∈ others ↔ pattern ∈ patterns)
    (alike : ∀ path, path ∈ otherExcluded ↔ path ∈ excluded) :
    disk.findFiles others otherExcluded = .ok files := by
  have can := exists_findFiles_iff.1 ⟨files, found⟩
  have canOther : disk.CanFind others otherExcluded := {
    excludes := fun path member => can.excludes path ((alike path).1 member)
    looks := fun pattern member => can.looks pattern ((same pattern).1 member)
    fits := fun pattern member => can.fits pattern ((same pattern).1 member) }
  obtain ⟨otherFiles, again⟩ := exists_findFiles_iff.2 canOther
  have equal : otherFiles = files := by
    apply Path.IsSorted.eq_of_mem_iff (isSorted_findFiles again) (isSorted_findFiles found)
    intro path
    rw [mem_findFiles again, mem_findFiles found, Finds, Finds, isWithin_eq_false_iff,
      isWithin_eq_false_iff]
    simp only [same, alike]
  rw [again, equal]

theorem locate_of_isFile (file : disk.isFile path = true) :
    disk.locate path = .ok (disk.resolve path) := by
  obtain ⟨content, found⟩ := isFile_iff.1 file
  exact locate_of_node found

theorem exists_mem_findFiles_iff (found : disk.findFiles patterns excluded = .ok files) :
    (∃ path ∈ files, disk.locate path = .ok place) ↔
      (∃ path, disk.isFile path = true ∧ disk.locate path = .ok place ∧
        ∃ pattern ∈ patterns, (Glob.ofText pattern).Spells path) ∧
      ∀ other ∈ excluded, ¬disk.resolve other <+: place := by
  constructor
  · intro member
    obtain ⟨path, member, located⟩ := member
    obtain ⟨file, spelled, outside⟩ := (mem_findFiles found).1 member
    have same := (locate_of_isFile file).symm.trans located
    cases same
    exact ⟨⟨path, file, located, spelled⟩, isWithin_eq_false_iff.1 outside⟩
  · intro both
    obtain ⟨⟨path, file, located, spelled⟩, outside⟩ := both
    have same := (locate_of_isFile file).symm.trans located
    cases same
    exact ⟨path, (mem_findFiles found).2 ⟨file, spelled, isWithin_eq_false_iff.2 outside⟩, located⟩

/-- No file is found twice if the patterns start alike and never go up. -/
theorem eq_of_resolve_eq (direct : Glob.AreDirect patterns) {first second : Path}
    (one : disk.Finds patterns excluded first) (two : disk.Finds patterns excluded second)
    (same : disk.resolve first = disk.resolve second) : first = second := by
  obtain ⟨start, each⟩ := direct.exists_eq
  obtain ⟨_, ⟨pattern, member, spells⟩, _⟩ := one
  obtain ⟨_, ⟨other, otherMember, otherSpells⟩, _⟩ := two
  obtain ⟨names, rfl⟩ := each pattern member first spells
  obtain ⟨otherNames, rfl⟩ := each other otherMember second otherSpells
  rw [resolve, resolve, foldl_apply_down, foldl_apply_down] at same
  rw [List.append_cancel_left same]

end Disk

namespace Sample

def shelf : Disk where
  root := .directory [(⟨"docs", by decide⟩, .directory
    [(pageFile, .file "query Page { name }".toUTF8)])]
  workingDirectory := []

end Sample

/-- Files are found where there is nothing that no system can be asked about. They come in order, each
path once, and what is found does not hang on the order or the number of patterns and excluded paths. A
path is found exactly if it leads to a file, a pattern stands for it and it is not excluded. So all files
that are asked for are found; one is found more than once exactly if patterns stand for several of its
spellings, which they do not if they start alike and never go up. -/
theorem Disk.findFiles_spellings (disk : Disk) (patterns : List String) (excluded : List Path) :
    ((∃ files, disk.findFiles patterns excluded = .ok files) ↔ disk.CanFind patterns excluded) ∧
    ∀ files, disk.findFiles patterns excluded = .ok files →
      Path.IsSorted files ∧
      (∀ others otherExcluded, (∀ pattern, pattern ∈ others ↔ pattern ∈ patterns) →
        (∀ path, path ∈ otherExcluded ↔ path ∈ excluded) →
        disk.findFiles others otherExcluded = .ok files) ∧
      (∀ path, path ∈ files ↔ disk.Finds patterns excluded path) ∧
      (∀ path ∈ files, disk.locate path = .ok (disk.resolve path)) ∧
      (∀ place, (∃ path ∈ files, disk.locate path = .ok place) ↔
        (∃ path, disk.isFile path = true ∧ disk.locate path = .ok place ∧
          ∃ pattern ∈ patterns, (Glob.ofText pattern).Spells path) ∧
        ∀ other ∈ excluded, ¬disk.resolve other <+: place) ∧
      ((files.map disk.resolve).Nodup ↔ ∀ first second, disk.Finds patterns excluded first →
        disk.Finds patterns excluded second → disk.resolve first = disk.resolve second →
        first = second) ∧
      (Glob.AreDirect patterns → (files.map disk.resolve).Nodup) := by
  refine ⟨exists_findFiles_iff, ?_⟩
  intro files found
  have sorted := isSorted_findFiles found
  have members (path : Path) : path ∈ files ↔ disk.Finds patterns excluded path :=
    mem_findFiles found
  have once : (files.map disk.resolve).Nodup ↔ ∀ first second,
      disk.Finds patterns excluded first → disk.Finds patterns excluded second →
      disk.resolve first = disk.resolve second → first = second := by
    rw [List.nodup_map_iff_inj_on sorted.nodup]
    simp only [members]
    constructor
    · intro apart first second one two same
      exact apart first one second two same
    · intro apart first one second two same
      exact apart first second one two same
  have located (path : Path) (member : path ∈ files) :
      disk.locate path = .ok (disk.resolve path) :=
    locate_of_isFile ((members path).1 member).1
  have direct (straight : Glob.AreDirect patterns) : (files.map disk.resolve).Nodup := by
    apply once.2
    intro first second one two same
    exact eq_of_resolve_eq straight one two same
  exact ⟨sorted, fun _ _ same alike => findFiles_congr found same alike, members, located,
    fun _ => exists_mem_findFiles_iff found, once, direct⟩

/-- A file that patterns stand for under two spellings is found twice. -/
theorem Disk.findFiles_twice : ∃ files,
    Sample.shelf.findFiles ["docs/page.graphql", "docs/../docs/page.graphql"] [] = .ok files ∧
    .ofText "docs/page.graphql" ∈ files ∧ .ofText "docs/../docs/page.graphql" ∈ files ∧
    ¬(files.map Sample.shelf.resolve).Nodup := by
  have computed : (Sample.shelf.findFiles
        ["docs/page.graphql", "docs/../docs/page.graphql"] []).isOk = true ∧
      (∀ text ∈ ["docs/page.graphql", "docs/../docs/page.graphql"],
        Sample.shelf.isFile (.ofText text) = true ∧
        .ofText text ∈ Sample.shelf.glob (.ofText text)) ∧
      Sample.shelf.resolve (.ofText "docs/page.graphql") =
        Sample.shelf.resolve (.ofText "docs/../docs/page.graphql") ∧
      Path.ofText "docs/page.graphql" ≠ .ofText "docs/../docs/page.graphql" := by
    decide +kernel
  obtain ⟨fine, each, same, different⟩ := computed
  cases found : Sample.shelf.findFiles ["docs/page.graphql", "docs/../docs/page.graphql"] [] with
  | error error => rw [found] at fine; cases fine
  | ok files =>
    have collected (text : String)
        (member : text ∈ ["docs/page.graphql", "docs/../docs/page.graphql"]) :
        .ofText text ∈ files := by
      obtain ⟨file, among⟩ := each text member
      exact (mem_findFiles found).2 (finds_of_mem_glob file member among rfl)
    have plain := collected "docs/page.graphql" (by simp)
    have roundabout := collected "docs/../docs/page.graphql" (by simp)
    refine ⟨files, rfl, plain, roundabout, ?_⟩
    intro apart
    exact different (List.inj_on_of_nodup_map apart plain roundabout same)

end DocumentNormalizer
