import DocumentNormalizer.Proofs.Looking

namespace DocumentNormalizer

/-- The files as seen from another place. -/
def Disk.startingAt (disk : Disk) (place : Address) : Disk := { disk with workingDirectory := place }

namespace Disk

section Located

variable {disk : Disk} {base next last : Path} {place : Address} {steps more : List Step}
  {tree : FileTree} {part : GlobPart} {parts : List GlobPart} {only : Bool}

theorem follow_startingAt (disk : Disk) (place start : Address) (steps : List (Option Step)) :
    (disk.startingAt place).follow start steps = disk.follow start steps := by
  induction steps generalizing start with
  | nil => rfl
  | cons step rest ih =>
    have same : (disk.startingAt place).root = disk.root := rfl
    rw [follow, follow, same]
    cases disk.root.at? start with
    | none => rfl
    | some tree =>
      cases tree with
      | file content => rfl
      | directory entries =>
        dsimp only
        rw [ih]

variable (located : disk.locate base = .ok place)

include located

theorem follow_of_located (parts : List (Option Step)) :
    disk.follow (disk.startAddress base.start) (base.steps.map some ++ parts) =
      (disk.startingAt place).follow place parts := by
  rw [locate_eq_follow (ofSpelling?_of_locate located)] at located
  rw [follow_append, located, follow_startingAt]
  rfl

theorem node_append_eq (fine : FileFault.ofSpelling? (base.append steps).text = none) :
    disk.node (base.append steps) = (disk.startingAt place).node ⟨.here, steps⟩ := by
  rw [node, node, locate_eq_follow fine, locate_eq_follow (Path.ofSpelling?_of_join fine)]
  rw [Path.append, List.map_append, follow_of_located located]
  rfl

theorem node_startingAt (found : disk.node (base.append steps) = .ok tree) :
    (disk.startingAt place).node ⟨.here, steps⟩ = .ok tree := by
  obtain ⟨inner, there, _⟩ := node_eq_ok_iff.1 found
  rw [← node_append_eq located (ofSpelling?_of_locate there), found]

theorem node_of_startingAt (found : (disk.startingAt place).node ⟨.here, steps⟩ = .ok tree)
    (fits : (base.append steps).text.utf8ByteSize < FileFault.pathLimit) :
    disk.node (base.append steps) = .ok tree := by
  obtain ⟨inner, there, _⟩ := node_eq_ok_iff.1 found
  rw [node_append_eq located (Path.ofSpelling?_join (ofSpelling?_of_locate located)
    (ofSpelling?_of_locate there) fits), found]

theorem leadsOn_append {step : Option Step}
    (fine : FileFault.ofSpelling? (base.append (steps ++ step.toList)).text = none) :
    disk.leadsOn (base.append steps) step = (disk.startingAt place).leadsOn ⟨.here, steps⟩ step := by
  have alone : FileFault.ofSpelling? ((Path.mk .here steps).append step.toList).text = none :=
    Path.ofSpelling?_of_join fine
  rw [leadsOn, leadsOn, alone, Path.append_append, fine, Path.append, List.map_append,
    List.append_assoc, follow_of_located located]
  rfl

theorem mem_reached_startingAt (member : next ∈ disk.reached only part (base.append steps)) :
    ∃ more, next = base.append more ∧
      ⟨.here, more⟩ ∈ (disk.startingAt place).reached only part ⟨.here, steps⟩ := by
  cases part with
  | fixed step =>
    rw [reached] at member
    split at member
    · next leads =>
      have fine := leads
      rw [leadsOn, Path.append_append, Bool.and_eq_true, Option.isNone_iff_eq_none] at fine
      rw [List.mem_singleton.1 member, Path.append_append]
      use steps ++ step.toList, rfl
      rw [reached, ← leadsOn_append located fine.1, if_pos leads]
      exact List.mem_singleton.2 rfl
    · cases member
  | name hidden pieces =>
    obtain ⟨entry, accepted, rfl⟩ := List.mem_map.1 member
    obtain ⟨among, passes⟩ := List.mem_filter.1 accepted
    use steps ++ [.down entry.1], Path.append_append base steps _
    rw [entries] at among
    split at among
    · next tree found =>
      have inside : entry ∈ (disk.startingAt place).entries ⟨.here, steps⟩ := by
        rw [entries, node_startingAt located found]
        exact among
      exact List.mem_map.2 ⟨entry, List.mem_filter.2 ⟨inside, passes⟩, rfl⟩
    · cases among
  | anyDepth =>
    rw [reached, beneath] at member
    split at member
    · next entries found =>
      rw [reached, beneath, node_startingAt located found]
      rcases List.mem_cons.1 member with rfl | below
      · exact ⟨steps, rfl, List.mem_cons_self⟩
      · obtain ⟨names, seen, rfl⟩ := List.mem_map.1 below
        use steps ++ names.map .down, Path.append_append base steps _
        exact List.mem_cons_of_mem _ (List.mem_map.2 ⟨names, seen, rfl⟩)
    · cases member

theorem mem_reached_of_startingAt
    (member : ⟨.here, more⟩ ∈ (disk.startingAt place).reached only part ⟨.here, steps⟩)
    (fits : (base.append more).text.utf8ByteSize < FileFault.pathLimit) :
    base.append more ∈ disk.reached only part (base.append steps) := by
  obtain ⟨taken, same⟩ := exists_append_of_mem_reached member
  cases same
  have before : (base.append steps).text.utf8ByteSize < FileFault.pathLimit := by
    rw [← Path.append_append] at fits
    exact Nat.lt_of_le_of_lt (Path.utf8ByteSize_text_le_append _ taken) fits
  cases part with
  | fixed step =>
    rw [reached] at member
    split at member
    · next leads =>
      have same : steps ++ taken = steps ++ step.toList :=
        congrArg Path.steps (List.mem_singleton.1 member)
      have sound := leads
      rw [leadsOn, Bool.and_eq_true, Option.isNone_iff_eq_none] at sound
      rw [same] at fits ⊢
      have fine := Path.ofSpelling?_join (ofSpelling?_of_locate located) sound.1 fits
      rw [reached, leadsOn_append located fine, if_pos leads, Path.append_append]
      exact List.mem_singleton.2 rfl
    · cases member
  | name hidden pieces =>
    obtain ⟨entry, accepted, same⟩ := List.mem_map.1 member
    obtain ⟨among, passes⟩ := List.mem_filter.1 accepted
    have steps_eq : steps ++ taken = steps ++ [.down entry.1] := congrArg Path.steps same.symm
    rw [steps_eq, ← Path.append_append]
    rw [entries] at among
    split at among
    · next tree found =>
      have outside : entry ∈ disk.entries (base.append steps) := by
        rw [entries, node_of_startingAt located found before]
        exact among
      exact List.mem_map.2 ⟨entry, List.mem_filter.2 ⟨outside, passes⟩, rfl⟩
    · cases among
  | anyDepth =>
    rw [reached, beneath] at member
    split at member
    · next entries found =>
      rw [reached, beneath, node_of_startingAt located found before]
      rcases List.mem_cons.1 member with same | below
      · have steps_eq : steps ++ taken = steps := congrArg Path.steps same
        rw [steps_eq]
        exact List.mem_cons_self
      · obtain ⟨names, seen, same⟩ := List.mem_map.1 below
        have steps_eq : steps ++ taken = steps ++ names.map .down := congrArg Path.steps same.symm
        rw [steps_eq, ← Path.append_append]
        exact List.mem_cons_of_mem _ (List.mem_map.2 ⟨names, seen, rfl⟩)
    · cases member

theorem mem_expand_startingAt (member : last ∈ disk.expand [base.append steps] parts) :
    ∃ more, last = base.append more ∧
      ⟨.here, more⟩ ∈ (disk.startingAt place).expand [⟨.here, steps⟩] parts := by
  induction parts generalizing steps with
  | nil => exact ⟨steps, List.mem_singleton.1 member, List.mem_singleton.2 rfl⟩
  | cons part rest ih =>
    obtain ⟨next, reached, onward⟩ := mem_expand_cons.1 member
    obtain ⟨taken, rfl, inside⟩ := mem_reached_startingAt located reached
    obtain ⟨more, same, found⟩ := ih onward
    exact ⟨more, same, mem_expand_cons.2 ⟨_, inside, found⟩⟩

theorem mem_expand_of_startingAt
    (member : ⟨.here, more⟩ ∈ (disk.startingAt place).expand [⟨.here, steps⟩] parts)
    (fits : (base.append more).text.utf8ByteSize < FileFault.pathLimit) :
    base.append more ∈ disk.expand [base.append steps] parts := by
  induction parts generalizing steps with
  | nil =>
    cases List.mem_singleton.1 member
    exact List.mem_singleton.2 rfl
  | cons part rest ih =>
    obtain ⟨next, reached, onward⟩ := mem_expand_cons.1 member
    obtain ⟨first, rfl⟩ := exists_append_of_mem_reached reached
    obtain ⟨second, same⟩ := exists_append_of_mem_expand onward
    have short : (base.append (steps ++ first)).text.utf8ByteSize < FileFault.pathLimit := by
      cases same
      have longer := Path.utf8ByteSize_text_le_append (base.append (steps ++ first)) second
      rw [Path.append_append] at longer
      exact Nat.lt_of_le_of_lt longer fits
    exact mem_expand_cons.2 ⟨_, mem_reached_of_startingAt located reached short, ih onward⟩

theorem resolve_join (path : Path) :
    disk.resolve (base.join path) = (disk.startingAt place).resolve path := by
  obtain ⟨start, steps⟩ := path
  cases start with
  | root => rfl
  | doubleRoot => rfl
  | here =>
    rw [locate_eq_follow (ofSpelling?_of_locate located)] at located
    rw [Path.join_here, resolve, Path.append, List.foldl_append, ← (follow_eq_ok located).1]
    rfl

theorem isFile_append (fits : (base.append steps).text.utf8ByteSize < FileFault.pathLimit) :
    disk.isFile (base.append steps) = true ↔ (disk.startingAt place).isFile ⟨.here, steps⟩ = true := by
  rw [isFile_iff, isFile_iff]
  constructor
  · intro file
    obtain ⟨content, found⟩ := file
    exact ⟨content, node_startingAt located found⟩
  · intro file
    obtain ⟨content, found⟩ := file
    exact ⟨content, node_of_startingAt located found fits⟩

theorem null_mem_join_iff (path : Path) :
    '\x00' ∈ (base.join path).text.toList ↔ '\x00' ∈ path.text.toList := by
  have fine := (FileFault.ofSpelling?_eq_none_iff.1 (ofSpelling?_of_locate located)).1
  obtain ⟨start, steps⟩ := path
  cases start with
  | root => exact Iff.rfl
  | doubleRoot => exact Iff.rfl
  | here =>
    rw [Path.null_mem_text_iff] at fine
    rw [Path.join_here, Path.null_mem_text_iff, Path.null_mem_text_iff]
    constructor
    · intro found
      obtain ⟨step, member, null⟩ := found
      rcases List.mem_append.1 member with first | second
      · exact absurd ⟨step, first, null⟩ fine
      · exact ⟨step, second, null⟩
    · intro found
      obtain ⟨step, member, null⟩ := found
      exact ⟨step, List.mem_append_right _ member, null⟩

end Located

/-- A pattern finds what another one does that is evaluated in a directory, and nothing that is found
gets too long by the path of the directory. -/
structure Carries (disk : Disk) (base : Path) (place : Address) (pattern other : String) : Prop where
  looks : (Glob.ofText pattern).looksBehindNull = true ↔ (Glob.ofText other).looksBehindNull = true
  finds : ∀ path, path ∈ disk.glob (.ofText pattern) ↔
    ∃ steps, path = base.append steps ∧ ⟨.here, steps⟩ ∈ (disk.startingAt place).glob (.ofText other)
  relative : ∀ path ∈ (disk.startingAt place).glob (.ofText other), path.start = .here
  fits : ∀ path ∈ (disk.startingAt place).glob (.ofText other),
    (base.append path.steps).text.utf8ByteSize < FileFault.pathLimit

section Carried

variable {disk : Disk} {base : Path} {place : Address} {documents : List String}
  {outer inner : String → String} {excluded files : List Path}

theorem finds_iff {patterns : List String} {path : Path} : disk.Finds patterns excluded path ↔
    disk.isFile path = true ∧ (∃ pattern ∈ patterns, path ∈ disk.glob (.ofText pattern)) ∧
      ∀ other ∈ excluded, ¬disk.resolve other <+: disk.resolve path := by
  rw [Finds, isWithin_eq_false_iff]
  apply and_congr_right
  intro file
  simp only [mem_glob_iff file]

variable (located : disk.locate base = .ok place)
  (carried : ∀ pattern ∈ documents, disk.Carries base place (outer pattern) (inner pattern))

include located carried

theorem canFind_iff : disk.CanFind (documents.map outer) (excluded.map base.join) ↔
    (disk.startingAt place).CanFind (documents.map inner) excluded := by
  constructor
  · intro can
    exact {
      excludes := fun path member null =>
        can.excludes _ (List.mem_map_of_mem member) ((null_mem_join_iff located path).2 null)
      looks := List.forall_mem_map.2 fun pattern member => by
        have sound := List.forall_mem_map.1 can.looks pattern member
        rw [← Bool.not_eq_true] at sound ⊢
        exact mt (carried pattern member).looks.2 sound
      fits := List.forall_mem_map.2 fun pattern member path found => by
        have short := (carried pattern member).fits path found
        obtain ⟨start, steps⟩ := path
        cases (carried pattern member).relative _ found
        exact Nat.lt_of_le_of_lt (Path.utf8ByteSize_text_le_join base steps) short }
  · intro can
    exact {
      excludes := List.forall_mem_map.2 fun path member null =>
        can.excludes path member ((null_mem_join_iff located path).1 null)
      looks := List.forall_mem_map.2 fun pattern member => by
        have sound := List.forall_mem_map.1 can.looks pattern member
        rw [← Bool.not_eq_true] at sound ⊢
        exact mt (carried pattern member).looks.1 sound
      fits := List.forall_mem_map.2 fun pattern member path found => by
        obtain ⟨steps, rfl, inside⟩ := ((carried pattern member).finds path).1 found
        exact (carried pattern member).fits _ inside }

theorem finds_append_iff (steps : List Step) :
    disk.Finds (documents.map outer) (excluded.map base.join) (base.append steps) ↔
      (disk.startingAt place).Finds (documents.map inner) excluded ⟨.here, steps⟩ := by
  have outside : (∀ other ∈ excluded.map base.join,
      ¬disk.resolve other <+: disk.resolve (base.append steps)) ↔
      ∀ other ∈ excluded, ¬(disk.startingAt place).resolve other <+:
        (disk.startingAt place).resolve ⟨.here, steps⟩ := by
    rw [List.forall_mem_map, ← Path.join_here]
    simp only [resolve_join located]
  rw [finds_iff, finds_iff, outside]
  constructor
  · intro both
    obtain ⟨file, ⟨_, among, found⟩, apart⟩ := both
    obtain ⟨pattern, member, rfl⟩ := List.mem_map.1 among
    obtain ⟨others, same, inside⟩ := ((carried pattern member).finds _).1 found
    have equal : steps = others := List.append_cancel_left (congrArg Path.steps same)
    rw [← equal] at inside
    have fits := (carried pattern member).fits _ inside
    exact ⟨(isFile_append located fits).1 file, ⟨_, List.mem_map_of_mem member, inside⟩, apart⟩
  · intro both
    obtain ⟨file, ⟨_, among, found⟩, apart⟩ := both
    obtain ⟨pattern, member, rfl⟩ := List.mem_map.1 among
    have fits := (carried pattern member).fits _ found
    have there := ((carried pattern member).finds (base.append steps)).2 ⟨steps, rfl, found⟩
    exact ⟨(isFile_append located fits).2 file, ⟨_, List.mem_map_of_mem member, there⟩, apart⟩

theorem eq_map_of_carried {others : List Path}
    (outside : disk.findFiles (documents.map outer) (excluded.map base.join) = .ok files)
    (inside : (disk.startingAt place).findFiles (documents.map inner) excluded = .ok others) :
    files = others.map base.join := by
  have relative : ∀ path ∈ others, path.start = .here := by
    intro path member
    obtain ⟨_, ⟨_, among, found⟩, _⟩ := finds_iff.1 ((mem_findFiles inside).1 member)
    obtain ⟨pattern, listed, rfl⟩ := List.mem_map.1 among
    exact (carried pattern listed).relative path found
  have same : others.map base.join = others.map fun path => base.append path.steps := by
    apply List.map_congr_left
    intro path member
    obtain ⟨start, steps⟩ := path
    cases relative _ member
    rfl
  rw [same]
  apply Path.IsSorted.eq_of_mem_iff (isSorted_findFiles outside)
    (Path.isSorted_map_append (isSorted_findFiles inside) relative)
  intro path
  rw [mem_findFiles outside, List.mem_map]
  constructor
  · intro finds
    obtain ⟨_, ⟨_, among, found⟩, _⟩ := finds_iff.1 finds
    obtain ⟨pattern, listed, rfl⟩ := List.mem_map.1 among
    obtain ⟨steps, rfl, _⟩ := ((carried pattern listed).finds path).1 found
    have member := (mem_findFiles inside).2 ((finds_append_iff located carried steps).1 finds)
    exact ⟨_, member, rfl⟩
  · intro found
    obtain ⟨path, member, rfl⟩ := found
    have finds := (mem_findFiles inside).1 member
    obtain ⟨start, steps⟩ := path
    cases relative _ member
    exact (finds_append_iff located carried steps).2 finds

theorem findFiles_carried :
    (disk.findFiles (documents.map outer) (excluded.map base.join)).toOption =
      ((disk.startingAt place).findFiles (documents.map inner) excluded).toOption.map
        (·.map base.join) := by
  have can : disk.CanFind (documents.map outer) (excluded.map base.join) ↔
      (disk.startingAt place).CanFind (documents.map inner) excluded := canFind_iff located carried
  cases inside : (disk.startingAt place).findFiles (documents.map inner) excluded with
  | error error =>
    cases outside : disk.findFiles (documents.map outer) (excluded.map base.join) with
    | error fault => rfl
    | ok files =>
      have both := exists_findFiles_iff.2 (can.1 (exists_findFiles_iff.1 ⟨files, outside⟩))
      rw [inside] at both
      obtain ⟨_, impossible⟩ := both
      cases impossible
  | ok others =>
    obtain ⟨files, outside⟩ := exists_findFiles_iff.2 (can.2 (exists_findFiles_iff.1 ⟨others, inside⟩))
    rw [outside, eq_map_of_carried located carried outside inside]
    rfl

end Carried

end Disk

namespace ProjectConfig

variable {disk : Disk} {base : Path} {place : Address} {config : ProjectConfig} {pattern : String}

theorem anchor_of_relative (relative : (Path.ofText pattern).isAbsolute = false) :
    anchor base pattern = (base.append (Path.ofText pattern).steps).text := by
  simp only [anchor, relative, Path.join_of_relative relative, if_neg Bool.false_ne_true]

theorem anchor_here (relative : (Path.ofText pattern).isAbsolute = false) :
    anchor ⟨.here, []⟩ pattern = (Path.ofText pattern).text := by
  rw [anchor_of_relative relative, ← Disk.eq_append_of_relative relative]

/-- What is written in the settings and what is found with them in a directory does not get too long by
the path of the directory. -/
structure HasRoom (config : ProjectConfig) (disk : Disk) (base : Path) : Prop where
  written : ∀ pattern ∈ config.documents, pattern.utf8ByteSize < FileFault.pathLimit ∧
    (anchor base pattern).utf8ByteSize < FileFault.pathLimit
  found : ∀ pattern ∈ config.documents,
    ∀ path ∈ (disk.startingAt (disk.resolve base)).glob (.ofText (anchor ⟨.here, []⟩ pattern)),
      (base.append path.steps).text.utf8ByteSize < FileFault.pathLimit

section Directory

variable (located : disk.locate base = .ok place) (directory : disk.isDirectory base = true)
  (relative : (Path.ofText pattern).isAbsolute = false)

include located directory

theorem isDirectory_here : (disk.startingAt place).isDirectory ⟨.here, []⟩ = true := by
  obtain ⟨entries, found⟩ := Disk.isDirectory_iff.1 directory
  rw [← Path.append_nil base] at found
  exact Disk.isDirectory_iff.2 ⟨entries, Disk.node_startingAt located found⟩

include relative

theorem carries_anchor (literal : base.IsLiteral)
    (short : (anchor base pattern).utf8ByteSize < FileFault.pathLimit)
    (fits : ∀ path ∈ (disk.startingAt place).glob (.ofText (anchor ⟨.here, []⟩ pattern)),
      (base.append path.steps).text.utf8ByteSize < FileFault.pathLimit) :
    disk.Carries base place (anchor base pattern) (anchor ⟨.here, []⟩ pattern) := by
  have here := isDirectory_here located directory
  rw [anchor_of_relative relative] at short fits ⊢
  rw [anchor_of_relative relative]
  have alone := Nat.lt_of_le_of_lt (Path.utf8ByteSize_text_le_join base _) short
  have outside (path : Path) : path ∈ disk.glob _ ↔ _ :=
    Disk.mem_glob_append directory literal short
  have inside (path : Path) : path ∈ (disk.startingAt place).glob _ ↔ _ :=
    Disk.mem_glob_append here Disk.isLiteral_here alone
  refine ⟨?_, ?_, ?_, fits⟩
  · rw [Disk.looksBehindNull_append_iff directory literal,
      Disk.looksBehindNull_append_iff here Disk.isLiteral_here]
  · intro path
    constructor
    · intro found
      obtain ⟨plain, reached⟩ := (outside path).1 found
      rw [← Path.append_nil base] at reached
      obtain ⟨steps, same, among⟩ := Disk.mem_expand_startingAt located reached
      exact ⟨steps, same, (inside _).2 ⟨plain, among⟩⟩
    · intro found
      obtain ⟨steps, rfl, among⟩ := found
      obtain ⟨plain, reached⟩ := (inside _).1 among
      have there := Disk.mem_expand_of_startingAt located reached (fits _ among)
      rw [Path.append_nil] at there
      exact (outside _).2 ⟨plain, there⟩
  · intro path found
    obtain ⟨steps, rfl⟩ := Disk.exists_append_of_mem_expand ((inside path).1 found).2
    rfl

theorem carries_configured
    (carries : disk.Carries base place (anchor base pattern) (anchor ⟨.here, []⟩ pattern))
    (short : pattern.utf8ByteSize < FileFault.pathLimit)
    (ends : Glob.EndsInStep (Text.splitAt '/' pattern)) :
    disk.Carries base place (anchor base pattern) pattern := by
  have here := isDirectory_here located directory
  obtain ⟨looks, finds, starts, fits⟩ := carries
  rw [anchor_here relative] at looks finds starts fits
  have same (path : Path) : path ∈ (disk.startingAt place).glob (.ofText (Path.ofText pattern).text) ↔
      path ∈ (disk.startingAt place).glob (.ofText pattern) :=
    Disk.mem_glob_moving here relative short ends
  simp only [same] at finds starts fits
  exact ⟨looks.trans (Disk.looksBehindNull_moving_iff here relative), finds, starts, fits⟩

end Directory

theorem toOption_files (config : ProjectConfig) (disk : Disk) : (config.files disk).toOption =
    (disk.findFiles (config.documents.map id)
      [.ofText config.schema, .ofText config.output]).toOption := by
  rw [files, List.map_id]
  cases disk.findFiles config.documents [.ofText config.schema, .ofText config.output] <;> rfl

theorem toOption_files_resolve (config : ProjectConfig) (base : Path) (disk : Disk) :
    ((config.resolve base).files disk).toOption =
      (disk.findFiles (config.documents.map (anchor base))
        ([Path.ofText config.schema, .ofText config.output].map base.join)).toOption := by
  rw [toOption_files, List.map_id, resolve, ofText_anchor, ofText_anchor]
  rfl

theorem map_join_here (paths : List Path) : paths.map (Path.mk .here []).join = paths := by
  apply List.map_id''
  intro path
  obtain ⟨start, steps⟩ := path
  cases start <;> rfl

theorem read_of_ofText {path : Path} {text : String} (readable : disk.readInput .config path = .ok text)
    (given : ofText path text = .ok config) :
    ProjectConfig.read disk path = .ok (config.resolve path.parent) := by
  rw [ProjectConfig.read, readable]
  show (ofText path text).map _ = _
  rw [given]
  rfl

theorem ofText_congr {path other : Path} {text : String} (given : ofText path text = .ok config) :
    ofText other text = .ok config := by
  rw [ofText] at given ⊢
  split at given
  · cases given
  · cases given
  · exact given
  · rw [mapError_eq_ok_iff] at given ⊢
    exact given
  · cases given

end ProjectConfig

namespace Disk

variable {disk other : Disk} {path otherPath : Path} {sort : InputSort} {text : String}

theorem readInput_eq_ok_iff : disk.readInput sort path = .ok text ↔
    ∃ content decoded, disk.node path = .ok (.file content) ∧
      String.fromUTF8? content = some decoded ∧
      text = .ofList (Text.unifyLineEnds decoded.toList) := by
  rw [readInput, mapError_eq_ok_iff, readText, readBytes]
  cases disk.node path with
  | error fault => simp
  | ok tree =>
    cases tree with
    | directory entries => simp
    | file content => cases decoded : String.fromUTF8? content <;> simp [decoded, eq_comm]

end Disk

/-- A project finds the same documents wherever it is looked at from, if the path of its directory is no
pattern and nothing gets too long: from outside, with the settings as they are read there, what it finds
from inside, with the directory in front. The settings that are read inside have patterns without parts
that lead nowhere; the patterns as they are configured find the same unless they end in such a part. -/
theorem ProjectConfig.files_relocated {disk : Disk} {base : Path} {name : FileName} {text : String}
    {config : ProjectConfig} (readable : disk.readInput .config (base.child name) = .ok text)
    (given : ofText (base.child name) text = .ok config) (literal : base.IsLiteral)
    (relative : ∀ pattern ∈ config.documents, (Path.ofText pattern).isAbsolute = false)
    (room : config.HasRoom disk base) :
    ProjectConfig.read disk (base.child name) = .ok (config.resolve base) ∧
    ProjectConfig.read (disk.startingAt (disk.resolve base)) ⟨.here, [.down name]⟩ =
      .ok (config.resolve ⟨.here, []⟩) ∧
    ((config.resolve base).files disk).toOption =
      ((config.resolve ⟨.here, []⟩).files (disk.startingAt (disk.resolve base))).toOption.map
        (·.map base.join) ∧
    ((∀ pattern ∈ config.documents, Glob.EndsInStep (Text.splitAt '/' pattern)) →
      ((config.resolve base).files disk).toOption =
        (config.files (disk.startingAt (disk.resolve base))).toOption.map (·.map base.join)) := by
  obtain ⟨content, decoded, found, valid, decodes⟩ := Disk.readInput_eq_ok_iff.1 readable
  have directory : disk.isDirectory base = true := Disk.isDirectory_of_append found
  have located : disk.locate base = .ok (disk.resolve base) := by
    obtain ⟨entries, there⟩ := Disk.isDirectory_iff.1 directory
    exact Disk.locate_of_node there
  have outside : (base.child name).parent = base := by
    rw [Path.child, Path.append, Path.parent, List.dropLast_concat]
  have readInside : (disk.startingAt (disk.resolve base)).readInput .config ⟨.here, [.down name]⟩ =
      .ok text :=
    Disk.readInput_eq_ok_iff.2 ⟨content, decoded, Disk.node_startingAt located found, valid, decodes⟩
  have anchored : ∀ pattern ∈ config.documents, disk.Carries base (disk.resolve base)
      (anchor base pattern) (anchor ⟨.here, []⟩ pattern) := by
    intro pattern member
    exact carries_anchor located directory (relative pattern member) literal
      (room.written pattern member).2 (room.found pattern member)
  refine ⟨?_, read_of_ofText readInside (ofText_congr given), ?_, ?_⟩
  · rw [read_of_ofText readable given, outside]
  · rw [toOption_files_resolve, toOption_files_resolve, map_join_here]
    exact Disk.findFiles_carried located anchored
  · intro ends
    have configured : ∀ pattern ∈ config.documents, disk.Carries base (disk.resolve base)
        (anchor base pattern) (id pattern) := by
      intro pattern member
      exact carries_configured located directory (relative pattern member) (anchored pattern member)
        (room.written pattern member).1 (ends pattern member)
    rw [toOption_files_resolve, toOption_files]
    exact Disk.findFiles_carried located configured

namespace Sample

/-- A directory with empty settings and a document. -/
def inDirectory (name : FileName) : Disk where
  root := .directory [(name, .directory
    [(⟨"gqlnorm.yaml", by decide⟩, .file "".toUTF8),
      (pageFile, .file "query Page { name }".toUTF8)])]
  workingDirectory := []

def settingsIn (name : FileName) : Path :=
  (Path.mk .here [.down name]).child ⟨"gqlnorm.yaml", by decide⟩

theorem ofText_empty (path : Path) : ProjectConfig.ofText path "" = .ok {} := by
  have computed : (ProjectConfig.ofText (.ofText "gqlnorm.yaml") "").toOption = some {} := by
    decide +kernel
  exact ProjectConfig.ofText_congr (eq_ok_of_toOption computed)

end Sample

theorem ProjectConfig.files_relocated_app :
    ((({} : ProjectConfig).resolve (.ofText "app")).files
      (Sample.inDirectory ⟨"app", by decide⟩)).toOption = some [.ofText "app/page.graphql"] := by
  have readable : ((Sample.inDirectory ⟨"app", by decide⟩).readInput .config
      (Sample.settingsIn ⟨"app", by decide⟩)).toOption = some "" := by
    decide +kernel
  have room : ({} : ProjectConfig).HasRoom (Sample.inDirectory ⟨"app", by decide⟩)
      (.mk .here [.down ⟨"app", by decide⟩]) := by
    constructor <;> decide +kernel
  have relocated := files_relocated (eq_ok_of_toOption readable) (Sample.ofText_empty _)
    (by unfold Path.IsLiteral; decide) (by decide) room
  have ends : ∀ pattern ∈ ({} : ProjectConfig).documents,
      Glob.EndsInStep (Text.splitAt '/' pattern) := by
    intro pattern member
    rw [List.mem_singleton.1 member]
    exact ⟨"*.graphql", by decide, _, rfl⟩
  have base : Path.ofText "app" = .mk .here [.down ⟨"app", by decide⟩] := by decide
  rw [base, relocated.2.2.2 ends]
  decide +kernel

/-- In a directory whose path is a pattern, no document is found from outside. -/
theorem ProjectConfig.files_bracketed :
    ProjectConfig.read (Sample.inDirectory ⟨"app[1]", by decide⟩)
      (Sample.settingsIn ⟨"app[1]", by decide⟩) = .ok (({} : ProjectConfig).resolve (.ofText "app[1]")) ∧
    ((({} : ProjectConfig).resolve (.ofText "app[1]")).files
      (Sample.inDirectory ⟨"app[1]", by decide⟩)).toOption = some [] ∧
    (({} : ProjectConfig).files ((Sample.inDirectory ⟨"app[1]", by decide⟩).startingAt
      [⟨"app[1]", by decide⟩])).toOption = some [.ofText "page.graphql"] := by
  have readable : ((Sample.inDirectory ⟨"app[1]", by decide⟩).readInput .config
      (Sample.settingsIn ⟨"app[1]", by decide⟩)).toOption = some "" := by
    decide +kernel
  refine ⟨?_, by decide +kernel, by decide +kernel⟩
  have base : (Sample.settingsIn ⟨"app[1]", by decide⟩).parent = .ofText "app[1]" := by decide
  rw [read_of_ofText (eq_ok_of_toOption readable) (Sample.ofText_empty _), base]

end DocumentNormalizer
