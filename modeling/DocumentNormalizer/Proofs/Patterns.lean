import DocumentNormalizer.Files.Glob
import DocumentNormalizer.Proofs.Writing

namespace DocumentNormalizer

namespace FileFault

theorem ofSpelling?_eq_none_iff {text : String} :
    ofSpelling? text = none ↔ '\x00' ∉ text.toList ∧ text.utf8ByteSize < pathLimit := by
  rw [ofSpelling?, ← List.contains_iff_mem]
  cases text.toList.contains '\x00' with
  | true => simp
  | false =>
    by_cases long : pathLimit ≤ text.utf8ByteSize
    · simp [long]
    · simp [long, Nat.lt_of_not_le long]

theorem ofSpelling?_of_append {text more : String} (fine : ofSpelling? (text ++ more) = none) :
    ofSpelling? text = none := by
  rw [ofSpelling?_eq_none_iff, String.toList_append, List.mem_append, not_or,
    String.utf8ByteSize_append] at fine
  exact ofSpelling?_eq_none_iff.2 ⟨fine.1.1, Nat.lt_of_le_of_lt (Nat.le_add_right _ _) fine.2⟩

end FileFault

namespace Path

theorem append_nil (path : Path) : path.append [] = path := by
  rw [append, List.append_nil]

theorem append_append (path : Path) (first second : List Step) :
    (path.append first).append second = path.append (first ++ second) := by
  rw [append, append, append, List.append_assoc]

theorem exists_text_append {path : Path} (named : path.start ≠ .here ∨ path.steps ≠ [])
    (steps : List Step) : ∃ more, (path.append steps).text = path.text ++ more := by
  obtain ⟨start, before⟩ := path
  have spelled : ¬(start = .here ∧ before = []) := fun both => named.elim (· both.1) (· both.2)
  have further : ¬(start = .here ∧ before ++ steps = []) := fun both =>
    spelled ⟨both.1, (List.append_eq_nil_iff.1 both.2).1⟩
  rw [text, text, append, if_neg spelled, if_neg further, List.map_append]
  by_cases none : before = []
  · subst none
    exact ⟨"/".intercalate (steps.map Step.text), by simp⟩
  · by_cases last : steps = []
    · subst last
      exact ⟨"", by simp⟩
    · refine ⟨"/" ++ "/".intercalate (steps.map Step.text), ?_⟩
      rw [String.intercalate_append_of_ne_nil (by simpa using none) (by simpa using last)]
      simp only [String.append_assoc]

theorem ofSpelling?_of_append {path : Path} {steps : List Step}
    (fine : FileFault.ofSpelling? (path.append steps).text = none) :
    FileFault.ofSpelling? path.text = none := by
  by_cases named : path.start ≠ .here ∨ path.steps ≠ []
  · obtain ⟨more, same⟩ := exists_text_append named steps
    rw [same] at fine
    exact FileFault.ofSpelling?_of_append fine
  · rw [not_or, not_not, not_not] at named
    rw [text, if_pos named]
    decide

end Path

theorem FileTree.at?_append (tree : FileTree) (first second : Address) :
    tree.at? (first ++ second) = tree.at? first >>= fun inner => inner.at? second := by
  induction first generalizing tree with
  | nil => rfl
  | cons name rest ih =>
    rw [List.cons_append, at?, at?]
    cases tree.child? name with
    | none => rfl
    | some inner => exact ih inner

namespace FileTree

theorem mem_of_lookup {entries : List (FileName × FileTree)} {name : FileName} {tree : FileTree}
    (found : entries.lookup name = some tree) : (name, tree) ∈ entries := by
  obtain ⟨before, after, rfl, _⟩ := List.lookup_eq_some_iff.1 found
  exact List.mem_append_right _ List.mem_cons_self

variable {only : Bool} {entries : List (FileName × FileTree)} {address : Address}

theorem mem_visibleEntries_iff : address ∈ visibleEntries only entries ↔
    ∃ entry ∈ entries, entry.1.isHidden = false ∧ (only = true → entry.2.isDirectory = true) ∧
      (address = [entry.1] ∨ ∃ below ∈ visible only entry.2, address = entry.1 :: below) := by
  induction entries with
  | nil => simp [visibleEntries]
  | cons entry rest ih =>
    obtain ⟨name, tree⟩ := entry
    rw [visibleEntries, List.exists_mem_cons_iff, ← ih]
    cases hidden : name.isHidden with
    | true => simp
    | false =>
      by_cases passed : only = true ∧ tree.isDirectory = false
      · simp [passed]
      · have kept : only = true → tree.isDirectory = true := by
          simpa using passed
        have below : address ∈ (visible only tree).map (name :: ·) ↔
            ∃ below ∈ visible only tree, address = name :: below := by
          simp only [List.mem_map, eq_comm]
        rw [if_neg (by simpa using passed), List.cons_append, List.mem_cons, List.mem_append, below,
          ← or_assoc]
        exact or_congr_left ⟨fun both => ⟨rfl, kept, both⟩, fun all => all.2.2⟩

theorem shown_of_mem_visible {tree : FileTree} (member : address ∈ visible only tree) :
    address ≠ [] ∧ ∀ name ∈ address, name.isHidden = false := by
  induction address generalizing tree with
  | nil =>
    cases tree with
    | file content => rw [visible] at member; cases member
    | directory entries =>
      rw [visible, mem_visibleEntries_iff] at member
      obtain ⟨_, _, _, _, same | ⟨_, _, same⟩⟩ := member <;> cases same
  | cons name rest ih =>
    cases tree with
    | file content => rw [visible] at member; cases member
    | directory entries =>
      rw [visible, mem_visibleEntries_iff] at member
      obtain ⟨entry, _, shown, _, same | ⟨below, member, same⟩⟩ := member
      · cases same
        exact ⟨List.cons_ne_nil _ _, List.forall_mem_singleton.2 shown⟩
      · cases same
        exact ⟨List.cons_ne_nil _ _, List.forall_mem_cons.2 ⟨shown, (ih member).2⟩⟩

theorem mem_visible_of_at? {tree inner : FileTree} (found : tree.at? address = some inner)
    (further : address ≠ []) (shown : ∀ name ∈ address, name.isHidden = false)
    (last : only = true → inner.isDirectory = true) : address ∈ visible only tree := by
  induction address generalizing tree with
  | nil => exact absurd rfl further
  | cons name rest ih =>
    rw [at?] at found
    cases tree with
    | file content => cases found
    | directory entries =>
      rw [child?] at found
      cases inside : entries.lookup name with
      | none => rw [inside] at found; cases found
      | some below =>
        rw [inside] at found
        obtain ⟨first, others⟩ := List.forall_mem_cons.1 shown
        rw [visible, mem_visibleEntries_iff]
        refine ⟨(name, below), mem_of_lookup inside, first, ?_, ?_⟩
        · intro directories
          cases rest with
          | nil => cases found; exact last directories
          | cons next more =>
            cases below with
            | file content => cases found
            | directory entries => rfl
        · cases rest with
          | nil => exact .inl rfl
          | cons next more => exact .inr ⟨_, ih found (List.cons_ne_nil _ _) others, rfl⟩

end FileTree

namespace Disk

variable {disk : Disk} {path : Path} {steps : List Step} {place : Address}

theorem follow_append (start : Address) (first second : List (Option Step)) :
    disk.follow start (first ++ second) =
      disk.follow start first >>= fun middle => disk.follow middle second := by
  induction first generalizing start with
  | nil => rfl
  | cons part rest ih =>
    rw [List.cons_append, follow, follow]
    cases disk.root.at? start with
    | none => rfl
    | some tree =>
      cases tree with
      | file content => rfl
      | directory entries =>
        dsimp only
        split
        · rfl
        · exact ih _

theorem locate_append (fine : FileFault.ofSpelling? (path.append steps).text = none) :
    disk.locate (path.append steps) =
      disk.locate path >>= fun middle => disk.follow middle (steps.map some) := by
  rw [locate, fine, locate, Path.ofSpelling?_of_append fine]
  dsimp only
  rw [Path.append, List.map_append]
  exact follow_append _ _ _

theorem node_eq_ok_iff {tree : FileTree} : disk.node path = .ok tree ↔
    ∃ place, disk.locate path = .ok place ∧ disk.root.at? place = some tree := by
  rw [node]
  cases disk.locate path with
  | error fault => simp [Bind.bind, Except.bind]
  | ok place =>
    cases there : disk.root.at? place <;> simp [Bind.bind, Except.bind, atAddress, there]

theorem isFile_iff : disk.isFile path = true ↔ ∃ content, disk.node path = .ok (.file content) := by
  rw [isFile]
  cases disk.node path with
  | error fault => simp
  | ok tree => cases tree <;> simp

theorem ofSpelling?_of_locate (located : disk.locate path = .ok place) :
    FileFault.ofSpelling? path.text = none := by
  rw [locate] at located
  cases fine : FileFault.ofSpelling? path.text with
  | none => rfl
  | some fault => rw [fine] at located; cases located

theorem ofSpelling?_of_isFile (file : disk.isFile path = true) :
    FileFault.ofSpelling? path.text = none := by
  obtain ⟨content, found⟩ := isFile_iff.1 file
  obtain ⟨place, located, _⟩ := node_eq_ok_iff.1 found
  exact ofSpelling?_of_locate located

/-- The way to anything leads through directories up to its last step. -/
theorem node_above {step : Step} {tree : FileTree}
    (found : disk.node (path.append (step :: steps)) = .ok tree) :
    ∃ entries, disk.node path = .ok (.directory entries) := by
  obtain ⟨place, located, _⟩ := node_eq_ok_iff.1 found
  rw [locate_append (ofSpelling?_of_locate located)] at located
  obtain ⟨middle, started, followed⟩ := exists_of_bind_eq_ok located
  rw [List.map_cons, follow] at followed
  cases there : disk.root.at? middle with
  | none => rw [there] at followed; cases followed
  | some tree =>
    cases tree with
    | file content => rw [there] at followed; cases followed
    | directory entries => exact ⟨entries, node_eq_ok_iff.2 ⟨middle, started, there⟩⟩

theorem exists_node_above {tree : FileTree} (found : disk.node (path.append steps) = .ok tree) :
    ∃ tree, disk.node path = .ok tree := by
  cases steps with
  | nil => exact ⟨tree, Path.append_nil path ▸ found⟩
  | cons step rest =>
    obtain ⟨entries, above⟩ := node_above found
    exact ⟨_, above⟩

theorem node_of_isFile (file : disk.isFile (path.append steps) = true) (further : steps ≠ []) :
    ∃ entries, disk.node path = .ok (.directory entries) := by
  obtain ⟨content, found⟩ := isFile_iff.1 file
  obtain ⟨step, rest, rfl⟩ := List.exists_cons_of_ne_nil further
  exact node_above found

theorem isDirectory_of_node {tree : FileTree} (file : disk.isFile (path.append steps) = true)
    (found : disk.node path = .ok tree) : tree.isDirectory = true ↔ steps ≠ [] := by
  constructor
  · intro isDirectory last
    rw [last, Path.append_nil] at file
    obtain ⟨content, same⟩ := isFile_iff.1 file
    cases found.symm.trans same
    cases isDirectory
  · intro further
    obtain ⟨entries, same⟩ := node_of_isFile file further
    cases found.symm.trans same
    rfl

theorem exists_node_of_isFile (file : disk.isFile (path.append steps) = true) :
    ∃ tree, disk.node path = .ok tree := by
  obtain ⟨content, found⟩ := isFile_iff.1 file
  exact exists_node_above found

theorem foldl_apply_down (start : Address) (names : List FileName) :
    (names.map Step.down).foldl Step.apply start = start ++ names := by
  induction names generalizing start with
  | nil => exact (List.append_nil start).symm
  | cons name rest ih =>
    rw [List.map_cons, List.foldl_cons, ih, Step.apply, List.append_assoc]
    rfl

theorem node_append_down {names : List FileName} {outer inner : FileTree}
    (first : disk.node path = .ok outer)
    (second : disk.node (path.append (names.map .down)) = .ok inner) :
    outer.at? names = some inner := by
  obtain ⟨place, located, there⟩ := node_eq_ok_iff.1 second
  rw [locate_append (ofSpelling?_of_locate located)] at located
  obtain ⟨middle, started, followed⟩ := exists_of_bind_eq_ok located
  obtain ⟨_, started', above⟩ := node_eq_ok_iff.1 first
  cases started.symm.trans started'
  rw [(follow_eq_ok followed).1, foldl_apply_down, FileTree.at?_append, above] at there
  exact there

theorem locate_eq_follow (fine : FileFault.ofSpelling? path.text = none) :
    disk.locate path = disk.follow (disk.startAddress path.start) (path.steps.map some) := by
  rw [locate, fine]

theorem locate_of_node {tree : FileTree} (found : disk.node path = .ok tree) :
    disk.locate path = .ok (disk.resolve path) := by
  obtain ⟨place, located, _⟩ := node_eq_ok_iff.1 found
  have fine := ofSpelling?_of_locate located
  rw [locate_eq_follow fine] at located ⊢
  rw [located, (follow_eq_ok located).1]
  rfl

theorem leadsOn_some {step : Step}
    (fine : FileFault.ofSpelling? (path.append [step]).text = none) :
    disk.leadsOn path (some step) = (disk.node (path.append [step])).isOk := by
  rw [node, locate_eq_follow fine, leadsOn, Option.toList_some, fine]
  rw [Path.append, List.map_append, List.map_singleton, Option.isNone_none, Bool.true_and]

theorem leadsOn_none {tree : FileTree} (found : disk.node path = .ok tree) :
    disk.leadsOn path none = tree.isDirectory := by
  obtain ⟨place, located, there⟩ := node_eq_ok_iff.1 found
  have fine := ofSpelling?_of_locate located
  rw [locate_eq_follow fine] at located
  rw [leadsOn, Option.toList_none, Path.append_nil, fine, follow_append, located,
    Option.isNone_none, Bool.true_and]
  show (disk.follow place [none] >>= disk.atAddress).isOk = _
  rw [follow, there]
  cases tree with
  | file content => rfl
  | directory entries =>
    show (disk.atAddress place).isOk = true
    rw [atAddress, there]
    rfl

/-- A fixed part is followed to a file unless it leads nowhere and is the last. -/
theorem leadsOn_iff {step : Option Step}
    (file : disk.isFile ((path.append step.toList).append steps) = true) :
    disk.leadsOn path step = true ↔ step.toList ++ steps ≠ [] := by
  obtain ⟨tree, found⟩ := exists_node_of_isFile file
  cases step with
  | some step =>
    rw [leadsOn_some (Path.ofSpelling?_of_append (ofSpelling?_of_isFile file))]
    rw [Option.toList_some] at found
    rw [found]
    exact ⟨fun _ => List.cons_ne_nil _ _, fun _ => rfl⟩
  | none =>
    rw [Option.toList_none, Path.append_nil] at file found
    rw [leadsOn_none found]
    exact isDirectory_of_node file found

theorem entries_of_node {entries : List (FileName × FileTree)}
    (found : disk.node path = .ok (.directory entries)) : disk.entries path = entries := by
  rw [Disk.entries, found]
  rfl

theorem mem_named_iff {only hidden : Bool} {pieces : List NamePiece} {next : Path}
    (file : disk.isFile (next.append steps) = true) (last : only = true → steps ≠ []) :
    next ∈ disk.named only hidden pieces path ↔ ∃ name : FileName,
      (hidden = true ∨ name.isHidden = false) ∧ NamePattern.accepts pieces name.text.toList = true ∧
        next = path.append [.down name] := by
  rw [named, List.mem_map]
  constructor
  · rintro ⟨⟨name, tree⟩, member, rfl⟩
    have accepted := (List.mem_filter.1 member).2
    simp only [Bool.and_eq_true, Bool.or_eq_true, Bool.not_eq_true'] at accepted
    exact ⟨name, accepted.1.1, accepted.2, rfl⟩
  · rintro ⟨name, shown, accepted, rfl⟩
    obtain ⟨tree, found⟩ := exists_node_of_isFile file
    have isDirectory := isDirectory_of_node file found
    rw [Path.append_append] at file
    obtain ⟨entries, above⟩ := node_of_isFile file (List.cons_ne_nil _ _)
    have there : FileTree.at? (.directory entries) [name] = some tree :=
      node_append_down above found
    rw [FileTree.at?, FileTree.child?] at there
    cases inside : entries.lookup name with
    | none => rw [inside] at there; cases there
    | some inner =>
      rw [inside] at there
      cases there
      refine ⟨(name, tree), List.mem_filter.2 ⟨?_, ?_⟩, rfl⟩
      · rw [entries_of_node above]
        exact FileTree.mem_of_lookup inside
      · simp only [Bool.and_eq_true, Bool.or_eq_true, Bool.not_eq_true']
        refine ⟨⟨shown, ?_⟩, accepted⟩
        cases only with
        | false => exact .inl rfl
        | true => exact .inr (isDirectory.2 (last rfl))

theorem mem_beneath_iff {only : Bool} {next : Path}
    (file : disk.isFile (next.append steps) = true) (last : only = true → steps ≠ []) :
    next ∈ disk.beneath only path ↔ ∃ names : List FileName,
      (∀ name ∈ names, name.isHidden = false) ∧ names.map Step.down ++ steps ≠ [] ∧
        next = path.append (names.map .down) := by
  constructor
  · intro member
    rw [beneath] at member
    split at member
    · next entries above =>
      rcases List.mem_cons.1 member with rfl | below
      · have moves : steps ≠ [] := (isDirectory_of_node file above).1 rfl
        exact ⟨[], fun _ none => (nomatch none), moves, (Path.append_nil _).symm⟩
      · obtain ⟨names, seen, rfl⟩ := List.mem_map.1 below
        rw [← FileTree.visible] at seen
        obtain ⟨further, shown⟩ := FileTree.shown_of_mem_visible seen
        exact ⟨names, shown, by simp [further], rfl⟩
    · cases member
  · rintro ⟨names, shown, moves, rfl⟩
    obtain ⟨tree, found⟩ := exists_node_of_isFile file
    have isDirectory := isDirectory_of_node file found
    rw [Path.append_append] at file
    obtain ⟨entries, above⟩ := node_of_isFile file moves
    rw [beneath, above]
    by_cases none : names = []
    · subst none
      rw [List.map_nil, Path.append_nil]
      exact List.mem_cons_self
    · have there := node_append_down above found
      have seen := FileTree.mem_visible_of_at? there none shown fun directories =>
        isDirectory.2 (last directories)
      exact List.mem_cons_of_mem _ (List.mem_map_of_mem seen)

end Disk

/-- The steps that a part of a pattern can stand for. -/
inductive GlobPart.Takes : GlobPart → List Step → Prop
  | fixed (step : Option Step) : Takes (.fixed step) step.toList
  | name {hidden : Bool} {pieces : List NamePiece} {name : FileName}
      (shown : hidden = true ∨ name.isHidden = false)
      (accepted : NamePattern.accepts pieces name.text.toList = true) :
      Takes (.name hidden pieces) [.down name]
  | anyDepth {names : List FileName} (shown : ∀ name ∈ names, name.isHidden = false) :
      Takes .anyDepth (names.map .down)

/-- The steps that the parts of a pattern can stand for on the way to a file. The last part has to
take one. -/
inductive GlobPart.Spells : List GlobPart → List Step → Prop
  | nil : Spells [] []
  | cons {part : GlobPart} {taken steps : List Step} {rest : List GlobPart}
      (takes : Takes part taken) (further : Spells rest steps) (moves : taken ++ steps ≠ []) :
      Spells (part :: rest) (taken ++ steps)

namespace GlobPart

theorem Spells.ne_nil {parts : List GlobPart} {steps : List Step} (spells : Spells parts steps)
    (more : parts ≠ []) : steps ≠ [] := by
  cases spells with
  | nil => exact absurd rfl more
  | cons takes further moves => exact moves

theorem spells_cons_iff {part : GlobPart} {rest : List GlobPart} {steps : List Step} :
    Spells (part :: rest) steps ↔ ∃ taken further, steps = taken ++ further ∧ Takes part taken ∧
      Spells rest further ∧ taken ++ further ≠ [] := by
  constructor
  · intro spells
    cases spells with
    | cons takes further moves => exact ⟨_, _, rfl, takes, further, moves⟩
  · rintro ⟨taken, further, rfl, takes, spells, moves⟩
    exact .cons takes spells moves

end GlobPart

namespace Disk

variable {disk : Disk} {paths : List Path} {last : Path}

/-- The parts of a pattern find a file exactly if they can stand for the steps to it. -/
theorem mem_expand_iff {parts : List GlobPart} (file : disk.isFile last = true) :
    last ∈ disk.expand paths parts ↔
      ∃ path ∈ paths, ∃ steps, GlobPart.Spells parts steps ∧ last = path.append steps := by
  -- Each part is followed from all paths at once, so the claim is on whatever paths there are.
  induction parts generalizing paths with
  | nil =>
    constructor
    · intro member
      exact ⟨last, member, [], .nil, (Path.append_nil last).symm⟩
    · rintro ⟨path, member, steps, ⟨⟩, rfl⟩
      rw [Path.append_nil]
      exact member
  | cons part rest ih =>
    have onward {steps : List Step} (spells : GlobPart.Spells rest steps) :
        (!rest.isEmpty) = true → steps ≠ [] := by
      intro more
      apply spells.ne_nil
      rintro rfl
      cases more
    cases part with
    | fixed step =>
      rw [expand, ih]
      constructor
      · rintro ⟨next, member, steps, spells, rfl⟩
        obtain ⟨path, kept, rfl⟩ := List.mem_map.1 member
        obtain ⟨among, leads⟩ := List.mem_filter.1 kept
        have moves := (leadsOn_iff file).1 leads
        exact ⟨path, among, _, .cons (.fixed step) spells moves, Path.append_append _ _ _⟩
      · rintro ⟨path, among, _, spells, rfl⟩
        obtain ⟨taken, steps, rfl, takes, others, moves⟩ := GlobPart.spells_cons_iff.1 spells
        cases takes
        rw [← Path.append_append] at file ⊢
        have leads : disk.leadsOn path step = true := (leadsOn_iff file).2 moves
        exact ⟨_, List.mem_map_of_mem (List.mem_filter.2 ⟨among, leads⟩), steps, others, rfl⟩
    | name hidden pieces =>
      rw [expand, ih]
      constructor
      · rintro ⟨next, member, steps, spells, rfl⟩
        obtain ⟨path, among, named⟩ := List.mem_flatMap.1 member
        obtain ⟨name, shown, accepted, rfl⟩ := (mem_named_iff file (onward spells)).1 named
        have moves : [Step.down name] ++ steps ≠ [] := List.cons_ne_nil _ _
        exact ⟨path, among, _, .cons (.name shown accepted) spells moves,
          Path.append_append _ _ _⟩
      · rintro ⟨path, among, _, spells, rfl⟩
        obtain ⟨taken, steps, rfl, takes, others, moves⟩ := GlobPart.spells_cons_iff.1 spells
        cases takes with
        | name shown accepted =>
          rw [← Path.append_append] at file ⊢
          have named := (mem_named_iff file (onward others)).2 ⟨_, shown, accepted, rfl⟩
          exact ⟨_, List.mem_flatMap.2 ⟨path, among, named⟩, steps, others, rfl⟩
    | anyDepth =>
      rw [expand, ih]
      constructor
      · rintro ⟨next, member, steps, spells, rfl⟩
        obtain ⟨path, among, beneath⟩ := List.mem_flatMap.1 member
        obtain ⟨names, shown, moves, rfl⟩ := (mem_beneath_iff file (onward spells)).1 beneath
        exact ⟨path, among, _, .cons (.anyDepth shown) spells moves, Path.append_append _ _ _⟩
      · rintro ⟨path, among, _, spells, rfl⟩
        obtain ⟨taken, steps, rfl, takes, others, moves⟩ := GlobPart.spells_cons_iff.1 spells
        cases takes with
        | anyDepth shown =>
          rw [← Path.append_append] at file ⊢
          have beneath := (mem_beneath_iff file (onward others)).2 ⟨_, shown, moves, rfl⟩
          exact ⟨_, List.mem_flatMap.2 ⟨path, among, beneath⟩, steps, others, rfl⟩

end Disk

/-- Whether a pattern stands for a path, if that leads to a file. -/
def Glob.Spells (pattern : Glob) (path : Path) : Prop :=
  FileFault.ofSpelling? pattern.fixed = none ∧ path.start = pattern.start ∧
    GlobPart.Spells pattern.parts path.steps

theorem Disk.mem_glob_iff {disk : Disk} {pattern : Glob} {path : Path}
    (file : disk.isFile path = true) : path ∈ disk.glob pattern ↔ pattern.Spells path := by
  rw [glob, Glob.Spells]
  cases FileFault.ofSpelling? pattern.fixed with
  | some fault => simp
  | none =>
    rw [Option.isSome_none, if_neg Bool.false_ne_true, mem_expand_iff file]
    obtain ⟨start, steps⟩ := path
    constructor
    · rintro ⟨_, member, steps, spells, same⟩
      rw [List.mem_singleton.1 member] at same
      cases same
      exact ⟨rfl, rfl, spells⟩
    · rintro ⟨_, rfl, spells⟩
      exact ⟨_, List.mem_singleton.2 rfl, steps, spells, rfl⟩

end DocumentNormalizer
