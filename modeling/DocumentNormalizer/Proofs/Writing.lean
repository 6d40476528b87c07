import DocumentNormalizer.Project.Output
import DocumentNormalizer.Proofs.Outcome
import Mathlib.Data.List.Nodup

namespace DocumentNormalizer

namespace FileTree

def file? (tree : FileTree) (place : Address) : Option ByteArray := tree.at? place >>= bytes?

def IsDirectoryAt (tree : FileTree) (place : Address) : Prop :=
  ∃ entries, tree.at? place = some (.directory entries)

theorem lookup_cons (key other : FileName) (tree : FileTree)
    (rest : List (FileName × FileTree)) : ((key, tree) :: rest).lookup other =
      if other = key then some tree else rest.lookup other := by
  rw [List.lookup_cons]
  by_cases same : other = key
  · rw [if_pos same, beq_iff_eq.2 same]
  · rw [if_neg same, beq_eq_false_iff_ne.2 same]

theorem lookup_alter (change : Option FileTree → FileTree) (name other : FileName)
    (entries : List (FileName × FileTree)) :
    (alter change name entries).lookup other =
      if other = name then some (change (entries.lookup name)) else entries.lookup other := by
  induction entries with
  | nil => rw [alter, lookup_cons]; rfl
  | cons entry rest ih =>
    obtain ⟨key, tree⟩ := entry
    rw [alter]
    by_cases here : key = name
    · subst here
      rw [if_pos rfl, lookup_cons, lookup_cons, if_pos rfl, lookup_cons]
      split <;> rfl
    · rw [if_neg here, lookup_cons, ih, lookup_cons, lookup_cons, if_neg (Ne.symm here)]
      by_cases same : other = key
      · rw [if_pos same, if_pos same, if_neg (same ▸ here)]
      · rw [if_neg same, if_neg same]

theorem file?_cons (entries : List (FileName × FileTree)) (name : FileName) (rest : Address) :
    (directory entries).file? (name :: rest) = entries.lookup name >>= fun inner =>
      inner.file? rest := by
  rw [file?, at?, child?]
  cases entries.lookup name <;> rfl

theorem isDirectoryAt_cons {entries : List (FileName × FileTree)} {name : FileName}
    {rest : Address} : (directory entries).IsDirectoryAt (name :: rest) ↔
      ∃ inner, entries.lookup name = some inner ∧ inner.IsDirectoryAt rest := by
  rw [IsDirectoryAt, at?, child?]
  cases entries.lookup name with
  | none => simp
  | some inner => simp [IsDirectoryAt]

theorem put_cons (entries : List (FileName × FileTree)) (name : FileName) (rest : Address)
    (new : FileTree) : (directory entries).put (name :: rest) new =
      .directory (alter (fun old => put (old.getD (.directory [])) rest new) name entries) := by
  rw [put]

/-- The files of one tree are those of another one with some files written. -/
structure Wrote (old new : FileTree) (files : List (Address × ByteArray)) : Prop where
  directories : ∀ place, old.IsDirectoryAt place → new.IsDirectoryAt place
  written : ∀ file ∈ files, new.file? file.1 = some file.2
  others : ∀ place ∉ files.map Prod.fst, new.file? place = old.file? place

theorem file?_put_cons (entries : List (FileName × FileTree)) (name other : FileName)
    (rest more : Address) (new : FileTree) :
    ((directory entries).put (name :: rest) new).file? (other :: more) =
      if other = name then (((entries.lookup name).getD (.directory [])).put rest new).file? more
      else (directory entries).file? (other :: more) := by
  rw [put_cons, file?_cons, lookup_alter, file?_cons]
  split <;> rfl

theorem isDirectoryAt_put_cons {entries : List (FileName × FileTree)} {name other : FileName}
    {rest more : Address} {new : FileTree} :
    ((directory entries).put (name :: rest) new).IsDirectoryAt (other :: more) ↔
      if other = name then
        (((entries.lookup name).getD (.directory [])).put rest new).IsDirectoryAt more
      else (directory entries).IsDirectoryAt (other :: more) := by
  rw [put_cons, isDirectoryAt_cons, lookup_alter, isDirectoryAt_cons]
  split <;> simp

theorem IsDirectoryAt.nil (entries : List (FileName × FileTree)) :
    (directory entries).IsDirectoryAt [] :=
  ⟨entries, rfl⟩

theorem file?_empty (place : Address) : (directory []).file? place = none := by
  cases place with
  | nil => rfl
  | cons name rest => rw [file?_cons]; rfl

theorem not_isDirectoryAt_of_at?_eq_none {tree : FileTree} {place : Address}
    (nothing : tree.at? place = none) : ¬tree.IsDirectoryAt place := by
  rintro ⟨entries, something⟩
  rw [nothing] at something
  cases something

theorem file?_put_directory {tree : FileTree} {place : Address} (nothing : tree.at? place = none)
    (other : Address) : (tree.put place (.directory [])).file? other = tree.file? other := by
  induction place generalizing tree other with
  | nil => cases nothing
  | cons name rest ih =>
    cases tree with
    | file content => rw [put]
    | directory entries =>
      cases other with
      | nil => rw [put_cons]; rfl
      | cons first more =>
        rw [file?_put_cons]
        split
        · next same =>
          subst same
          rw [file?_cons]
          cases found : entries.lookup first with
          | none =>
            cases rest with
            | nil => rw [Option.getD_none, put, file?_empty]; rfl
            | cons => rw [Option.getD_none, ih rfl, file?_empty]; rfl
          | some inner =>
            rw [at?, child?, found] at nothing
            exact ih nothing more
        · rfl

theorem not_isDirectoryAt_file (content : ByteArray) (place : Address) :
    ¬(file content).IsDirectoryAt place := by
  rintro ⟨entries, something⟩
  cases place with
  | nil => cases something
  | cons name rest => cases something

theorem IsDirectoryAt.put {tree : FileTree} {place other : Address} (new : FileTree)
    (free : ¬tree.IsDirectoryAt place) (isDirectory : tree.IsDirectoryAt other) :
    (tree.put place new).IsDirectoryAt other := by
  induction place generalizing tree other with
  | nil =>
    cases tree with
    | file content => exact absurd isDirectory (not_isDirectoryAt_file content other)
    | directory entries => exact absurd (.nil entries) free
  | cons name rest ih =>
    cases tree with
    | file content => exact absurd isDirectory (not_isDirectoryAt_file content other)
    | directory entries =>
      cases other with
      | nil =>
        rw [put_cons]
        exact .nil _
      | cons first more =>
        rw [isDirectoryAt_put_cons]
        split
        · next same =>
          subst same
          rw [isDirectoryAt_cons] at free
          obtain ⟨inner, found, isDirectory⟩ := isDirectoryAt_cons.1 isDirectory
          rw [found]
          exact ih (fun inside => free ⟨inner, found, inside⟩) isDirectory
        · exact isDirectory

theorem file?_file_cons (content : ByteArray) (name : FileName) (rest : Address) :
    (file content).file? (name :: rest) = none := rfl

theorem file?_cons_of_not_isDirectoryAt {entries : List (FileName × FileTree)}
    {name next : FileName} {more : Address} (free : ¬(directory entries).IsDirectoryAt [name]) :
    (directory entries).file? (name :: next :: more) = none := by
  rw [isDirectoryAt_cons] at free
  rw [file?_cons]
  cases found : entries.lookup name with
  | none => rfl
  | some inner =>
    cases inner with
    | file content => rfl
    | directory entries => exact absurd ⟨_, found, .nil entries⟩ free

theorem file?_put_file {tree : FileTree} {parent : Address} {name : FileName}
    (isDirectory : tree.IsDirectoryAt parent) (free : ¬tree.IsDirectoryAt (parent ++ [name]))
    (content : ByteArray) (other : Address) :
    (tree.put (parent ++ [name]) (.file content)).file? other =
      if other = parent ++ [name] then some content else tree.file? other := by
  induction parent generalizing tree other with
  | nil =>
    cases tree with
    | file content => exact absurd isDirectory (not_isDirectoryAt_file content [])
    | directory entries =>
      rw [List.nil_append] at free ⊢
      cases other with
      | nil => rw [put_cons]; rfl
      | cons first more =>
        rw [file?_put_cons]
        by_cases same : first = name
        · subst same
          rw [if_pos rfl, put]
          cases more with
          | nil => rw [if_pos rfl]; rfl
          | cons next more =>
            rw [file?_file_cons, if_neg (by simp), file?_cons_of_not_isDirectoryAt free]
        · rw [if_neg same, if_neg (by simp [same])]
  | cons head rest ih =>
    cases tree with
    | file content => exact absurd isDirectory (not_isDirectoryAt_file content _)
    | directory entries =>
      rw [List.cons_append] at free ⊢
      cases other with
      | nil => rw [put_cons]; rfl
      | cons first more =>
        rw [file?_put_cons]
        by_cases same : first = head
        · subst same
          rw [isDirectoryAt_cons] at free
          obtain ⟨inner, found, isDirectory⟩ := isDirectoryAt_cons.1 isDirectory
          rw [if_pos rfl, found, Option.getD_some,
            ih isDirectory fun inside => free ⟨inner, found, inside⟩, file?_cons, found]
          simp only [List.cons.injEq, true_and]
          rfl
        · rw [if_neg same, if_neg (by simp [same])]

namespace Wrote

variable {old middle new : FileTree} {files more : List (Address × ByteArray)}

theorem refl (tree : FileTree) : tree.Wrote tree [] where
  directories _ isDirectory := isDirectory
  written _ member := nomatch member
  others _ _ := rfl

theorem trans (first : old.Wrote middle files) (second : middle.Wrote new more)
    (apart : ∀ place ∈ files.map Prod.fst, place ∉ more.map Prod.fst) :
    old.Wrote new (files ++ more) where
  directories place isDirectory := second.directories place (first.directories place isDirectory)
  written file member := by
    rcases List.mem_append.1 member with earlier | later
    · rw [second.others _ (apart _ (List.mem_map_of_mem earlier)), first.written file earlier]
    · exact second.written file later
  others place outside := by
    rw [List.map_append, List.mem_append, not_or] at outside
    rw [second.others place outside.2, first.others place outside.1]

theorem put_directory {tree : FileTree} {place : Address} (nothing : tree.at? place = none) :
    tree.Wrote (tree.put place (.directory [])) [] where
  directories _ := .put _ (not_isDirectoryAt_of_at?_eq_none nothing)
  written _ member := nomatch member
  others other _ := file?_put_directory nothing other

theorem put_file {tree : FileTree} {parent : Address} {name : FileName}
    (isDirectory : tree.IsDirectoryAt parent) (free : ¬tree.IsDirectoryAt (parent ++ [name]))
    (content : ByteArray) :
    tree.Wrote (tree.put (parent ++ [name]) (.file content)) [(parent ++ [name], content)] where
  directories _ := .put _ free
  written file member := by
    rw [List.mem_singleton.1 member, file?_put_file isDirectory free, if_pos rfl]
  others other outside := by
    rw [file?_put_file isDirectory free, if_neg]
    simpa using outside

end Wrote

end FileTree

theorem FileTree.IsDirectoryAt.top {tree : FileTree} {place : Address}
    (isDirectory : tree.IsDirectoryAt place) : tree.IsDirectoryAt [] := by
  cases tree with
  | file content => exact absurd isDirectory (not_isDirectoryAt_file content _)
  | directory entries => exact .nil entries

theorem FileTree.IsDirectoryAt.of_append {tree : FileTree} {place more : Address}
    (isDirectory : tree.IsDirectoryAt (place ++ more)) : tree.IsDirectoryAt place := by
  induction place generalizing tree with
  | nil => exact isDirectory.top
  | cons name rest ih =>
    cases tree with
    | file content => exact absurd isDirectory (not_isDirectoryAt_file content _)
    | directory entries =>
      obtain ⟨inner, found, inside⟩ := isDirectoryAt_cons.1 isDirectory
      exact isDirectoryAt_cons.2 ⟨inner, found, ih inside⟩

theorem FileTree.IsDirectoryAt.dropLast {tree : FileTree} {place : Address}
    (isDirectory : tree.IsDirectoryAt place) : tree.IsDirectoryAt place.dropLast := by
  obtain ⟨last, same⟩ := List.dropLast_prefix place
  rw [← same] at isDirectory
  exact isDirectory.of_append

namespace Disk

def file? (disk : Disk) (place : Address) : Option ByteArray := disk.root.file? place

/-- Relative paths start from a directory that is there. -/
def HasWorkingDirectory (disk : Disk) : Prop := disk.root.IsDirectoryAt disk.workingDirectory

/-- The files of one disk are those of another one with some files written. -/
structure Wrote (old new : Disk) (files : List (Address × ByteArray)) : Prop where
  workingDirectory : new.workingDirectory = old.workingDirectory
  root : old.root.Wrote new.root files

namespace Wrote

variable {old middle new : Disk} {files more : List (Address × ByteArray)}

theorem refl (disk : Disk) : disk.Wrote disk [] := ⟨rfl, .refl disk.root⟩

theorem trans (first : old.Wrote middle files) (second : middle.Wrote new more)
    (apart : ∀ place ∈ files.map Prod.fst, place ∉ more.map Prod.fst) :
    old.Wrote new (files ++ more) :=
  ⟨second.workingDirectory.trans first.workingDirectory, first.root.trans second.root apart⟩

theorem hasWorkingDirectory (wrote : old.Wrote new files) (working : old.HasWorkingDirectory) :
    new.HasWorkingDirectory := by
  rw [HasWorkingDirectory, wrote.workingDirectory]
  exact wrote.root.directories _ working

theorem resolve (wrote : old.Wrote new files) (path : Path) :
    new.resolve path = old.resolve path := by
  have start : new.startAddress path.start = old.startAddress path.start := by
    cases path.start with
    | here => exact wrote.workingDirectory
    | root => rfl
    | doubleRoot => rfl
  rw [Disk.resolve, start, Disk.resolve]

end Wrote

variable {disk new : Disk} {path : Path} {place : Address}

/-- A way through directories ends where its steps lead to, in a directory that is there. -/
theorem follow_eq_ok {steps : List Step} {start : Address}
    (found : disk.follow start (steps.map some) = .ok place) :
    place = steps.foldl Step.apply start ∧
      (disk.root.IsDirectoryAt start.dropLast → disk.root.IsDirectoryAt place.dropLast) := by
  induction steps generalizing start with
  | nil =>
    cases found
    exact ⟨rfl, id⟩
  | cons step rest ih =>
    rw [List.map_cons, follow] at found
    cases there : disk.root.at? start with
    | none => rw [there] at found; cases found
    | some tree =>
      cases tree with
      | file content => rw [there] at found; cases found
      | directory entries =>
        rw [there] at found
        dsimp only at found
        split at found
        · cases found
        · obtain ⟨same, inside⟩ := ih found
          refine ⟨same, fun _ => inside ?_⟩
          have isDirectory : disk.root.IsDirectoryAt start := ⟨entries, there⟩
          cases step with
          | up => exact isDirectory.dropLast.dropLast
          | down name =>
            have back : (Step.apply start (.down name)).dropLast = start := List.dropLast_concat
            rwa [Option.elim_some, back]

theorem locate_eq_ok (working : disk.HasWorkingDirectory) (found : disk.locate path = .ok place) :
    place = disk.resolve path ∧ disk.root.IsDirectoryAt place.dropLast := by
  rw [locate] at found
  split at found
  · cases found
  · obtain ⟨same, inside⟩ := follow_eq_ok found
    refine ⟨same, inside ?_⟩
    have top := working.top
    cases path.start with
    | here => exact working.dropLast
    | root => exact top
    | doubleRoot => exact top

theorem follow_ne_nullCharacter {start : Address} {parts : List (Option Step)} :
    disk.follow start parts ≠ .error .nullCharacter := by
  induction parts generalizing start with
  | nil =>
    intro same
    cases same
  | cons part rest ih =>
    intro same
    rw [follow] at same
    cases found : disk.root.at? start with
    | none =>
      rw [found] at same
      cases same
    | some tree =>
      rw [found] at same
      cases tree with
      | file content => cases same
      | directory entries =>
        dsimp only at same
        split at same
        · cases same
        · exact ih same

theorem locate_eq_nullCharacter_iff :
    disk.locate path = .error .nullCharacter ↔ '\x00' ∈ path.text.toList := by
  rw [locate, FileFault.ofSpelling?, ← List.contains_iff_mem]
  cases path.text.toList.contains '\x00' with
  | true => exact iff_of_true rfl rfl
  | false =>
    apply iff_of_false _ Bool.false_ne_true
    rw [if_neg Bool.false_ne_true]
    split
    · next fault long =>
      intro same
      cases same
      split at long <;> cases long
    · exact follow_ne_nullCharacter

theorem wrote_of_newDirectory (made : disk.newDirectory path = .ok new) : disk.Wrote new [] := by
  rw [newDirectory] at made
  cases found : disk.locate path with
  | error fault => rw [found] at made; cases made
  | ok place =>
    simp only [found] at made
    cases there : disk.root.at? place with
    | some tree => rw [there] at made; cases made
    | none =>
      rw [there] at made
      cases made
      exact ⟨rfl, .put_directory there⟩

theorem wrote_of_write (working : disk.HasWorkingDirectory) {content : ByteArray}
    (done : disk.write path content = .ok new) :
    disk.Wrote new [(disk.resolve path, content)] := by
  rw [write] at done
  cases found : disk.locate path with
  | error fault => rw [found] at done; cases done
  | ok place =>
    simp only [found] at done
    obtain ⟨same, inside⟩ := locate_eq_ok working found
    have free : ¬disk.root.IsDirectoryAt place := by
      rintro ⟨entries, there⟩
      simp only [there] at done
      cases done
    have put : new = disk.putAt place (.file content) := by
      split at done
      · cases done
      · cases done
        rfl
    rw [← same, put]
    rcases List.eq_nil_or_concat' place with rfl | ⟨parent, name, rfl⟩
    · exact absurd inside free
    · rw [List.dropLast_concat] at inside
      exact ⟨rfl, .put_file inside free content⟩

end Disk

/-- An error is about a path or one on the way to it, and blames a null character only where there
is one. -/
structure FileError.IsFairTo (error : FileError) (path : Path) : Prop where
  within : error.path.steps ⊆ path.steps
  null : error.fault = .nullCharacter → '\x00' ∈ error.path.text.toList

theorem FileError.IsFairTo.of_parent {error : FileError} {path : Path}
    (fair : error.IsFairTo path.parent) : error.IsFairTo path :=
  ⟨List.Subset.trans fair.within (List.dropLast_subset _), fair.null⟩

namespace Disk

variable {disk : Disk} {path : Path} {error : FileError} {fault : FileFault}

theorem isFairTo_of_locate (failed : disk.locate path = .error fault) :
    FileError.IsFairTo ⟨fault, path⟩ path where
  within := List.Subset.refl _
  null same := by
    cases (same : fault = .nullCharacter)
    exact locate_eq_nullCharacter_iff.1 failed

theorem isFairTo_of_newDirectory (failed : disk.newDirectory path = .error error) :
    error.IsFairTo path := by
  rw [newDirectory] at failed
  cases found : disk.locate path with
  | error fault =>
    rw [found] at failed
    cases failed
    exact isFairTo_of_locate found
  | ok place =>
    simp only [found] at failed
    split at failed
    · cases failed
      exact ⟨List.Subset.refl _, nofun⟩
    · cases failed

theorem isFairTo_of_write {content : ByteArray} (failed : disk.write path content = .error error) :
    error.IsFairTo path := by
  rw [write] at failed
  cases found : disk.locate path with
  | error fault =>
    rw [found] at failed
    cases failed
    exact isFairTo_of_locate found
  | ok place =>
    simp only [found] at failed
    split at failed
    · cases failed
      exact ⟨List.Subset.refl _, nofun⟩
    · cases failed

end Disk

namespace DiskAction

variable {disk : Disk}

theorem yields_ensureDirectory (path : Path) :
    Yields (ensureDirectory path) disk (fun _ after => disk.Wrote after [])
      fun error after => disk.Wrote after [] ∧ error.IsFairTo path := by
  refine .get ?_
  split
  · next made => exact .set (Disk.wrote_of_newDirectory made)
  · next error failed =>
    split
    · exact .pure (.refl disk)
    · exact .throw ⟨.refl disk, Disk.isFairTo_of_newDirectory failed⟩

theorem yields_makeDirectories (path : Path) :
    Yields (makeDirectories path) disk (fun _ after => disk.Wrote after [])
      fun error after => disk.Wrote after [] ∧ error.IsFairTo path := by
  rw [makeDirectories]
  refine .get ?_
  split
  · next made => exact .set (Disk.wrote_of_newDirectory made)
  · next error failed =>
    have fair : error.IsFairTo path := Disk.isFairTo_of_newDirectory failed
    split
    · split
      · exact .throw ⟨.refl disk, fair⟩
      · have above : Yields _ disk _ _ := yields_makeDirectories path.parent
        refine (above.mono id fun bad => ⟨bad.1, bad.2.of_parent⟩).bind fun first => ?_
        have both {after : Disk} (second : Disk.Wrote _ after []) : disk.Wrote after [] :=
          first.trans second (List.forall_mem_nil _)
        exact (yields_ensureDirectory path).mono both fun bad => ⟨both bad.1, bad.2⟩
    · split
      · exact .pure (.refl disk)
      · exact .throw ⟨.refl disk, fair⟩
termination_by path.steps.length
decreasing_by
  have := List.length_pos_iff.mpr ‹path.steps ≠ []›
  simp only [Path.parent, List.length_dropLast]
  omega

theorem yields_writeFile (working : disk.HasWorkingDirectory) (path : Path) (content : ByteArray) :
    Yields (writeFile path content) disk
      (fun _ after => disk.Wrote after [(disk.resolve path, content)])
      fun error _ => error.IsFairTo path := by
  refine .get ?_
  split
  · next done => exact .set (Disk.wrote_of_write working done)
  · next error failed => exact .throw (Disk.isFairTo_of_write failed)

end DiskAction

namespace PrintedDocument

variable {disk : Disk} {directory : Path}

def file (disk : Disk) (directory : Path) (document : PrintedDocument) : Address × ByteArray :=
  (disk.resolve (document.path directory), (document.text ++ "\n").toUTF8)

def entry (directory : Path) (document : PrintedDocument) : String × Path :=
  (document.name, document.path directory)

theorem file_of_wrote {after : Disk} {files : List (Address × ByteArray)}
    (wrote : disk.Wrote after files) : file after directory = file disk directory := by
  funext document
  rw [file, wrote.resolve, file]

theorem yields_write (working : disk.HasWorkingDirectory) (document : PrintedDocument) :
    Yields (document.write directory) disk
      (fun written after => disk.Wrote after [document.file disk directory] ∧
        written = document.entry directory) fun error _ =>
      error.IsFairTo (document.path directory) :=
  (DiskAction.yields_writeFile working _ _).bind fun done => .pure ⟨done, rfl⟩

theorem yields_mapM_write (directory : Path) (working : disk.HasWorkingDirectory)
    (documents : List PrintedDocument)
    (apart : ((documents.map (file disk directory)).map Prod.fst).Nodup) :
    Yields (documents.mapM (write directory)) disk
      (fun written after => disk.Wrote after (documents.map (file disk directory)) ∧
        written = documents.map (entry directory)) fun error _ =>
      ∃ document ∈ documents, error.IsFairTo (document.path directory) := by
  induction documents generalizing disk with
  | nil => exact .pure ⟨.refl disk, rfl⟩
  | cons document rest ih =>
    obtain ⟨fresh, apart⟩ := List.nodup_cons.1 apart
    rw [List.mapM_cons]
    refine ((yields_write working document).mono id ?_).bind ?_
    · exact fun fair => ⟨document, List.mem_cons_self, fair⟩
    rintro head middle ⟨first, rfl⟩
    -- The rest is written to the disk that this document leaves, where paths lead as before.
    have later := ih (first.hasWorkingDirectory working)
    rw [file_of_wrote first] at later
    refine ((later apart).mono id ?_).bind ?_
    · rintro error _ ⟨other, member, fair⟩
      exact ⟨other, List.mem_cons_of_mem _ member, fair⟩
    rintro others after ⟨second, rfl⟩
    exact .pure ⟨first.trans second (List.forall_mem_singleton.2 fresh), rfl⟩

end PrintedDocument

/-- Artifacts without anything fatal are written, unless files fail. -/
theorem Artifacts.yields_write {disk : Disk} (directory : Path) {artifacts : Artifacts}
    (working : disk.HasWorkingDirectory) (ok : artifacts.ok = true)
    (apart : ((artifacts.documents.map (PrintedDocument.file disk directory)).map
      Prod.fst).Nodup) :
    Yields (artifacts.write directory) disk
      (fun written after =>
        disk.Wrote after (artifacts.documents.map (PrintedDocument.file disk directory)) ∧
          written = artifacts.documents.map (PrintedDocument.entry directory))
      fun error _ => ∃ cause, error = .file cause ∧ (cause.IsFairTo directory ∨
        ∃ document ∈ artifacts.documents, cause.IsFairTo (document.path directory)) := by
  rw [write, if_pos ok]
  have directories : Yields _ disk _ _ := DiskAction.yields_makeDirectories directory
  refine .adapt ((directories.mono id fun bad => ⟨_, rfl, .inl bad.2⟩).bind fun first => ?_)
  have later := PrintedDocument.yields_mapM_write directory (first.hasWorkingDirectory working)
    artifacts.documents
  rw [PrintedDocument.file_of_wrote first] at later
  refine (later apart).mono ?_ fun bad => ⟨_, rfl, .inr bad⟩
  rintro written after ⟨second, same⟩
  exact ⟨first.trans second (fun _ member => nomatch member), same⟩

theorem JsonTree.yields_write {disk : Disk} (report : JsonTree) (path : Path)
    (working : disk.HasWorkingDirectory) :
    Yields (report.write path) disk
      (fun _ after => disk.Wrote after [(disk.resolve path, report.indented.toUTF8)])
      fun error _ => error.IsFairTo path := by
  have directories : Yields _ disk _ _ := DiskAction.yields_makeDirectories path.parent
  refine (directories.mono id fun bad => bad.2.of_parent).bind fun {_ middle} first => ?_
  have same := first.resolve path
  refine (DiskAction.yields_writeFile (first.hasWorkingDirectory working) _ _).mono ?_ id
  intro _ after second
  rw [same] at second
  exact first.trans second fun _ member => nomatch member

end DocumentNormalizer
