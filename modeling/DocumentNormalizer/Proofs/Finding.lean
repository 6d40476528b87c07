import DocumentNormalizer.Files.Find
import DocumentNormalizer.Proofs.Completion
import DocumentNormalizer.Proofs.Patterns
import Mathlib.Data.List.Lex
import Mathlib.Data.List.Sort
import Mathlib.Data.String.Basic

namespace DocumentNormalizer

theorem Step.text_injective : Function.Injective Step.text := by
  intro first second same
  cases first with
  | up =>
    cases second with
    | up => rfl
    | down name => exact absurd same.symm name.valid.2.2.1
  | down name =>
    cases second with
    | up => exact absurd same name.valid.2.2.1
    | down other =>
      obtain ⟨text, valid⟩ := name
      obtain ⟨otherText, otherValid⟩ := other
      cases same
      rfl

theorem Step.slash_not_mem_text (step : Step) : '/' ∉ step.text.toList := by
  cases step with
  | up => decide
  | down name => exact name.valid.2.2.2

namespace Path

theorem parts_injective : Function.Injective Path.parts := by
  have apart (text : String) (slash : '/' ∈ text.toList) (first : List Step)
      (rest : List String) : first.map Step.text ≠ text :: rest := by
    intro same
    cases first with
    | nil => cases same
    | cons step steps =>
      obtain ⟨here, _⟩ := List.cons.inj same
      rw [← here] at slash
      exact step.slash_not_mem_text slash
  have inner (start : PathStart) {steps others : List Step}
      (same : steps.map Step.text = others.map Step.text) : Path.mk start steps = ⟨start, others⟩ :=
    congrArg (Path.mk start) (List.map_injective_iff.2 Step.text_injective same)
  have different : "/" ≠ "//" := by decide
  rintro ⟨start, steps⟩ ⟨otherStart, otherSteps⟩ same
  cases start with
  | here =>
    cases otherStart with
    | here => exact inner _ same
    | root => exact absurd same (apart "/" (by decide) _ _)
    | doubleRoot => exact absurd same (apart "//" (by decide) _ _)
  | root =>
    cases otherStart with
    | here => exact absurd same.symm (apart "/" (by decide) _ _)
    | root => exact inner _ (List.cons.inj same).2
    | doubleRoot => exact absurd (List.cons.inj same).1 different
  | doubleRoot =>
    cases otherStart with
    | here => exact absurd same.symm (apart "//" (by decide) _ _)
    | root => exact absurd (List.cons.inj same).1 different.symm
    | doubleRoot => exact inner _ (List.cons.inj same).2

theorem comesBefore_iff {first second : Path} :
    first.comesBefore second = true ↔ first.parts < second.parts :=
  List.lex_eq_true_iff_lt

/-- Paths are in order if each comes before all later ones. -/
def IsSorted (paths : List Path) : Prop :=
  paths.Pairwise fun first second => first.comesBefore second = true

theorem isSorted_mergeSort {paths : List Path} (distinct : paths.Nodup) :
    IsSorted (paths.mergeSort fun first second => !second.comesBefore first) := by
  have le_iff (first second : Path) :
      (!second.comesBefore first) = true ↔ first.parts ≤ second.parts := by
    rw [Bool.not_eq_true', ← Bool.not_eq_true, comesBefore_iff, not_lt]
  have transitive (first second third : Path) : (!second.comesBefore first) = true →
      (!third.comesBefore second) = true → (!third.comesBefore first) = true := by
    rw [le_iff, le_iff, le_iff]
    exact le_trans
  have total (first second : Path) :
      (!second.comesBefore first || !first.comesBefore second) = true := by
    rw [Bool.or_eq_true, le_iff, le_iff]
    exact le_total _ _
  have ordered := List.pairwise_mergeSort transitive total paths
  have still : (paths.mergeSort fun first second => !second.comesBefore first).Nodup :=
    (List.mergeSort_perm paths _).nodup_iff.2 distinct
  refine (ordered.and still).imp ?_
  intro first second both
  rw [comesBefore_iff]
  exact lt_of_le_of_ne ((le_iff _ _).1 both.1) fun same => both.2 (parts_injective same)

theorem IsSorted.eq_of_mem_iff {paths others : List Path} (sorted : IsSorted paths)
    (otherSorted : IsSorted others) (same : ∀ path, path ∈ paths ↔ path ∈ others) :
    paths = others := by
  have antisymm : Std.Antisymm fun first second : Path => first.comesBefore second = true :=
    ⟨fun _ _ one other => absurd (comesBefore_iff.1 one) (comesBefore_iff.1 other).asymm⟩
  have irrefl : Std.Irrefl fun first second : Path => first.comesBefore second = true :=
    ⟨fun _ one => lt_irrefl _ (comesBefore_iff.1 one)⟩
  exact List.Pairwise.eq_of_mem_iff sorted otherSorted same

end Path

namespace Disk

variable {disk : Disk} {pattern : String} {patterns : List String} {excluded files : List Path}
  {path : Path}

theorem mapM_fileAt_eq_ok {paths : List Path} {found : List (Option Path)}
    (looked : paths.mapM disk.fileAt = .ok found) :
    (∀ path ∈ paths, path.text.utf8ByteSize < FileFault.pathLimit) ∧
      found.filterMap id = paths.filter disk.isFile := by
  have each := mapM_eq_ok_iff.1 looked
  clear looked
  induction each with
  | nil => exact ⟨fun _ member => (nomatch member), rfl⟩
  | @cons path _ _ _ here _ ih =>
    obtain ⟨short, same⟩ := ih
    rw [fileAt] at here
    split at here
    · cases here
    · next fits =>
      refine ⟨List.forall_mem_cons.2 ⟨Nat.lt_of_not_le fits, short⟩, ?_⟩
      cases here
      cases file : disk.isFile path with
      | true => rw [List.filter_cons_of_pos file, ← same]; rfl
      | false => rw [List.filter_cons_of_neg (by simp [file]), ← same]; rfl

theorem filesOf_eq_ok (looked : disk.filesOf pattern = .ok files) :
    (Glob.ofText pattern).looksBehindNull = false ∧
      (∀ path ∈ disk.glob (.ofText pattern), path.text.utf8ByteSize < FileFault.pathLimit) ∧
      files = (disk.glob (.ofText pattern)).filter disk.isFile := by
  rw [filesOf] at looked
  split at looked
  · cases looked
  · next sound =>
    cases each : (disk.glob (Glob.ofText pattern)).mapM disk.fileAt with
    | error error => rw [each] at looked; cases looked
    | ok found =>
      obtain ⟨short, same⟩ := mapM_fileAt_eq_ok each
      rw [each] at looked
      exact ⟨Bool.eq_false_of_not_eq_true sound, short, (Except.ok.inj looked).symm.trans same⟩

theorem filesOf_eq_error {error : FileError} (looked : disk.filesOf pattern = .error error) :
    (Glob.ofText pattern).looksBehindNull = true ∨
      ∃ path ∈ disk.glob (.ofText pattern), FileFault.pathLimit ≤ path.text.utf8ByteSize ∧
        error = ⟨.tooLong, path⟩ := by
  rw [filesOf] at looked
  split at looked
  · next behind => exact .inl behind
  · cases each : (disk.glob (Glob.ofText pattern)).mapM disk.fileAt with
    | ok found => rw [each] at looked; cases looked
    | error fault =>
      rw [each] at looked
      cases looked
      obtain ⟨path, member, failed⟩ := exists_of_mapM_eq_error each
      rw [fileAt] at failed
      split at failed
      · next long => exact .inr ⟨path, member, long, (Except.error.inj failed).symm⟩
      · cases failed

theorem mem_filesOf (looked : disk.filesOf pattern = .ok files) :
    path ∈ files ↔ disk.isFile path = true ∧ (Glob.ofText pattern).Spells path := by
  obtain ⟨_, _, rfl⟩ := filesOf_eq_ok looked
  rw [List.mem_filter, and_comm]
  exact and_congr_right fun file => mem_glob_iff file

/-- Whether a path leads to a file that one of the patterns stands for and that is not excluded. -/
def Finds (disk : Disk) (patterns : List String) (excluded : List Path) (path : Path) : Prop :=
  disk.isFile path = true ∧ (∃ pattern ∈ patterns, (Glob.ofText pattern).Spells path) ∧
    disk.isWithin (excluded.map disk.resolve) path = false

theorem finds_of_mem_glob (file : disk.isFile path = true) (member : pattern ∈ patterns)
    (among : path ∈ disk.glob (.ofText pattern))
    (outside : disk.isWithin (excluded.map disk.resolve) path = false) :
    disk.Finds patterns excluded path :=
  ⟨file, ⟨pattern, member, (mem_glob_iff file).1 among⟩, outside⟩

theorem findFiles_eq_ok_iff : disk.findFiles patterns excluded = .ok files ↔
    excluded.find? (·.text.toList.contains '\x00') = none ∧
      ∃ groups, List.Forall₂ (fun pattern found => disk.filesOf pattern = .ok found)
        patterns groups ∧
        ((groups.flatten.filter (!disk.isWithin (excluded.map disk.resolve) ·)).eraseDups.mergeSort
          fun first second => !second.comesBefore first) = files := by
  rw [findFiles]
  cases excluded.find? (·.text.toList.contains '\x00') with
  | some path => simp
  | none =>
    dsimp only
    simp only [true_and, ← mapM_eq_ok_iff]
    cases patterns.mapM disk.filesOf with
    | error error => simp [Bind.bind, Except.bind]
    | ok groups => simp [Bind.bind, Except.bind, pure, Except.pure]

theorem mem_findFiles (found : disk.findFiles patterns excluded = .ok files) :
    path ∈ files ↔ disk.Finds patterns excluded path := by
  obtain ⟨_, groups, each, rfl⟩ := findFiles_eq_ok_iff.1 found
  have among : path ∈ groups.flatten ↔
      disk.isFile path = true ∧ ∃ pattern ∈ patterns, (Glob.ofText pattern).Spells path := by
    clear found
    induction each with
    | nil => simp
    | cons first _ ih =>
      rw [List.flatten_cons, List.mem_append, ih, mem_filesOf first, List.exists_mem_cons_iff]
      rw [← and_or_left]
  rw [List.mem_mergeSort, List.mem_eraseDups, List.mem_filter, among, Bool.not_eq_true', and_assoc]
  rfl

theorem isSorted_findFiles (found : disk.findFiles patterns excluded = .ok files) :
    Path.IsSorted files := by
  obtain ⟨_, groups, _, rfl⟩ := findFiles_eq_ok_iff.1 found
  exact Path.isSorted_mergeSort (nodup_eraseDups _)

theorem findFiles_of_findFiles (found : disk.findFiles patterns excluded = .ok files)
    (other : Disk) : (∃ others, other.findFiles patterns excluded = .ok others) ∨
      ∃ path, other.findFiles patterns excluded = .error ⟨.tooLong, path⟩ ∧
        FileFault.pathLimit ≤ path.text.utf8ByteSize ∧
        ∃ pattern ∈ patterns, path ∈ other.glob (.ofText pattern) ∧
          path ∉ disk.glob (.ofText pattern) := by
  obtain ⟨fine, groups, each, _⟩ := findFiles_eq_ok_iff.1 found
  cases looked : other.findFiles patterns excluded with
  | ok others => exact .inl ⟨others, rfl⟩
  | error error =>
    right
    rw [findFiles, fine] at looked
    dsimp only at looked
    cases failed : patterns.mapM other.filesOf with
    | ok groups => rw [failed] at looked; cases looked
    | error fault =>
      rw [failed] at looked
      cases looked
      obtain ⟨pattern, member, failed⟩ := exists_of_mapM_eq_error failed
      obtain ⟨index, inRange, rfl⟩ := List.getElem_of_mem member
      obtain ⟨sound, short, _⟩ := filesOf_eq_ok (each.get inRange (each.length_eq ▸ inRange))
      rcases filesOf_eq_error failed with behind | ⟨path, long, tooLong, rfl⟩
      · exact absurd (sound.symm.trans behind) Bool.false_ne_true
      · have fresh : path ∉ disk.glob (.ofText patterns[index]) := fun among =>
          Nat.not_le_of_lt (short path among) tooLong
        exact ⟨path, rfl, tooLong, _, member, long, fresh⟩

end Disk

end DocumentNormalizer
