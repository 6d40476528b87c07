import DocumentNormalizer.Proofs.Anchoring
import DocumentNormalizer.Proofs.Spellings

namespace DocumentNormalizer

namespace GlobPart

variable {text : String}

theorem ofText_of_not_isWild (literal : NamePattern.isWild text = false) :
    ofText text = .fixed (Step.ofText? text) := by
  have single : text ≠ "**" := by
    intro same
    rw [same] at literal
    exact absurd literal (by decide)
  rw [ofText, if_neg single, literal, if_neg Bool.false_ne_true]

theorem ofText_of_idle (whole : '/' ∉ text.toList) (idle : Step.ofText? text = none) :
    ofText text = .fixed none := by
  rcases (Step.ofText?_eq_none_iff whole).1 idle with rfl | rfl <;> rfl

theorem ofText_ne_idle {step : Step} (leads : Step.ofText? text = some step) :
    ofText text ≠ .fixed none := by
  rw [ofText]
  split
  · intro same
    cases same
  · split
    · intro same
      cases same
    · rw [leads]
      intro same
      cases same

end GlobPart

/-- A path that is no pattern for others: there is no star, question mark or bracket in it. -/
def Path.IsLiteral (path : Path) : Prop := ∀ step ∈ path.steps, NamePattern.isWild step.text = false

namespace Glob

def front (texts : List String) : List String :=
  texts.takeWhile fun text => (GlobPart.ofText text).isFixed

/-- Whether some part of a pattern holds a null character in front of the first that is not fixed. -/
def NullInFront (texts : List String) : Prop := ∃ text ∈ front texts, '\x00' ∈ text.toList

variable {text : String} {texts others : List String}

theorem ofSpelling?_fixed (short : text.utf8ByteSize < FileFault.pathLimit) :
    FileFault.ofSpelling? (ofText text).fixed = none ↔ ¬NullInFront (Text.splitAt '/' text) := by
  have fits : (ofText text).fixed.utf8ByteSize < FileFault.pathLimit := by
    apply Nat.lt_of_le_of_lt _ short
    have whole := Text.utf8ByteSize_intercalate_le
      (List.takeWhile_sublist (l := Text.splitAt '/' text) fun part =>
        (GlobPart.ofText part).isFixed)
    rw [Text.intercalate_splitAt] at whole
    exact whole
  have other : '\x00' ≠ '/' := by decide
  rw [FileFault.ofSpelling?_eq_none_iff, and_iff_left fits, ofText,
    Text.mem_intercalate_iff other]
  rfl

theorem nullInFront_cons_of_isFixed (fixed : (GlobPart.ofText text).isFixed = true) :
    NullInFront (text :: texts) ↔ '\x00' ∈ text.toList ∨ NullInFront texts := by
  simp only [NullInFront, front, List.takeWhile_cons, fixed, ite_true, List.mem_cons, exists_eq_or_imp]

theorem not_nullInFront_cons (many : (GlobPart.ofText text).isFixed = false) :
    ¬NullInFront (text :: texts) := by
  simp [NullInFront, front, many]

/-- Whether a pattern with these parts looks into a directory whose path holds a null character. -/
def LooksBehindNull (texts : List String) : Prop :=
  NullInFront texts ∧ ∃ text ∈ texts, (GlobPart.ofText text).isFixed = false

theorem looksBehindNull_iff :
    (ofText text).looksBehindNull = true ↔ LooksBehindNull (Text.splitAt '/' text) := by
  have other : '\x00' ≠ '/' := by decide
  rw [looksBehindNull, Bool.and_eq_true, List.contains_iff_mem, List.any_eq_true, ofText,
    Text.mem_intercalate_iff other, LooksBehindNull]
  apply and_congr Iff.rfl
  simp only [List.mem_map, exists_exists_and_eq_and, Bool.not_eq_true']

/-- A fixed part without a null character. -/
def IsPlain (text : String) : Prop := (GlobPart.ofText text).isFixed = true ∧ '\x00' ∉ text.toList

theorem isPlain_of_idle (idle : text = "" ∨ text = ".") : IsPlain text := by
  rcases idle with rfl | rfl
  · exact ⟨rfl, by decide⟩
  · exact ⟨rfl, by decide⟩

theorem nullInFront_append (plain : ∀ text ∈ others, IsPlain text) :
    NullInFront (others ++ texts) ↔ NullInFront texts := by
  induction others with
  | nil => exact Iff.rfl
  | cons text rest ih =>
    obtain ⟨first, later⟩ := List.forall_mem_cons.1 plain
    rw [List.cons_append, nullInFront_cons_of_isFixed first.1, ih later, or_iff_right first.2]

theorem looksBehindNull_append (plain : ∀ text ∈ others, IsPlain text) :
    LooksBehindNull (others ++ texts) ↔ LooksBehindNull texts := by
  rw [LooksBehindNull, LooksBehindNull, nullInFront_append plain]
  apply and_congr Iff.rfl
  constructor
  · intro found
    obtain ⟨text, member, many⟩ := found
    rcases List.mem_append.1 member with first | second
    · cases (plain text first).1.symm.trans many
    · exact ⟨text, second, many⟩
  · intro found
    obtain ⟨text, member, many⟩ := found
    exact ⟨text, List.mem_append_right _ member, many⟩

/-- The parts that lead somewhere. -/
def moving (texts : List String) : List String := texts.filter fun text => (Step.ofText? text).isSome

theorem moving_cons_of_idle (idle : Step.ofText? text = none) :
    moving (text :: texts) = moving texts :=
  List.filter_cons_of_neg (by simp [idle])

theorem moving_cons_of_leads {step : Step} (leads : Step.ofText? text = some step) :
    moving (text :: texts) = text :: moving texts :=
  List.filter_cons_of_pos (by simp [leads])

theorem map_steps_ofText (text : String) :
    (Path.ofText text).steps.map Step.text = moving (Text.splitAt '/' text) := by
  rw [Path.ofText]
  induction Text.splitAt '/' text with
  | nil => rfl
  | cons part rest ih =>
    cases leads : Step.ofText? part with
    | none => rw [moving_cons_of_idle leads, List.filterMap_cons_none leads, ih]
    | some step =>
      rw [moving_cons_of_leads leads, List.filterMap_cons_some leads, List.map_cons, ih,
        Step.text_of_ofText? leads]

theorem leads_of_mem_moving (member : text ∈ moving texts) :
    ∃ step, Step.ofText? text = some step :=
  Option.isSome_iff_exists.1 (List.mem_filter.1 member).2

/-- Whether the last part of a pattern leads somewhere. -/
def EndsInStep (texts : List String) : Prop :=
  ∃ text ∈ texts.getLast?, ∃ step, Step.ofText? text = some step

theorem EndsInStep.of_cons (ends : EndsInStep (text :: texts)) (more : texts ≠ []) :
    EndsInStep texts := by
  obtain ⟨last, same, leads⟩ := ends
  rw [List.getLast?_cons_of_ne_nil more] at same
  exact ⟨last, same, leads⟩

theorem EndsInStep.moving_ne_nil (ends : EndsInStep texts) : moving texts ≠ [] := by
  obtain ⟨last, same, step, leads⟩ := ends
  apply List.ne_nil_of_mem
  exact List.mem_filter.2 ⟨List.mem_of_getLast? same, by rw [leads]; rfl⟩

theorem nullInFront_moving (whole : ∀ text ∈ texts, '/' ∉ text.toList) :
    NullInFront (moving texts) ↔ NullInFront texts := by
  induction texts with
  | nil => exact Iff.rfl
  | cons text rest ih =>
    obtain ⟨first, later⟩ := List.forall_mem_cons.1 whole
    cases leads : Step.ofText? text with
    | none =>
      have plain := isPlain_of_idle ((Step.ofText?_eq_none_iff first).1 leads)
      rw [moving_cons_of_idle leads, ih later, nullInFront_cons_of_isFixed plain.1,
        or_iff_right plain.2]
    | some step =>
      rw [moving_cons_of_leads leads]
      cases kind : (GlobPart.ofText text).isFixed with
      | false => exact iff_of_false (not_nullInFront_cons kind) (not_nullInFront_cons kind)
      | true =>
        rw [nullInFront_cons_of_isFixed kind, nullInFront_cons_of_isFixed kind, ih later]

theorem looksBehindNull_moving (whole : ∀ text ∈ texts, '/' ∉ text.toList) :
    LooksBehindNull (moving texts) ↔ LooksBehindNull texts := by
  rw [LooksBehindNull, LooksBehindNull, nullInFront_moving whole]
  apply and_congr Iff.rfl
  constructor
  · intro found
    obtain ⟨text, member, many⟩ := found
    exact ⟨text, (List.mem_filter.1 member).1, many⟩
  · intro found
    obtain ⟨text, member, many⟩ := found
    refine ⟨text, List.mem_filter.2 ⟨member, ?_⟩, many⟩
    cases leads : Step.ofText? text with
    | some step => rfl
    | none =>
      have plain := isPlain_of_idle ((Step.ofText?_eq_none_iff (whole text member)).1 leads)
      cases plain.1.symm.trans many

end Glob

namespace Disk

variable {disk : Disk} {path next last : Path} {paths : List Path} {part : GlobPart}
  {parts rest : List GlobPart} {only : Bool}

def reached (disk : Disk) (only : Bool) (part : GlobPart) (path : Path) : List Path :=
  match part with
  | .fixed step => if disk.leadsOn path step then [path.append step.toList] else []
  | .name hidden pieces => disk.named only hidden pieces path
  | .anyDepth => disk.beneath only path

theorem expand_cons : disk.expand paths (part :: rest) =
    disk.expand (paths.flatMap (disk.reached (!rest.isEmpty) part)) rest := by
  cases part with
  | fixed step =>
    rw [expand]
    congr 1
    induction paths with
    | nil => rfl
    | cons path others ih =>
      rw [List.flatMap_cons, ← ih, reached]
      cases leads : disk.leadsOn path step <;> simp [leads]
  | name hidden pieces => rfl
  | anyDepth => rfl

theorem mem_expand : last ∈ disk.expand paths parts ↔
    ∃ path ∈ paths, last ∈ disk.expand [path] parts := by
  induction parts generalizing paths with
  | nil => simp [expand]
  | cons part rest ih =>
    simp only [expand_cons]
    rw [ih]
    constructor
    · intro found
      obtain ⟨next, among, onward⟩ := found
      obtain ⟨path, member, reached⟩ := List.mem_flatMap.1 among
      use path, member
      rw [ih]
      exact ⟨next, List.mem_flatMap.2 ⟨path, List.mem_singleton.2 rfl, reached⟩, onward⟩
    · intro found
      obtain ⟨path, member, onward⟩ := found
      rw [ih] at onward
      obtain ⟨next, among, onward⟩ := onward
      obtain ⟨_, single, reached⟩ := List.mem_flatMap.1 among
      cases List.mem_singleton.1 single
      exact ⟨next, List.mem_flatMap.2 ⟨path, member, reached⟩, onward⟩

theorem mem_expand_cons : last ∈ disk.expand [path] (part :: rest) ↔
    ∃ next ∈ disk.reached (!rest.isEmpty) part path, last ∈ disk.expand [next] rest := by
  rw [expand_cons, mem_expand, List.flatMap_singleton]

theorem exists_append_of_mem_reached (member : next ∈ disk.reached only part path) :
    ∃ steps, next = path.append steps := by
  cases part with
  | fixed step =>
    rw [reached] at member
    split at member
    · exact ⟨_, List.mem_singleton.1 member⟩
    · cases member
  | name hidden pieces =>
    obtain ⟨entry, _, same⟩ := List.mem_map.1 member
    exact ⟨_, same.symm⟩
  | anyDepth =>
    rw [reached, beneath] at member
    split at member
    · rcases List.mem_cons.1 member with same | below
      · exact ⟨[], by rw [same, Path.append_nil]⟩
      · obtain ⟨names, _, same⟩ := List.mem_map.1 below
        exact ⟨_, same.symm⟩
    · cases member

theorem exists_append_of_mem_expand (member : last ∈ disk.expand [path] parts) :
    ∃ steps, last = path.append steps := by
  induction parts generalizing path with
  | nil => exact ⟨[], by rw [List.mem_singleton.1 member, Path.append_nil]⟩
  | cons part rest ih =>
    obtain ⟨next, reached, onward⟩ := mem_expand_cons.1 member
    obtain ⟨first, rfl⟩ := exists_append_of_mem_reached reached
    obtain ⟨second, rfl⟩ := ih onward
    exact ⟨first ++ second, Path.append_append path first second⟩

theorem isDirectory_iff : disk.isDirectory path = true ↔
    ∃ entries, disk.node path = .ok (.directory entries) := by
  rw [isDirectory]
  cases disk.node path with
  | error fault => simp
  | ok tree => cases tree <;> simp

theorem isDirectory_of_append {step : Step} {steps : List Step} {tree : FileTree}
    (found : disk.node (path.append (step :: steps)) = .ok tree) : disk.isDirectory path = true :=
  isDirectory_iff.2 (node_above found)

theorem isDirectory_above {steps : List Step} (directory : disk.isDirectory (path.append steps) = true) :
    disk.isDirectory path = true := by
  cases steps with
  | nil => exact Path.append_nil path ▸ directory
  | cons step rest =>
    obtain ⟨entries, found⟩ := isDirectory_iff.1 directory
    exact isDirectory_of_append found

theorem leadsOn_of_isDirectory (directory : disk.isDirectory path = true) :
    disk.leadsOn path none = true := by
  obtain ⟨entries, found⟩ := isDirectory_iff.1 directory
  rw [leadsOn_none found]
  rfl

theorem node_of_leadsOn {step : Step} (leads : disk.leadsOn path (some step) = true) :
    ∃ tree, disk.node (path.append [step]) = .ok tree := by
  have fine : FileFault.ofSpelling? (path.append [step]).text = none := by
    rw [leadsOn, Bool.and_eq_true] at leads
    exact Option.isNone_iff_eq_none.1 leads.1
  rw [leadsOn_some fine] at leads
  cases found : disk.node (path.append [step]) with
  | error fault => rw [found] at leads; cases leads
  | ok tree => exact ⟨tree, rfl⟩

/-- Only a part that leads nowhere is found behind something that is no directory. -/
theorem isDirectory_of_mem_reached (member : next ∈ disk.reached only part path)
    (moves : part ≠ .fixed none) : disk.isDirectory path = true := by
  cases part with
  | fixed step =>
    cases step with
    | none => exact absurd rfl moves
    | some step =>
      rw [reached] at member
      split at member
      · next leads =>
        obtain ⟨tree, found⟩ := node_of_leadsOn leads
        exact isDirectory_of_append found
      · cases member
  | name hidden pieces =>
    obtain ⟨entry, accepted, _⟩ := List.mem_map.1 member
    have among := (List.mem_filter.1 accepted).1
    rw [entries] at among
    split at among
    · next tree found =>
      cases tree with
      | file content => cases among
      | directory entries => exact isDirectory_iff.2 ⟨entries, found⟩
    · cases among
  | anyDepth =>
    rw [reached, beneath] at member
    split at member
    · next entries found => exact isDirectory_iff.2 ⟨entries, found⟩
    · cases member

theorem expand_idle {idle : List GlobPart} (directory : disk.isDirectory path = true)
    (nowhere : ∀ part ∈ idle, part = .fixed none) :
    disk.expand [path] (idle ++ rest) = disk.expand [path] rest := by
  induction idle with
  | nil => rfl
  | cons part others ih =>
    obtain ⟨first, later⟩ := List.forall_mem_cons.1 nowhere
    rw [first, List.cons_append, expand_cons, List.flatMap_singleton, reached,
      leadsOn_of_isDirectory directory, if_pos rfl, Option.toList_none, Path.append_nil, ih later]

theorem expand_steps {steps : List Step} {tree : FileTree}
    (found : disk.node (path.append steps) = .ok tree)
    (literal : ∀ step ∈ steps, NamePattern.isWild step.text = false) :
    disk.expand [path] ((steps.map Step.text).map GlobPart.ofText ++ rest) =
      disk.expand [path.append steps] rest := by
  induction steps generalizing path with
  | nil =>
    rw [Path.append_nil]
    rfl
  | cons step others ih =>
    obtain ⟨first, later⟩ := List.forall_mem_cons.1 literal
    have same : (path.append [step]).append others = path.append (step :: others) :=
      Path.append_append path [step] others
    rw [← same] at found ⊢
    have leads : disk.leadsOn path (some step) = true := by
      obtain ⟨place, located, _⟩ := node_eq_ok_iff.1 found
      have fine := Path.ofSpelling?_of_append (ofSpelling?_of_locate located)
      obtain ⟨inner, there⟩ := exists_node_above found
      rw [leadsOn_some fine, there]
      rfl
    rw [List.map_cons, List.map_cons, List.cons_append, expand_cons, List.flatMap_singleton,
      GlobPart.ofText_of_not_isWild first, Step.ofText?_text, reached, if_pos leads]
    exact ih found later

theorem isPlain_of_mem_steps {base : Path} (directory : disk.isDirectory base = true)
    (literal : base.IsLiteral) {text : String} (member : text ∈ base.steps.map Step.text) :
    Glob.IsPlain text := by
  obtain ⟨entries, found⟩ := isDirectory_iff.1 directory
  obtain ⟨place, located, _⟩ := node_eq_ok_iff.1 found
  have fine := (FileFault.ofSpelling?_eq_none_iff.1 (ofSpelling?_of_locate located)).1
  obtain ⟨step, among, rfl⟩ := List.mem_map.1 member
  constructor
  · rw [GlobPart.ofText_of_not_isWild (literal step among)]
    rfl
  · intro null
    exact fine (Path.null_mem_text_iff.2 ⟨step, among, null⟩)

theorem exists_splitAt_append {base : Path} (directory : disk.isDirectory base = true)
    (literal : base.IsLiteral) (steps : List Step) : ∃ plain,
      (∀ text ∈ plain, Glob.IsPlain text) ∧
      Text.splitAt '/' (base.append steps).text = plain ++ steps.map Step.text ∧
      disk.expand [⟨base.start, []⟩] ((plain ++ steps.map Step.text).map GlobPart.ofText) =
        disk.expand [base] ((steps.map Step.text).map GlobPart.ofText) := by
  obtain ⟨idle, nowhere, split⟩ := (base.append steps).exists_splitAt_text
  obtain ⟨entries, found⟩ := isDirectory_iff.1 directory
  have whole : (Path.mk base.start []).append base.steps = base := rfl
  refine ⟨idle ++ base.steps.map Step.text, ?_, ?_, ?_⟩
  · intro text member
    rcases List.mem_append.1 member with first | second
    · exact Glob.isPlain_of_idle (nowhere text first)
    · exact isPlain_of_mem_steps directory literal second
  · rw [split, List.append_assoc, ← List.map_append]
    rfl
  · have top : disk.isDirectory ⟨base.start, []⟩ = true := by
      rw [← whole] at directory
      exact isDirectory_above directory
    have still : ∀ part ∈ idle.map GlobPart.ofText, part = .fixed none := by
      intro part member
      obtain ⟨text, among, rfl⟩ := List.mem_map.1 member
      rcases nowhere text among with rfl | rfl <;> rfl
    rw [← whole] at found
    rw [List.map_append, List.map_append, List.append_assoc, expand_idle top still,
      expand_steps found literal, whole]

theorem mem_glob_ofText {text : String} (short : text.utf8ByteSize < FileFault.pathLimit) :
    last ∈ disk.glob (.ofText text) ↔ ¬Glob.NullInFront (Text.splitAt '/' text) ∧
      last ∈ disk.expand [⟨.ofText text, []⟩] ((Text.splitAt '/' text).map GlobPart.ofText) := by
  rw [glob, ← Glob.ofSpelling?_fixed short]
  cases FileFault.ofSpelling? (Glob.ofText text).fixed with
  | none => simp [Glob.ofText]
  | some fault => simp

theorem mem_glob_append {base : Path} {steps : List Step} (directory : disk.isDirectory base = true)
    (literal : base.IsLiteral)
    (short : (base.append steps).text.utf8ByteSize < FileFault.pathLimit) :
    last ∈ disk.glob (.ofText (base.append steps).text) ↔
      ¬Glob.NullInFront (steps.map Step.text) ∧
        last ∈ disk.expand [base] ((steps.map Step.text).map GlobPart.ofText) := by
  obtain ⟨plain, fixed, split, same⟩ := exists_splitAt_append directory literal steps
  have start : PathStart.ofText (base.append steps).text = base.start :=
    congrArg Path.start (Path.ofText_text _)
  rw [mem_glob_ofText short, split, Glob.nullInFront_append fixed, start, same]

theorem looksBehindNull_append_iff {base : Path} {steps : List Step}
    (directory : disk.isDirectory base = true) (literal : base.IsLiteral) :
    (Glob.ofText (base.append steps).text).looksBehindNull = true ↔
      Glob.LooksBehindNull (steps.map Step.text) := by
  obtain ⟨plain, fixed, split, _⟩ := exists_splitAt_append directory literal steps
  rw [Glob.looksBehindNull_iff, split, Glob.looksBehindNull_append fixed]

theorem mem_expand_moving {texts : List String} (whole : ∀ text ∈ texts, '/' ∉ text.toList)
    (ends : Glob.EndsInStep texts) : last ∈ disk.expand [path] ((Glob.moving texts).map GlobPart.ofText) ↔
      last ∈ disk.expand [path] (texts.map GlobPart.ofText) := by
  induction texts generalizing path with
  | nil => exact Iff.rfl
  | cons text rest ih =>
    by_cases last : rest = []
    · subst last
      obtain ⟨final, same, step, leads⟩ := ends
      have alone : text = final := Option.some.inj same
      rw [← alone] at leads
      rw [Glob.moving_cons_of_leads leads]
      rfl
    · obtain ⟨first, later⟩ := List.forall_mem_cons.1 whole
      have onward : Glob.EndsInStep rest := ends.of_cons last
      have further : Glob.moving rest ≠ [] := onward.moving_ne_nil
      cases leads : Step.ofText? text with
      | none =>
        rw [Glob.moving_cons_of_idle leads, ih later onward, List.map_cons,
          GlobPart.ofText_of_idle first leads]
        constructor
        · intro found
          have directory : disk.isDirectory path = true := by
            obtain ⟨next, others, split⟩ := List.exists_cons_of_ne_nil further
            obtain ⟨step, moves⟩ := Glob.leads_of_mem_moving (split ▸ List.mem_cons_self)
            rw [← ih later onward, split, List.map_cons] at found
            obtain ⟨_, reached, _⟩ := mem_expand_cons.1 found
            exact isDirectory_of_mem_reached reached (GlobPart.ofText_ne_idle moves)
          rw [← expand_idle directory (List.forall_mem_singleton.2 rfl)] at found
          exact found
        · intro found
          obtain ⟨_, reached, onward⟩ := mem_expand_cons.1 found
          rw [Disk.reached] at reached
          split at reached
          · rw [List.mem_singleton.1 reached, Option.toList_none, Path.append_nil] at onward
            exact onward
          · cases reached
      | some step =>
        have some_rest : (!(rest.map GlobPart.ofText).isEmpty) = true := by simpa using last
        have some_moving : (!((Glob.moving rest).map GlobPart.ofText).isEmpty) = true := by
          simpa using further
        rw [Glob.moving_cons_of_leads leads, List.map_cons, List.map_cons, mem_expand_cons,
          mem_expand_cons, some_rest, some_moving]
        simp only [ih later onward]

section Relative

variable {text : String} (here : disk.isDirectory ⟨.here, []⟩ = true)
  (relative : (Path.ofText text).isAbsolute = false)

theorem isLiteral_here : (Path.mk .here []).IsLiteral := fun _ none => nomatch none

theorem eq_append_of_relative (relative : (Path.ofText text).isAbsolute = false) :
    Path.ofText text = (Path.mk .here []).append (Path.ofText text).steps :=
  Path.eq_here_of_relative relative

include here relative

/-- A pattern finds what it finds without the parts that lead nowhere, unless it ends in one. -/
theorem mem_glob_moving (short : text.utf8ByteSize < FileFault.pathLimit)
    (ends : Glob.EndsInStep (Text.splitAt '/' text)) :
    last ∈ disk.glob (.ofText (Path.ofText text).text) ↔ last ∈ disk.glob (.ofText text) := by
  have written := Glob.map_steps_ofText text
  have moves : (Path.ofText text).steps ≠ [] := by
    intro none
    rw [none] at written
    exact ends.moving_ne_nil written.symm
  have start : PathStart.ofText text = .here :=
    congrArg Path.start (eq_append_of_relative relative)
  have fits : (Path.ofText text).text.utf8ByteSize < FileFault.pathLimit := by
    apply Nat.lt_of_le_of_lt _ short
    have fewer := Text.utf8ByteSize_intercalate_le (List.filter_sublist :
      (Glob.moving (Text.splitAt '/' text)).Sublist (Text.splitAt '/' text))
    rw [Text.intercalate_splitAt] at fewer
    rw [Path.text_eq moves, written]
    rw [eq_append_of_relative relative]
    exact fewer
  have tidy := eq_append_of_relative relative
  rw [tidy] at fits ⊢
  rw [mem_glob_append here isLiteral_here fits, mem_glob_ofText short, start, written,
    Glob.nullInFront_moving fun _ => Text.not_mem_of_mem_splitAt,
    mem_expand_moving (fun _ => Text.not_mem_of_mem_splitAt) ends]

theorem looksBehindNull_moving_iff :
    (Glob.ofText (Path.ofText text).text).looksBehindNull = true ↔
      (Glob.ofText text).looksBehindNull = true := by
  rw [eq_append_of_relative relative, looksBehindNull_append_iff here isLiteral_here,
    Glob.map_steps_ofText, Glob.looksBehindNull_moving (fun _ => Text.not_mem_of_mem_splitAt),
    Glob.looksBehindNull_iff]

end Relative

end Disk

end DocumentNormalizer
