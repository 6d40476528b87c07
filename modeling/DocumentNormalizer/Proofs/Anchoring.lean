import DocumentNormalizer.Project.Config
import DocumentNormalizer.Proofs.Finding

namespace DocumentNormalizer

namespace Text

theorem parts_eq_splitOn (separator : Char) (text : List Char) :
    parts separator text = text.splitOn separator := by
  induction text with
  | nil => rfl
  | cons c rest ih =>
    rw [parts, ih, List.splitOn_cons_eq_if_modifyHead]
    by_cases same : c = separator
    · rw [if_pos same, if_pos (beq_iff_eq.2 same)]
    · rw [if_neg same, if_neg (mt beq_iff_eq.1 same)]
      cases others : rest.splitOn separator with
      | nil => exact absurd others (List.splitOn_ne_nil _ _)
      | cons part more => rfl

theorem splitAt_intercalate {texts : List String} (nonempty : texts ≠ [])
    (whole : ∀ text ∈ texts, '/' ∉ text.toList) :
    splitAt '/' ("/".intercalate texts) = texts := by
  have split : List.splitOn '/' (['/'].intercalate (texts.map String.toList)) =
      texts.map String.toList := by
    apply List.splitOn_intercalate
    · exact List.forall_mem_map.2 whole
    · exact mt List.map_eq_nil_iff.1 nonempty
  rw [splitAt, parts_eq_splitOn, String.toList_intercalate]
  show (List.splitOn '/' (['/'].intercalate (texts.map String.toList))).map String.ofList = texts
  rw [split, List.map_map]
  exact List.map_id'' (fun _ => String.ofList_toList) texts

theorem intercalate_parts (separator : Char) (text : List Char) :
    [separator].intercalate (parts separator text) = text := by
  rw [parts_eq_splitOn]
  exact List.intercalate_splitOn separator

theorem intercalate_splitAt (text : String) : "/".intercalate (splitAt '/' text) = text := by
  apply String.toList_injective
  rw [String.toList_intercalate, splitAt, List.map_map]
  have each : String.toList ∘ String.ofList = id := funext fun _ => String.toList_ofList
  rw [each, List.map_id]
  exact intercalate_parts '/' text.toList

theorem mem_intercalate_iff {c : Char} (other : c ≠ '/') {texts : List String} :
    c ∈ ("/".intercalate texts).toList ↔ ∃ text ∈ texts, c ∈ text.toList := by
  induction texts with
  | nil => simp
  | cons text rest ih =>
    by_cases last : rest = []
    · subst last
      simp
    · have slash : c ∉ "/".toList := mt List.mem_singleton.1 other
      rw [String.intercalate_cons_of_ne_nil last]
      simp only [String.toList_append, List.mem_append, slash, or_false, List.mem_cons,
        exists_eq_or_imp]
      exact or_congr Iff.rfl ih

theorem utf8ByteSize_intercalate_le {texts others : List String} (fewer : others.Sublist texts) :
    ("/".intercalate others).utf8ByteSize ≤ ("/".intercalate texts).utf8ByteSize := by
  induction fewer with
  | slnil => exact Nat.le_refl _
  | @cons others texts text fewer ih =>
    by_cases last : texts = []
    · subst last
      rw [List.sublist_nil.1 fewer]
      exact Nat.zero_le _
    · rw [String.intercalate_cons_of_ne_nil last, String.utf8ByteSize_append]
      exact Nat.le_trans ih (Nat.le_add_left _ _)
  | @cons_cons others texts text fewer ih =>
    by_cases last : texts = []
    · subst last
      rw [List.sublist_nil.1 fewer]
    · rw [String.intercalate_cons_of_ne_nil last, String.utf8ByteSize_append]
      by_cases alone : others = []
      · subst alone
        rw [String.intercalate_singleton, String.utf8ByteSize_append, Nat.add_assoc]
        exact Nat.le_add_right _ _
      · rw [String.intercalate_cons_of_ne_nil alone, String.utf8ByteSize_append]
        exact Nat.add_le_add_left ih _

theorem of_mem_parts {separator : Char} {text part : List Char}
    (member : part ∈ parts separator text) : separator ∉ part ∧ part ⊆ text := by
  induction text generalizing part with
  | nil =>
    cases List.mem_singleton.1 member
    exact ⟨List.not_mem_nil, List.Subset.refl _⟩
  | cons c rest ih =>
    have onward {part : List Char} (member : part ∈ parts separator rest) :
        separator ∉ part ∧ part ⊆ c :: rest :=
      ⟨(ih member).1, List.subset_cons_of_subset c (ih member).2⟩
    rw [parts] at member
    split at member
    · rcases List.mem_cons.1 member with rfl | later
      · exact ⟨List.not_mem_nil, List.nil_subset _⟩
      · exact onward later
    · next different =>
      have apart : separator ≠ c := Ne.symm different
      split at member
      · cases List.mem_singleton.1 member
        exact ⟨mt List.mem_singleton.1 apart, List.cons_subset_cons c (List.nil_subset _)⟩
      · next first others same =>
        rw [same] at ih onward
        rcases List.mem_cons.1 member with rfl | later
        · obtain ⟨absent, inside⟩ := ih List.mem_cons_self
          exact ⟨List.not_mem_cons_of_ne_of_not_mem apart absent, List.cons_subset_cons c inside⟩
        · exact onward (List.mem_cons_of_mem _ later)

theorem not_mem_of_mem_splitAt {separator : Char} {text part : String}
    (member : part ∈ splitAt separator text) : separator ∉ part.toList := by
  obtain ⟨chars, among, rfl⟩ := List.mem_map.1 member
  rw [String.toList_ofList]
  exact (of_mem_parts among).1

end Text

namespace Step

theorem ofText?_text (step : Step) : ofText? step.text = some step := by
  cases step with
  | up => rfl
  | down name =>
    obtain ⟨text, valid⟩ := name
    show ofText? text = _
    rw [ofText?, if_neg valid.2.2.1, FileName.ofText?, dif_pos valid]
    rfl

theorem text_of_ofText? {text : String} {step : Step} (leads : ofText? text = some step) :
    step.text = text := by
  rw [ofText?] at leads
  split at leads
  · next up =>
    cases leads
    exact up.symm
  · obtain ⟨name, named, rfl⟩ := Option.map_eq_some_iff.1 leads
    rw [FileName.ofText?] at named
    split at named
    · cases named
      rfl
    · cases named

theorem ofText?_eq_none_iff {text : String} (whole : '/' ∉ text.toList) :
    ofText? text = none ↔ text = "" ∨ text = "." := by
  constructor
  · intro nowhere
    rw [ofText?] at nowhere
    split at nowhere
    · cases nowhere
    · next notUp =>
      rw [Option.map_eq_none_iff, FileName.ofText?] at nowhere
      split at nowhere
      · cases nowhere
      · next invalid =>
        by_contra neither
        rw [not_or] at neither
        exact invalid ⟨neither.1, neither.2, notUp, whole⟩
  · intro either
    rcases either with rfl | rfl <;> rfl

theorem text_ne_empty (step : Step) : step.text ≠ "" := by
  cases step with
  | up => decide
  | down name => exact name.valid.1

end Step

namespace PathStart

/-- The parts in front of the steps of a path. Nothing is in them. -/
def lead : PathStart → List String
  | .here => []
  | .root => [""]
  | .doubleRoot => ["", ""]

variable {start : PathStart}

theorem eq_empty_of_mem_lead {text : String} (member : text ∈ start.lead) : text = "" := by
  cases start with
  | here => cases member
  | root => exact List.mem_singleton.1 member
  | doubleRoot => simpa [lead] using member

theorem intercalate_lead {texts : List String} (nonempty : texts ≠ []) :
    "/".intercalate (start.lead ++ texts) = start.text ++ "/".intercalate texts := by
  cases start with
  | here => exact String.empty_append.symm
  | root =>
    show "/".intercalate ("" :: texts) = "/" ++ _
    rw [String.intercalate_cons_of_ne_nil nonempty, String.empty_append]
  | doubleRoot =>
    show "/".intercalate ("" :: "" :: texts) = "//" ++ _
    rw [String.intercalate_cons_of_ne_nil (List.cons_ne_nil _ _),
      String.intercalate_cons_of_ne_nil nonempty, String.empty_append]
    exact String.append_assoc.symm

end PathStart

namespace Path

variable {path base : Path}

theorem text_of_steps_ne_nil (moves : path.steps ≠ []) :
    path.text = path.start.text ++ "/".intercalate (path.steps.map Step.text) := by
  rw [text, if_neg fun both => moves both.2]

theorem text_eq (moves : path.steps ≠ []) :
    path.text = "/".intercalate (path.start.lead ++ path.steps.map Step.text) := by
  rw [text_of_steps_ne_nil moves, PathStart.intercalate_lead (mt List.map_eq_nil_iff.1 moves)]

theorem splitAt_text (moves : path.steps ≠ []) :
    Text.splitAt '/' path.text = path.start.lead ++ path.steps.map Step.text := by
  rw [text_eq moves]
  apply Text.splitAt_intercalate
  · rw [Ne, List.append_eq_nil_iff, not_and_or]
    exact .inr (mt List.map_eq_nil_iff.1 moves)
  · intro text member
    rcases List.mem_append.1 member with lead | steps
    · rw [PathStart.eq_empty_of_mem_lead lead]
      decide
    · obtain ⟨step, _, rfl⟩ := List.mem_map.1 steps
      exact step.slash_not_mem_text

/-- A path is written with its steps behind parts that lead nowhere. -/
theorem exists_splitAt_text (path : Path) : ∃ idle, (∀ text ∈ idle, text = "" ∨ text = ".") ∧
    Text.splitAt '/' path.text = idle ++ path.steps.map Step.text := by
  by_cases moves : path.steps = []
  · use Text.splitAt '/' path.text
    rw [moves, List.map_nil, List.append_nil, and_iff_left rfl]
    obtain ⟨start, steps⟩ := path
    cases moves
    cases start <;> decide
  · use path.start.lead, fun text member => .inl (PathStart.eq_empty_of_mem_lead member)
    exact splitAt_text moves

theorem filterMap_ofText?_text (steps : List Step) :
    (steps.map Step.text).filterMap Step.ofText? = steps := by
  rw [List.filterMap_map]
  have each : Step.ofText? ∘ Step.text = some := funext Step.ofText?_text
  rw [each, List.filterMap_some]

theorem filterMap_ofText?_lead (start : PathStart) :
    start.lead.filterMap Step.ofText? = [] := by
  cases start <;> rfl

/-- The steps of a path are written with something else than a slash in front. -/
theorem exists_toList_eq {steps : List Step} (moves : steps ≠ []) :
    ∃ c rest, ("/".intercalate (steps.map Step.text)).toList = c :: rest ∧ c ≠ '/' := by
  obtain ⟨step, others, rfl⟩ := List.exists_cons_of_ne_nil moves
  obtain ⟨c, rest, spelled⟩ :=
    List.exists_cons_of_ne_nil (mt String.toList_eq_nil_iff.1 step.text_ne_empty)
  have different : c ≠ '/' := by
    rintro rfl
    apply step.slash_not_mem_text
    rw [spelled]
    exact List.mem_cons_self
  by_cases last : others = []
  · subst last
    refine ⟨c, rest, ?_, different⟩
    rw [List.map_singleton, String.intercalate_singleton, spelled]
  · refine ⟨c, rest ++ ("/" ++ "/".intercalate (others.map Step.text)).toList, ?_, different⟩
    rw [List.map_cons, String.intercalate_cons_of_ne_nil (mt List.map_eq_nil_iff.1 last),
      String.append_assoc, String.toList_append, spelled, List.cons_append]

theorem ofText_start (moves : path.steps ≠ []) : PathStart.ofText path.text = path.start := by
  obtain ⟨c, rest, spelled, different⟩ := exists_toList_eq moves
  rw [PathStart.ofText, text_of_steps_ne_nil moves, String.toList_append, spelled]
  have stops : (c :: rest).takeWhile (· = '/') = [] := by
    rw [List.takeWhile_cons_of_neg (by simpa using different)]
  have slashes : ∀ first ∈ path.start.text.toList, decide (first = '/') = true := by
    cases path.start <;> simp [PathStart.text]
  rw [List.takeWhile_append_of_pos slashes, stops, List.append_nil]
  cases path.start <;> rfl

theorem ofText_text (path : Path) : ofText path.text = path := by
  by_cases moves : path.steps = []
  · obtain ⟨start, steps⟩ := path
    cases moves
    cases start <;> decide
  · rw [ofText, ofText_start moves, splitAt_text moves, List.filterMap_append,
      filterMap_ofText?_lead, filterMap_ofText?_text, List.nil_append]

theorem join_here (steps : List Step) : base.join ⟨.here, steps⟩ = base.append steps := rfl

theorem join_of_relative (relative : path.isAbsolute = false) :
    base.join path = base.append path.steps := by
  rw [join, relative, if_neg Bool.false_ne_true]

theorem eq_here_of_relative (relative : path.isAbsolute = false) : path = ⟨.here, path.steps⟩ := by
  obtain ⟨start, steps⟩ := path
  cases start with
  | here => rfl
  | root => cases relative
  | doubleRoot => cases relative

theorem null_mem_text_iff :
    '\x00' ∈ path.text.toList ↔ ∃ step ∈ path.steps, '\x00' ∈ step.text.toList := by
  by_cases moves : path.steps = []
  · obtain ⟨start, steps⟩ := path
    cases moves
    have never : ∀ start, '\x00' ∉ (Path.mk start []).text.toList := by
      intro start
      cases start <;> decide
    simp only [never start, List.not_mem_nil, false_and, exists_false]
  · rw [text_of_steps_ne_nil moves, String.toList_append, List.mem_append]
    have never : '\x00' ∉ path.start.text.toList := by
      cases path.start <;> decide
    simp only [never, false_or]
    have other : '\x00' ≠ '/' := by decide
    simp only [Text.mem_intercalate_iff other, List.mem_map, exists_exists_and_eq_and]

theorem null_mem_text_of_subset {other : Path} (null : '\x00' ∈ path.text.toList)
    (subset : path.steps ⊆ other.steps) : '\x00' ∈ other.text.toList := by
  rw [null_mem_text_iff] at null ⊢
  obtain ⟨step, member, null⟩ := null
  exact ⟨step, subset member, null⟩

theorem utf8ByteSize_text_pos : 0 < path.text.utf8ByteSize := by
  by_cases moves : path.steps = []
  · obtain ⟨start, steps⟩ := path
    cases moves
    cases start <;> decide
  · obtain ⟨c, rest, spelled, _⟩ := exists_toList_eq moves
    rw [text_of_steps_ne_nil moves, String.utf8ByteSize_append]
    apply Nat.add_pos_right
    rw [Nat.pos_iff_ne_zero, Ne, String.utf8ByteSize_eq_zero_iff]
    intro none
    rw [none] at spelled
    cases spelled

theorem utf8ByteSize_text_le_append (path : Path) (steps : List Step) :
    path.text.utf8ByteSize ≤ (path.append steps).text.utf8ByteSize := by
  by_cases named : path.start ≠ .here ∨ path.steps ≠ []
  · obtain ⟨more, same⟩ := exists_text_append named steps
    rw [same, String.utf8ByteSize_append]
    exact Nat.le_add_right _ _
  · rw [not_or, not_not, not_not] at named
    rw [text, if_pos named]
    exact utf8ByteSize_text_pos

/-- What is seen from a directory is written no shorter than by itself. -/
theorem utf8ByteSize_text_le_join (base : Path) (steps : List Step) :
    (Path.mk .here steps).text.utf8ByteSize ≤ (base.append steps).text.utf8ByteSize := by
  by_cases moves : steps = []
  · subst moves
    exact utf8ByteSize_text_pos
  · have further : (base.append steps).steps ≠ [] := fun none =>
      moves (List.append_eq_nil_iff.1 none).2
    rw [text_of_steps_ne_nil further, @text_of_steps_ne_nil ⟨.here, steps⟩ moves]
    by_cases first : base.steps = []
    · rw [append, first, List.nil_append]
      simp only [String.utf8ByteSize_append, PathStart.text]
      have none : "".utf8ByteSize = 0 := rfl
      omega
    · rw [append, List.map_append, String.intercalate_append_of_ne_nil
        (mt List.map_eq_nil_iff.1 first) (mt List.map_eq_nil_iff.1 moves)]
      simp only [String.utf8ByteSize_append, PathStart.text]
      have none : "".utf8ByteSize = 0 := rfl
      omega

/-- A path can be asked about as seen from a directory if it can be by itself, unless it becomes too
long. -/
theorem ofSpelling?_join (fine : FileFault.ofSpelling? base.text = none) {steps : List Step}
    (sound : FileFault.ofSpelling? (Path.mk .here steps).text = none)
    (fits : (base.append steps).text.utf8ByteSize < FileFault.pathLimit) :
    FileFault.ofSpelling? (base.append steps).text = none := by
  rw [FileFault.ofSpelling?_eq_none_iff] at fine sound ⊢
  refine ⟨?_, fits⟩
  rw [null_mem_text_iff] at fine sound ⊢
  rintro ⟨step, member, null⟩
  rcases List.mem_append.1 member with first | second
  · exact fine.1 ⟨step, first, null⟩
  · exact sound.1 ⟨step, second, null⟩

theorem ofSpelling?_of_join {steps : List Step}
    (fine : FileFault.ofSpelling? (base.append steps).text = none) :
    FileFault.ofSpelling? (Path.mk .here steps).text = none := by
  rw [FileFault.ofSpelling?_eq_none_iff] at fine ⊢
  refine ⟨?_, Nat.lt_of_le_of_lt (utf8ByteSize_text_le_join base steps) fine.2⟩
  rw [null_mem_text_iff] at fine ⊢
  rintro ⟨step, member, null⟩
  exact fine.1 ⟨step, List.mem_append_right _ member, null⟩

theorem parts_append (base : Path) (steps : List Step) :
    (base.append steps).parts = base.parts ++ (Path.mk .here steps).parts := by
  show _ ++ (base.steps ++ steps).map Step.text = _ ++ base.steps.map Step.text ++ _
  rw [List.map_append, List.append_assoc]
  rfl

theorem isSorted_map_append {paths : List Path} (sorted : IsSorted paths)
    (relative : ∀ path ∈ paths, path.start = .here) :
    IsSorted (paths.map fun path => base.append path.steps) := by
  rw [IsSorted, List.pairwise_map]
  apply List.Pairwise.imp_of_mem _ sorted
  intro first second one two before
  obtain ⟨firstStart, firstSteps⟩ := first
  obtain ⟨secondStart, secondSteps⟩ := second
  cases relative _ one
  cases relative _ two
  rw [comesBefore_iff] at before ⊢
  rw [parts_append, parts_append]
  exact List.append_left_lt before

end Path

theorem ProjectConfig.ofText_anchor (base : Path) (text : String) :
    Path.ofText (anchor base text) = base.join (.ofText text) := by
  rw [anchor]
  split
  · next absolute => rw [Path.join, if_pos absolute]
  · exact Path.ofText_text _

end DocumentNormalizer
