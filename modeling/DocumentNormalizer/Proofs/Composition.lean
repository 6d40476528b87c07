import DocumentNormalizer.Proofs.Rewriting

namespace DocumentNormalizer

def Pass.Ends (pass : Pass) (schema : Schema) : Prop :=
  ∀ store, ∃ reports, (pass.run schema store).reports = .ok reports

/-- Passes run one after the other, each on the store that the one before it leaves, and report. -/
inductive Pass.Sequence (schema : Schema) :
    Store → List Pass → List (List Diagnostic) → Store → Prop
  | nil (store : Store) : Sequence schema store [] [] store
  | cons {pass : Pass} {passes : List Pass} {store next last : Store} {given : List Diagnostic}
      {others : List (List Diagnostic)} (first : pass.run schema store = ⟨next, .ok given⟩)
      (further : Sequence schema next passes others last) :
      Sequence schema store (pass :: passes) (given :: others) last

/-- Which passes of a list have run, and what each of them reported. Only the last one can have
reported anything fatal, and it has if passes are left over. -/
structure Run.IsRecord (schema : Schema) (store : Store) (passes : List Pass) (run : Run)
    (ran : List Pass) (reports : List (List Diagnostic)) : Prop where
  isPrefix : ran <+: passes
  count : run.passCount = ran.length
  sequence : Pass.Sequence schema store ran reports run.store
  signed : run.diagnostics =
    (ran.zip reports).flatMap fun (pass, given) => given.map (·.sign pass.name)
  quiet : ∀ given ∈ reports.dropLast, anyFatal given = false
  stopped : ran ≠ passes → ∃ given, reports.getLast? = some given ∧ anyFatal given = true

theorem Pass.Ends.exists_run {pass : Pass} {schema : Schema} (ends : pass.Ends schema)
    (store : Store) : ∃ next given, pass.run schema store = ⟨next, .ok given⟩ := by
  obtain ⟨given, reported⟩ := ends store
  refine ⟨(pass.run schema store).store, given, ?_⟩
  rw [← reported]

namespace Sample

/-- Makes two documents change names. -/
def swap : Pass where
  ownName := none
  sort := "swap"
  run _ store :=
    ⟨store.mapDocuments fun _ document =>
      { document with name := if document.name = "Page" then "Info" else "Page" },
      .ok [.unsigned (.other .advisory "Names have changed places") "" .nowhere]⟩

theorem ends_swap : swap.Ends schema := fun _ => ⟨_, rfl⟩

end Sample

namespace Run

variable {schema : Schema} {store next : Store} {pass : Pass} {passes ran : List Pass}
  {given : List Diagnostic} {reports : List (List Diagnostic)} {run : Run}

theorem isRecord_nil (schema : Schema) (store : Store) :
    (ofPasses schema store []).IsRecord schema store [] [] [] where
  isPrefix := List.prefix_rfl
  count := rfl
  sequence := .nil store
  signed := rfl
  quiet := fun _ member => nomatch member
  stopped := fun other => absurd rfl other

theorem isRecord_fatal (first : pass.run schema store = ⟨next, .ok given⟩)
    (fatal : anyFatal given = true) (passes : List Pass) :
    (ofPasses schema store (pass :: passes)).IsRecord schema store (pass :: passes) [pass]
      [given] := by
  rw [ofPasses_cons_fatal first fatal]
  constructor
  · exact List.cons_prefix_cons.2 ⟨rfl, List.nil_prefix⟩
  · rfl
  · exact .cons first (.nil next)
  · exact (List.append_nil _).symm
  · exact fun _ member => nomatch member
  · exact fun _ => ⟨given, rfl, fatal⟩

theorem IsRecord.after (record : run.IsRecord schema next passes ran reports)
    (first : pass.run schema store = ⟨next, .ok given⟩) (advisory : anyFatal given = false)
    (documents : Nat) :
    (run.after (given.map (·.sign pass.name)) (.running pass.name documents)).IsRecord schema store
      (pass :: passes) (pass :: ran) (given :: reports) := by
  constructor
  · exact List.cons_prefix_cons.2 ⟨rfl, record.isPrefix⟩
  · rw [passCount, Run.after, List.countP_cons_of_pos rfl, List.length_cons, ← record.count]
    rfl
  · exact .cons first record.sequence
  · rw [Run.after, record.signed]
    rfl
  · intro other member
    cases reports with
    | nil => cases member
    | cons second reports =>
      rcases List.mem_cons.1 member with rfl | later
      · exact advisory
      · exact record.quiet other later
  · intro left
    have left : ran ≠ passes := by
      rintro rfl
      exact left rfl
    obtain ⟨last, found, fatal⟩ := record.stopped left
    exact ⟨last, by rw [List.getLast?_cons, found, Option.getD_some], fatal⟩

theorem exists_isRecord (store : Store) (ends : ∀ pass ∈ passes, pass.Ends schema) :
    (ofPasses schema store passes).fault = none ∧
      ∃ ran reports, (ofPasses schema store passes).IsRecord schema store passes ran reports := by
  induction passes generalizing store with
  | nil => exact ⟨rfl, [], [], isRecord_nil schema store⟩
  | cons pass passes ih =>
    obtain ⟨own, others⟩ := List.forall_mem_cons.1 ends
    obtain ⟨next, given, first⟩ := own.exists_run store
    cases fatal : anyFatal given with
    | true =>
      have record := isRecord_fatal first fatal passes
      rw [ofPasses_cons_fatal first fatal] at record ⊢
      exact ⟨rfl, _, _, record⟩
    | false =>
      obtain ⟨sound, ran, reports, record⟩ := ih next others
      rw [ofPasses_cons_advisory first fatal]
      exact ⟨sound, _, _, record.after first fatal _⟩

end Run

end DocumentNormalizer
