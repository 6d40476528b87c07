import DocumentNormalizer.Walk

namespace DocumentNormalizer

/-- Why a pass ends without diagnostics. -/
inductive Fault where
  | walk (fault : WalkFault)
  | raised (message : String)

structure PassOutcome where
  store : Store
  reports : Except Fault (List Diagnostic)

/-- A pass. `ownName` is the name it goes by; a pass without one goes by the name of what it is. -/
structure Pass where
  ownName : Option String
  sort : String
  run : Schema → Store → PassOutcome

def Pass.name (pass : Pass) : String := pass.ownName.getD pass.sort

/-- What a run tells about its progress. -/
inductive RunEvent where
  | running (pass : String) (documents : Nat)
  | stopping (pass : String)

def RunEvent.message : RunEvent → String
  | .running pass documents => s!"Running pass {pass} over {documents} documents"
  | .stopping pass => s!"  Pass {pass} reported a fatal error, stopping"

/-- The store after a run, what its passes reported, and what it told on the way. After a fault the
diagnostics are those of the passes before it. -/
structure Run where
  store : Store
  diagnostics : List Diagnostic
  events : List RunEvent
  fault : Option Fault

namespace Run

/-- Whether the run came to its end without anything fatal. -/
def ok (run : Run) : Bool := run.fault.isNone && !anyFatal run.diagnostics

/-- Puts a run behind the pass that ran before it. -/
def after (run : Run) (reports : List Diagnostic) (event : RunEvent) : Run :=
  { run with diagnostics := reports ++ run.diagnostics, events := event :: run.events }

/-- Runs passes in order up to the first that reports something fatal. -/
def ofPasses (schema : Schema) (store : Store) : List Pass → Run
  | [] => ⟨store, [], [], none⟩
  | pass :: passes =>
    let running := .running pass.name store.entries.length
    let outcome := pass.run schema store
    match outcome.reports with
    | .error fault => ⟨outcome.store, [], [running], some fault⟩
    | .ok reports =>
      let signed := reports.map (·.sign pass.name)
      if anyFatal signed then
        ⟨outcome.store, signed, [running, .stopping pass.name], none⟩
      else (ofPasses schema outcome.store passes).after signed running

def passCount (run : Run) : Nat :=
  run.events.countP fun
    | .running _ _ => true
    | .stopping _ => false

end Run

def Walk.documents {σ : Type} (schema : Schema) (visitor : Visitor σ) (memory : σ)
    (store : Store) : Progress σ :=
  store.keys.foldl (fun progress key =>
    if progress.fault.isSome then progress
    else Walk.document schema visitor store.walkDepth key progress) ⟨store, memory, [], none⟩

end DocumentNormalizer
