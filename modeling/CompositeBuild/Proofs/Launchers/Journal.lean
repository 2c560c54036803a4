import CompositeBuild.Proofs.Launchers.SingleUse

/-!
# Journals of launchers

A journaled factory numbers its launchers in the order in which they are made and writes down every
call that it and its launchers get, together with what came of it.  Otherwise it does what the
factory inside it does, which may be any: what its launchers return, and whether they fail or panic,
is up to their state.
-/

namespace CompositeBuild

variable {σ ρ : Type}

/-- A call of a launcher or its factory, and what came of it. -/
inductive JournalEntry where
  | created (launcher : LauncherId)
  | loaded (launcher : LauncherId) (outcome : Outcome BuildFailure Settings)
  | configured (launcher : LauncherId) (outcome : Outcome BuildFailure ConfiguredBuild)
  | requested (launcher : LauncherId) (tasks : List TaskPath)
  | ran (launcher : LauncherId) (tasks : List TaskPath)
  deriving DecidableEq, Repr

namespace JournalEntry

/-- The call without what came of it. -/
def call : JournalEntry → LauncherCall
  | .created launcher => .create launcher
  | .loaded launcher _ => .loadSettings launcher
  | .configured launcher _ => .configure launcher
  | .requested launcher tasks => .request launcher tasks
  | .ran launcher tasks => .run launcher tasks

/-- A successful call that loads the settings through a launcher. -/
def loads (launcher : LauncherId) : JournalEntry → Bool
  | .loaded number (.returned _) => number = launcher
  | _ => false

/-- A successful call that configures the build through a launcher. -/
def configures (launcher : LauncherId) : JournalEntry → Bool
  | .configured number (.returned _) => number = launcher
  | _ => false

end JournalEntry

/-- The state of a factory, with its journal, oldest entry first. -/
structure Journaled (σ : Type) where
  state : σ
  entries : List JournalEntry := []
  /-- What the factory itself calls its launchers, in the order in which it made them. -/
  names : List LauncherId := []

namespace Journaled

/-- The calls of the journal. -/
def calls (launchers : Journaled σ) : List LauncherCall := launchers.entries.map JournalEntry.call

/-- The number of the next launcher. -/
def next (launchers : Journaled σ) : LauncherId := (LauncherCall.made launchers.calls).length + 1

/-- What the factory itself calls a launcher. -/
def nameOf (launchers : Journaled σ) (launcher : LauncherId) : LauncherId :=
  launchers.names.getD (launcher - 1) 0

/-- One more entry, and the state after the call. -/
def note (launchers : Journaled σ) (entry : JournalEntry) (state : σ) : Journaled σ :=
  { launchers with state, entries := launchers.entries ++ [entry] }

end Journaled

namespace LauncherFactory

/-- The same factory with a journal. -/
def journaled (inner : LauncherFactory σ ρ) : LauncherFactory (Journaled σ) ρ where
  create launchers := do
    let (name, state) ← inner.create launchers.state
    let launcher := launchers.next
    return (launcher, { launchers.note (.created launcher) state with
      names := launchers.names ++ [name] })
  loadSettings launcher launchers := do
    let (outcome, state) ← inner.loadSettings (launchers.nameOf launcher) launchers.state
    return (outcome, launchers.note (.loaded launcher outcome) state)
  configure launcher launchers := do
    let (outcome, state) ← inner.configure (launchers.nameOf launcher) launchers.state
    return (outcome, launchers.note (.configured launcher outcome) state)
  request launcher tasks launchers := do
    let state ← inner.request (launchers.nameOf launcher) tasks launchers.state
    return launchers.note (.requested launcher tasks) state
  beginRun launcher launchers := do
    let (run, state) ← inner.beginRun (launchers.nameOf launcher) launchers.state
    let tasks := LauncherCall.lastAsked launchers.calls launcher
    return (run, launchers.note (.ran launcher tasks) state)
  endRun launcher run launchers := do
    let (outcome, state) ← inner.endRun (launchers.nameOf launcher) run launchers.state
    return (outcome, { launchers with state })
  runSpans := inner.runSpans

variable (inner : LauncherFactory σ ρ)

/-- A journal records calls. -/
def journalRecorder : inner.journaled.Recorder where
  calls := Journaled.calls
  number _ := rfl
  create _ := List.map_append
  loadSettings _ _ := List.map_append
  configure _ _ := List.map_append
  request _ _ _ := List.map_append
  beginRun _ _ := List.map_append
  endRun _ _ _ := rfl

end LauncherFactory

end CompositeBuild
