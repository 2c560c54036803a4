import CompositeBuild.Launcher.Basic

/-!
# Scripted launchers

A scripted factory stands in for real launchers.  It records every call, lets settings,
configuration and runs fail or panic as scripted, and calls a hook inside every run.  What the hook
does is up to the caller: it is a value of type `κ` that a run carries until its end.
-/

namespace CompositeBuild

/-- A recorded call of a launcher or its factory. -/
inductive LauncherCall where
  | create (launcher : LauncherId)
  | loadSettings (launcher : LauncherId)
  | configure (launcher : LauncherId)
  | request (launcher : LauncherId) (tasks : List TaskPath)
  | run (launcher : LauncherId) (tasks : List TaskPath)
  deriving DecidableEq, Repr

/-- How a scripted call goes wrong. -/
inductive Trouble where
  | failure (failure : BuildFailure)
  | panic (message : String)
  deriving DecidableEq, Repr

/-- The state of a scripted factory. -/
structure ScriptedLaunchers (κ : Type) where
  settings : Settings
  /-- The tasks that the configured build reports. -/
  tasks : List TaskPath := []
  /-- All calls so far, oldest first. -/
  calls : List LauncherCall := []
  /-- How the next runs fail. -/
  runFailures : List BuildFailure := []
  /-- How the next calls that load settings go wrong. -/
  settingsTroubles : List Trouble := []
  /-- How the next calls that configure go wrong. -/
  configureTroubles : List Trouble := []
  /-- The number of runs in progress.  A run that its hook cuts short is never taken out. -/
  running : Nat := 0
  /-- The highest number of runs seen in progress at the same time. -/
  maxRunning : Nat := 0
  /-- What every run calls. -/
  hook : Option κ := none

/-- A run of a scripted launcher in progress. -/
structure ScriptedRun (κ : Type) where
  tasks : List TaskPath
  hook : Option κ
  /-- How the run will fail. -/
  failure : Option BuildFailure

namespace ScriptedLaunchers

variable {κ : Type}

/-- A factory for a build with one project, named `rootProject`, and the given tasks. -/
def ofProject (rootProject : String) (tasks : List TaskPath) : ScriptedLaunchers κ where
  settings := { rootProject, projects := [":"] }
  tasks

/-- The same state with one more recorded call. -/
def record (state : ScriptedLaunchers κ) (call : LauncherCall) : ScriptedLaunchers κ :=
  { state with calls := state.calls ++ [call] }

/-- The number of launchers made so far. -/
def created (state : ScriptedLaunchers κ) : Nat :=
  state.calls.countP fun
    | .create _ => true
    | _ => false

/-- The tasks that a launcher was asked for last. -/
def requested (state : ScriptedLaunchers κ) (launcher : LauncherId) : List TaskPath :=
  (state.calls.reverse.findSome? fun
    | .request asked tasks => if asked = launcher then some tasks else none
    | _ => none).getD []

/-- The tasks of every run, oldest first. -/
def runs (state : ScriptedLaunchers κ) : List (List TaskPath) :=
  state.calls.filterMap fun
    | .run _ tasks => some tasks
    | _ => none

/-- Every task path handed to a run, in order. -/
def executed (state : ScriptedLaunchers κ) : List TaskPath := state.runs.flatten

/-- Make the next run that has no failure yet fail. -/
def failNextRun (state : ScriptedLaunchers κ) (failure : BuildFailure) : ScriptedLaunchers κ :=
  { state with runFailures := state.runFailures ++ [failure] }

/-- What a call returns when it goes wrong as scripted, or goes well. -/
def outcomeOf {α : Type} (trouble : Option Trouble) (value : α) : Outcome BuildFailure α :=
  match trouble with
  | none => .returned value
  | some (.failure failure) => .failed failure
  | some (.panic message) => .panicked message

/-- The operations of scripted launchers. -/
def factory : LauncherFactory (ScriptedLaunchers κ) (ScriptedRun κ) where
  create state :=
    let launcher := state.created + 1
    pure (launcher, state.record (.create launcher))
  loadSettings launcher state :=
    let state := state.record (.loadSettings launcher)
    pure (outcomeOf state.settingsTroubles.head? state.settings,
      { state with settingsTroubles := state.settingsTroubles.tail })
  configure launcher state :=
    let state := state.record (.configure launcher)
    let configured := { settings := state.settings, tasks := state.tasks }
    pure (outcomeOf state.configureTroubles.head? configured,
      { state with configureTroubles := state.configureTroubles.tail })
  request launcher tasks state := pure (state.record (.request launcher tasks))
  beginRun launcher state :=
    let tasks := state.requested launcher
    let running := state.running + 1
    let run := { tasks, hook := state.hook, failure := state.runFailures.head? }
    pure (run, { state.record (.run launcher tasks) with
      runFailures := state.runFailures.tail
      running
      maxRunning := max state.maxRunning running })
  endRun _ run state :=
    let outcome := match run.failure with
      | some failure => .failed failure
      | none => .returned { executed := run.tasks }
    pure (outcome, { state with running := state.running - 1 })

end ScriptedLaunchers

end CompositeBuild
