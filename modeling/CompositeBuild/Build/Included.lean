import CompositeBuild.Build.Schedule
import CompositeBuild.Launcher.Basic
import CompositeBuild.Substitution.Collection

/-!
# Included builds

An included build has a name, a directory, the factory of its launchers, and three pieces of state:
its schedule, the slot with its current launcher and the models loaded through it, and its
substitution rules.

This module has the operations that finish in one go.  The one that may have to wait is in
`CompositeBuild.Build.Await`.
-/

namespace CompositeBuild

/-- The current launcher of a build and the models loaded so far.  A new launcher starts with empty
models; a launcher that a sweep takes leaves them behind. -/
structure LauncherSlot where
  launcher : Option LauncherId := none
  settings : Option Settings := none
  configured : Option ConfiguredBuild := none
  deriving DecidableEq, Repr

/-- One included build.  The state of its launchers has type `σ`, and a run of one of them has type
`ρ`. -/
structure IncludedBuild (σ ρ : Type) where
  name : BuildId
  projectDir : String
  factory : LauncherFactory σ ρ
  launchers : σ
  schedule : Schedule := {}
  slot : LauncherSlot := {}
  substitutions : SubstitutionState := .collecting []

namespace IncludedBuild

variable {σ ρ : Type}

/-- How a build is called in messages. -/
def displayName (build : IncludedBuild σ ρ) : String :=
  s!"includedBuild[{build.projectDir}]"

/-- A build as it appears in a report of values. -/
def inspect (build : IncludedBuild σ ρ) : String :=
  "IncludedBuild \x7b name: " ++ DependencySubstitutions.inspectBuild build.name ++
    ", project_dir: " ++ Text.quoted build.projectDir ++ ", .. \x7d"

/-- A reference to a task of this build. -/
def task (build : IncludedBuild σ ρ) (path : String) : Except UnqualifiedPath TaskReference := do
  return { build := build.name, path := ← TaskPath.parse path }

/-- The log field that names the build. -/
def nameField (build : IncludedBuild σ ρ) : String × String := ("build", build.name.text)

/-! ### Scheduling -/

/-- Queue task paths for the next sweep.  A sweep in flight is not affected. -/
def queue (build : IncludedBuild σ ρ) (paths : List TaskPath) : Logged (IncludedBuild σ ρ) := do
  let schedule := build.schedule.queue paths
  .emit .debug "queued tasks"
    [build.nameField, ("added", toString paths.length),
      ("pending", toString schedule.pending.length)]
  return { build with schedule }

/-- Queue the task paths that a source yields before it panics. -/
def queueAndPoison (build : IncludedBuild σ ρ) (paths : List TaskPath) : IncludedBuild σ ρ :=
  { build with schedule := build.schedule.queueAndPoison paths }

/-- The paths queued for the next sweep. -/
def pending (build : IncludedBuild σ ρ) : List TaskPath := build.schedule.pending

/-- Whether a sweep has claimed a path. -/
def hasExecuted (build : IncludedBuild σ ρ) (path : TaskPath) : Bool :=
  build.schedule.executed.contains path

/-- What a caller can see of the schedule. -/
def state (build : IncludedBuild σ ρ) : CoordinatorState := build.schedule.state

/-! ### Launchers -/

/-- Make a launcher.  What was loaded through earlier ones is forgotten. -/
def createLauncher (build : IncludedBuild σ ρ) : Logged (LauncherId × IncludedBuild σ ρ) := do
  .emit .debug "creating launcher" [build.nameField]
  let (launcher, launchers) ← build.factory.create build.launchers
  return (launcher, { build with launchers, slot := {} })

/-- Take the launcher out of the slot, so that nobody uses it again, or make one. -/
def takeLauncher (build : IncludedBuild σ ρ) : Logged (LauncherId × IncludedBuild σ ρ) :=
  match build.slot.launcher with
  | some launcher => pure (launcher, { build with slot := { build.slot with launcher := none } })
  | none => build.createLauncher

/-- The launcher in the slot, made if there is none. -/
def ensureLauncher (build : IncludedBuild σ ρ) : Logged (LauncherId × IncludedBuild σ ρ) :=
  match build.slot.launcher with
  | some launcher => pure (launcher, build)
  | none => do
    let (launcher, build) ← build.createLauncher
    return (launcher, { build with slot := { build.slot with launcher := some launcher } })

/-- The settings of the build, loaded on first use. -/
def loadedSettings (build : IncludedBuild σ ρ) :
    Logged (Outcome BuildFailure Settings × IncludedBuild σ ρ) :=
  match build.slot.settings with
  | some settings => pure (.returned settings, build)
  | none => do
    let (launcher, build) ← build.ensureLauncher
    let (outcome, launchers) ← build.factory.loadSettings launcher build.launchers
    let build := { build with launchers }
    match outcome with
    | .returned settings =>
      return (outcome, { build with slot := { build.slot with settings := some settings } })
    | _ => return (outcome, build)

/-- The configured model of the build, computed on first use. -/
def configuredBuild (build : IncludedBuild σ ρ) :
    Logged (Outcome BuildFailure ConfiguredBuild × IncludedBuild σ ρ) :=
  match build.slot.configured with
  | some configured => pure (.returned configured, build)
  | none => do
    let (launcher, build) ← build.ensureLauncher
    let (outcome, launchers) ← build.factory.configure launcher build.launchers
    let build := { build with launchers }
    match outcome with
    | .returned configured =>
      return (outcome, { build with slot := { build.slot with
        settings := some configured.settings
        configured := some configured } })
    | _ => return (outcome, build)

/-! ### Substitution rules -/

/-- Register an action that writes substitution rules. -/
def registerSubstitution (build : IncludedBuild σ ρ) (action : SubstitutionAction) :
    Except SubstitutionError (IncludedBuild σ ρ) := do
  return { build with substitutions := ← build.substitutions.register action }

/-- Apply the registered actions and settle the rules, unless that has been done. -/
def resolveSubstitutions (build : IncludedBuild σ ρ) :
    Logged (Outcome SubstitutionError DependencySubstitutions × IncludedBuild σ ρ) := do
  let (outcome, substitutions) := build.substitutions.resolve build.name
  match outcome with
  | .returned subs =>
    unless build.substitutions.isResolved do
      .emit .debug "resolved dependency substitutions"
        [build.nameField, ("rules", toString subs.size)]
  | _ => pure ()
  return (outcome, { build with substitutions })

end IncludedBuild

end CompositeBuild
