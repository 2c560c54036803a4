import CompositeBuild.Build.Included

/-!
# Awaiting an included build

A call of await waits for the sweep in flight, if there is one, then sweeps everything that is
queued: it claims the queued paths, takes a launcher, asks it for the paths that are fresh, runs it
and releases the schedule.  Between any two of these steps other callers may act on the build, and
while the launcher runs so may the code that the run calls.

`Phase` says where a call stands.  `IncludedBuild.enter` starts a call, `IncludedBuild.proceed`
takes it one step further, and `IncludedBuild.unwind` cuts a run short.
-/

namespace CompositeBuild

/-- Why a call of await fails. -/
inductive AwaitError where
  /-- The run of the sweep failed. -/
  | execution (failure : BuildFailure)
  /-- The schedule was poisoned while the call had to wait. -/
  | interrupted (build : BuildId)
  deriving DecidableEq, Repr

instance : ToString AwaitError where
  toString
    | .execution failure => toString failure
    | .interrupted build => s!"interrupted while waiting for build {build} to complete"

/-- Where a call of await stands.  The call owns the sweep in flight in all phases but the first and
the last. -/
inductive Phase (ρ : Type) where
  /-- It waits for the sweep of another call. -/
  | waiting
  /-- It has claimed the queued paths. -/
  | claimed (claim : Claim)
  /-- It has taken a launcher for the fresh paths. -/
  | launching (launcher : LauncherId) (tasks : List TaskPath)
  /-- It has asked the launcher for the fresh paths. -/
  | requested (launcher : LauncherId)
  /-- Its launcher runs. -/
  | running (launcher : LauncherId) (run : ρ)
  /-- It knows its result and has still to release the schedule. -/
  | ending (result : Outcome BuildFailure Unit)
  /-- It is over. -/
  | ended (result : Outcome AwaitError Unit)

/-- A call that owns the sweep in flight. -/
def Phase.ownsSweep {ρ : Type} : Phase ρ → Bool
  | .waiting | .ended _ => false
  | _ => true

/-- What a call returns for what became of its run. -/
def awaitResult : Outcome BuildFailure Unit → Outcome AwaitError Unit
  | .returned _ => .returned ()
  | .failed failure => .failed (.execution failure)
  | .panicked message => .panicked message

/-- A list of task paths as it appears in a report of values. -/
def inspectTasks (tasks : List TaskPath) : String :=
  "[" ++ ", ".intercalate (tasks.map fun path => s!"TaskPath({Text.quoted path.text})") ++ "]"

namespace IncludedBuild

variable {σ ρ : Type}

/-- The span of a sweep. -/
def sweepSpan (build : IncludedBuild σ ρ) : Span where
  name := "sweep"
  fields := [build.nameField]

/-- The spans that are open around the code that a run calls. -/
def runSpans (build : IncludedBuild σ ρ) : List Span :=
  build.sweepSpan :: build.factory.runSpans

/-- Claim the queued paths for a sweep. -/
def claim (build : IncludedBuild σ ρ) : Logged (Phase ρ × IncludedBuild σ ρ) := do
  let (claim, schedule) := build.schedule.claim
  claim.skipped.forM fun path =>
    .emit .trace "skipping already executed task" [build.nameField, ("task", path.text)]
  return (.claimed claim, { build with schedule })

/-- Start a call: wait if a sweep is in flight, else claim. -/
def enter (build : IncludedBuild σ ρ) : Logged (Phase ρ × IncludedBuild σ ρ) :=
  if build.schedule.executing then do
    let schedule := build.schedule.join
    .emit .debug "waiting for in-flight sweep"
      [build.nameField, ("waiting", toString schedule.waiting)]
    return (.waiting, { build with schedule })
  else build.claim

/-- Wake a waiting call.  On a poisoned schedule it is interrupted, during another sweep it waits
on, else it claims. -/
def wake (build : IncludedBuild σ ρ) : Logged (Phase ρ × IncludedBuild σ ρ) :=
  if build.schedule.poisoned then
    pure (.ended (.failed (.interrupted build.name)),
      { build with schedule := build.schedule.leave })
  else if build.schedule.executing then pure (.waiting, build)
  else { build with schedule := build.schedule.leave }.claim

/-- Take a launcher for the claimed paths, if any of them is fresh. -/
def launch (build : IncludedBuild σ ρ) (tasks : List TaskPath) :
    Logged (Phase ρ × IncludedBuild σ ρ) :=
  if tasks = [] then do
    .emit .debug "nothing to execute" [build.nameField]
    return (.ending (.returned ()), build)
  else
    Logged.within [build.sweepSpan] do
      .emit .info "executing included build tasks" [("tasks", inspectTasks tasks)]
      let (launcher, build) ← build.takeLauncher
      return (.launching launcher tasks, build)

/-- End the run of a sweep. -/
def endRun (build : IncludedBuild σ ρ) (launcher : LauncherId) (run : ρ) :
    Logged (Phase ρ × IncludedBuild σ ρ) :=
  Logged.within [build.sweepSpan] do
    let (outcome, launchers) ← build.factory.endRun launcher run build.launchers
    let build := { build with launchers }
    match outcome with
    | .returned result =>
      .emit .info "sweep completed" [("executed", toString result.executed.length)]
      return (.ending (.returned ()), build)
    | .failed failure =>
      .emit .error "sweep failed" [("error", toString failure)]
      return (.ending (.failed failure), build)
    | .panicked message => return (.ending (.panicked message), build)

/-- Take a call one step further. -/
def proceed (build : IncludedBuild σ ρ) : Phase ρ → Logged (Phase ρ × IncludedBuild σ ρ)
  | .waiting => build.wake
  | .claimed claim => build.launch claim.fresh
  | .launching launcher tasks =>
    Logged.within [build.sweepSpan] do
      let launchers ← build.factory.request launcher tasks build.launchers
      return (.requested launcher, { build with launchers })
  | .requested launcher =>
    Logged.within [build.sweepSpan] do
      let (run, launchers) ← build.factory.beginRun launcher build.launchers
      return (.running launcher run, { build with launchers })
  | .running launcher run => build.endRun launcher run
  | .ending result => pure (.ended (awaitResult result),
      { build with schedule := build.schedule.release })
  | .ended result => pure (.ended result, build)

/-- Cut the run of a call short, because the code that it calls has panicked. -/
def unwind (message : String) : Phase ρ → Phase ρ
  | .running _ _ => .ending (.panicked message)
  | phase => phase

end IncludedBuild

end CompositeBuild
