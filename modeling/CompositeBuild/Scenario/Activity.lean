import CompositeBuild.Scenario.World

/-!
# Steps that may have to wait

A step of a scenario may have to wait for the sweep of an included build, or for threads that it
started.  `World.start` starts a step, and what it leaves under way is an `Activity`.
-/

namespace CompositeBuild

/-- What a call of await is for. -/
inductive Goal where
  /-- The call itself. -/
  | await
  /-- To execute a delegate. -/
  | task (delegate : Delegate)
  /-- To execute a delegate among the tasks of an owner: the results of the tasks before it and the
  tasks after it. -/
  | tasks (delegate : Delegate) (before : List (String × Except BuildFailure Unit))
      (after : List Task)

/-- A call of await in progress. -/
structure Call where
  ref : BuildRef
  goal : Goal
  phase : Phase LauncherRun

/-- How far a race of concurrent callers has come.  Threads are given by their numbers. -/
inductive RaceStage where
  /-- The first thread is still to be started. -/
  | opening (first : Work) (during : List Step) (waiters : List Work)
  /-- The first thread is held in a run or over. -/
  | opened (first : Nat) (during : List Step) (waiters : List Work)
  /-- The steps in between are performed. -/
  | between (first : Nat) (gated : Bool) (waiters : List Work)
  /-- The waiting threads are started, one after the other. -/
  | gathering (first : Nat) (gated : Bool) (during : List Answer) (waiters : List Work)
      (started : List Nat)
  /-- The gate is open, and the threads come to their ends. -/
  | joining (first : Nat) (gated : Bool) (during : List Answer)
      (state : Option CoordinatorState) (started : List Nat)

/-- Concurrent callers of one build, the first of which is held in its run by a gate. -/
structure Race where
  ref : BuildRef
  gate : Nat
  stage : RaceStage

/-- What a step leaves under way. -/
inductive Activity where
  /-- Nothing: it has its answer. -/
  | answered (answer : Answer)
  | calling (call : Call)
  | racing (race : Race)

namespace World

/-- An activity and the world after it began. -/
abbrev Started := Logged (Activity × World)

/-- A step that is answered at once. -/
def answer (world : World) (answer : Answer) : Started := pure (.answered answer, world)

/-- Let a call act on its build. -/
def act (world : World) (ref : BuildRef) (goal : Goal)
    (action : ScenarioBuild → Logged (Phase LauncherRun × ScenarioBuild)) : Started := do
  match ← world.session.act ref action with
  | (none, _) => world.answer .notUnderstood
  | (some phase, session) => return (.calling { ref, goal, phase }, { world with session })

/-- Call await. -/
def await (world : World) (ref : BuildRef) (goal : Goal) : Started :=
  world.act ref goal (·.enter)

/-- Execute tasks of an owner in order, given the results of the tasks before them. -/
def executeAll (world : World) (results : List (String × Except BuildFailure Unit)) :
    List Task → Started
  | [] => world.answer (.executedAll results)
  | .action name result :: tasks => world.executeAll (results ++ [(name, result)]) tasks
  | .delegate delegate :: tasks => do
    match ← world.session.startDelegate delegate with
    | .error failure => world.executeAll (results ++ [(delegate.name, .error failure)]) tasks
    | .ok ref => world.await ref (.tasks delegate results tasks)

/-- Execute one task. -/
def execute (world : World) : Task → Started
  | .action _ result => world.answer (.ofResult result)
  | .delegate delegate => do
    match ← world.session.startDelegate delegate with
    | .error failure => world.answer (.failed failure)
    | .ok ref => world.await ref (.task delegate)

/-- Go on when a call of await has ended. -/
def conclude (world : World) (goal : Goal) (result : Outcome AwaitError Unit) : Started :=
  match goal with
  | .await =>
    match result with
    | .returned _ => world.answer .done
    | .failed error => world.answer (.awaitFailed error)
    | .panicked message => world.answer (.panicked message)
  | .task delegate =>
    match delegate.conclude result with
    | .returned _ => world.answer .done
    | .failed failure => world.answer (.failed failure)
    | .panicked message => world.answer (.panicked message)
  | .tasks delegate before after =>
    match delegate.conclude result with
    | .returned _ => world.executeAll (before ++ [(delegate.name, .ok ())]) after
    | .failed failure => world.executeAll (before ++ [(delegate.name, .error failure)]) after
    | .panicked message => world.answer (.panicked message)

/-- Put a gate into the runs of a build, in place of what they call. -/
def placeGate (world : World) (ref : BuildRef) : Nat × World :=
  let number := world.gates.length
  let world := { world with gates := world.gates ++ [({} : Gate)] }
  (number, world.updateLaunchers ref fun launchers =>
    { launchers with hook := some (.gate number) })

/-- Start a step. -/
def start (world : World) : Step → Started
  | .work (.await handle) =>
    match world.handles.get? handle with
    | none => world.answer (noHandle handle)
    | some ref => world.await ref .await
  | .work (.execute owner name) =>
    let tasks := world.tasksOf owner
    let world := world.setTasks owner tasks
    match tasks.find? name with
    | none => world.answer .noTask
    | some task => world.execute task
  | .executeAll owner =>
    let tasks := world.tasksOf owner
    (world.setTasks owner tasks).executeAll [] tasks.toList
  | .concurrent handle first during waiters =>
    match world.handles.get? handle with
    | none => world.answer (noHandle handle)
    | some ref =>
      let (gate, world) := world.placeGate ref
      pure (.racing { ref, gate, stage := .opening first during waiters }, world)
  | step => do
    let (answer, world) ← world.perform step
    return (.answered answer, world)

end World

end CompositeBuild
