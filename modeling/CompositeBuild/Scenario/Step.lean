import CompositeBuild.Build.Included
import CompositeBuild.Launcher.Scripted

/-!
# Steps of a scenario

A scenario rehearses a composite build whose launchers are scripted.  It is a list of steps, and
each step is answered.  Steps name builds by handles, which are bound to builds when these are made,
and the task sets of consuming builds by their owners.
-/

namespace CompositeBuild

/-- How to make a build with scripted launchers. -/
structure BuildSpec where
  name : String
  dir : String
  /-- The handle of the build, its name if absent. -/
  handle : Option String := none
  /-- The tasks that the configured build reports. -/
  tasks : List String := []
  /-- The root project of the build, its name if absent. -/
  rootProject : Option String := none
  deriving Repr

/-- Something that a thread does for a while. -/
inductive Work where
  /-- Await the build of a handle. -/
  | await (handle : String)
  /-- Execute the task of the given name among the tasks of an owner. -/
  | execute (owner name : String)
  deriving Repr

/-- One step of a scenario. -/
inductive Step where
  /-- Make a build with traced launchers and register it. -/
  | includeBuild (spec : BuildSpec)
  /-- Make a build without registering it. -/
  | makeBuild (spec : BuildSpec)
  | register (handle : String)
  /-- Find a registered build. -/
  | findBuild (name : String)
  | listBuilds
  | addTask (source target path : String)
  | dependenciesOf (source : String)
  | close
  | beginExecution
  | isConfiguring
  | snapshot
  /-- Refer to a task of a build. -/
  | taskOf (handle path : String)
  | queue (handle : String) (paths : List String)
  /-- Queue from a source that yields the paths and then panics. -/
  | queueAndPanic (handle : String) (paths : List String)
  | work (work : Work)
  | state (handle : String)
  | pending (handle : String)
  | hasExecuted (handle : String) (paths : List String)
  | settings (handle : String)
  | configured (handle : String)
  | describe (handle : String)
  /-- Report the calls of the launchers of a build. -/
  | recorder (handle : String)
  | failRun (handle : String) (failure : BuildFailure)
  | troubleSettings (handle : String) (trouble : Trouble)
  | troubleConfigure (handle : String) (trouble : Trouble)
  /-- Let every run of a build perform steps. -/
  | onRun (handle : String) (steps : List Step)
  /-- Register an action that writes rules and then panics if it is given a message. -/
  | substitute (handle : String) (rules : List (String × String)) (panic : Option String)
  /-- Settle the substitution rules of a build and look modules up in them. -/
  | resolveSubstitutions (handle : String) (modules : List String)
  | addAction (owner name : String) (failure : Option BuildFailure)
  | addDelegate (owner build : String)
  /-- Resolve a reference to a task, with the tasks of the owner hidden from the search if
  `blind`. -/
  | resolve (owner build path : String) (blind : Bool)
  | findTask (owner name : String)
  | listTasks (owner : String)
  | executeAll (owner : String)
  | inspectBuild (handle : String)
  | inspectTasks (owner : String)
  /-- Hold the next run of a build while other threads and steps act. -/
  | concurrent (handle : String) (first : Work) (during : List Step) (waiters : List Work)
  /-- Let the run that performs this step panic after its other steps. -/
  | panic (message : String)
  /-- A step that no scenario knows. -/
  | unknown
  deriving Inhabited

/-- What a scripted run calls. -/
inductive Hook where
  /-- Perform steps; the handle is the one by which the build was named. -/
  | script (handle : String) (steps : List Step)
  /-- Stop at a gate until it is opened. -/
  | gate (number : Nat)

/-- The message of the first step of a script that lets its run panic. -/
def Step.panicMessage? (steps : List Step) : Option String :=
  steps.findSome? fun
    | .panic message => some message
    | _ => none

/-- The launchers of a build of a scenario. -/
abbrev Launchers := ScriptedLaunchers Hook

/-- A run of such a launcher. -/
abbrev LauncherRun := ScriptedRun Hook

/-- A build of a scenario. -/
abbrev ScenarioBuild := IncludedBuild Launchers LauncherRun

end CompositeBuild
