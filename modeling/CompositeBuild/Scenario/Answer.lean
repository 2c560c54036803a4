import CompositeBuild.Scenario.Step
import CompositeBuild.Task.Container

/-!
# Answers to the steps of a scenario

Every kind of step has its kind of answer, and any step may be answered by an error.  A step of a
scenario that panics, or has to do with a build that panics, is answered by the message of the
panic.
-/

namespace CompositeBuild

/-- A registered build as a snapshot shows it. -/
structure BuildSummary where
  name : BuildId
  dir : String
  pending : List TaskPath
  state : CoordinatorState

/-- Everything a scenario shows of its composite build. -/
structure Snapshot where
  /-- The registered builds in name order. -/
  builds : List BuildSummary
  /-- The dependencies of every build that was named as the source of one. -/
  edges : List (BuildId × List BuildId)
  /-- The tasks of every owner. -/
  tasks : List BuildTasks
  configuring : Bool

/-- The answer to a step. -/
inductive Answer where
  /-- The step went well and has nothing to say. -/
  | done
  /-- The step is unknown. -/
  | notUnderstood
  /-- The step panicked. -/
  | panicked (message : String)
  /-- The panic of a run is put off to the end of its steps. -/
  | panicsLater
  | unqualified (error : UnqualifiedPath)
  | refused (error : RegistryError)
  | notSubstituted (error : SubstitutionError)
  | notResolved (error : ResolveError)
  | awaitFailed (error : AwaitError)
  | failed (failure : BuildFailure)
  /-- The owner has no task of the given name. -/
  | noTask
  /-- A build was made; it is called as given. -/
  | made (displayName : String)
  /-- No build is registered under a name. -/
  | notRegistered
  /-- A registered build with all handles that are bound to it. -/
  | registered (name : BuildId) (displayName : String) (handles : List String)
  /-- The registered builds, each with what it is called. -/
  | builds (names : List (BuildId × String))
  | targets (builds : List BuildId)
  | configuring (isConfiguring : Bool)
  | snapshot (snapshot : Snapshot)
  | reference (reference : TaskReference)
  | pending (paths : List TaskPath)
  | state (state : CoordinatorState)
  | executed (flags : List Bool)
  | settings (settings : Settings)
  | configured (configured : ConfiguredBuild)
  | description (name : BuildId) (dir displayName : String)
  | recorder (launchers : Launchers)
  /-- Settled rules and the modules to look up in them. -/
  | substitutions (subs : DependencySubstitutions) (modules : List String)
  | added (task : Task)
  /-- A resolved reference, and whether its delegate had been there before. -/
  | resolved (delegate : Delegate) (reused : Bool)
  | task (task : Option Task)
  | tasks (tasks : BuildTasks)
  /-- The results of all tasks of an owner. -/
  | executedAll (results : List (String × Except BuildFailure Unit))
  /-- The text of a value. -/
  | inspected (text : String)
  /-- What became of concurrent callers: whether the first one was held in a run, the answers to the
  steps in between, the state while it was held, and the answers to the threads. -/
  | concurrent (gated : Bool) (during : List Answer) (state : Option CoordinatorState)
      (first : Answer) (waiters : List Answer) (after : CoordinatorState)
  deriving Inhabited

namespace Answer

/-- The answer to a call that returns nothing, or fails with a failure of a build. -/
def ofResult : Except BuildFailure Unit → Answer
  | .ok _ => .done
  | .error failure => .failed failure

end Answer

/-- What a scripted run did: the handle of its build, its tasks and the answers to its steps. -/
structure HookReport where
  handle : String
  tasks : List TaskPath
  answers : List Answer

/-- What a step of a scenario came to. -/
structure StepReport where
  answer : Answer
  /-- The scripted runs during the step, in the order of their ends. -/
  hooks : List HookReport
  after : Snapshot
  events : List LogEvent

end CompositeBuild
