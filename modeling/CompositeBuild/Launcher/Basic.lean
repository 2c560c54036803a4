import CompositeBuild.Failure
import CompositeBuild.Log
import CompositeBuild.Outcome
import CompositeBuild.TaskPath

/-!
# Launchers

A launcher drives one run of an included build: it loads the settings, configures the build, takes
the tasks that are wanted and runs them.  Launchers are made by a factory, one factory for each
build.

A factory is given by its operations on a state of its own.  A run is split in two, because other
code runs between its beginning and its end: `beginRun` returns what the run has to remember until
`endRun`.  A run that is cut short by a panic has no end.
-/

namespace CompositeBuild

/-- The settings of a loaded build. -/
structure Settings where
  rootProject : String
  projects : List String
  deriving DecidableEq, Repr, Inhabited

/-- A build whose projects are configured and whose tasks are known. -/
structure ConfiguredBuild where
  settings : Settings
  tasks : List TaskPath
  deriving DecidableEq, Repr

/-- What a successful run did. -/
structure BuildOutcome where
  executed : List TaskPath
  deriving DecidableEq, Repr

/-- The number of a launcher among the launchers of its factory. -/
abbrev LauncherId := Nat

/-- The launchers of one build: the operations of the factory and of the launchers it makes, on a
state `σ`.  The value of type `ρ` is a run in progress. -/
structure LauncherFactory (σ ρ : Type) where
  /-- Make a launcher. -/
  create : σ → Logged (LauncherId × σ)
  /-- Load the settings of the build. -/
  loadSettings : LauncherId → σ → Logged (Outcome BuildFailure Settings × σ)
  /-- Configure the projects of the build. -/
  configure : LauncherId → σ → Logged (Outcome BuildFailure ConfiguredBuild × σ)
  /-- Replace the tasks that the next run executes. -/
  request : LauncherId → List TaskPath → σ → Logged σ
  /-- Begin to run the wanted tasks. -/
  beginRun : LauncherId → σ → Logged (ρ × σ)
  /-- End a run. -/
  endRun : LauncherId → ρ → σ → Logged (Outcome BuildFailure BuildOutcome × σ)
  /-- The spans that are open during a run, outermost first. -/
  runSpans : List Span := []

end CompositeBuild
