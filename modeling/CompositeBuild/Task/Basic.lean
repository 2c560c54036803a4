import CompositeBuild.Build.Await
import CompositeBuild.Registry.Basic

/-!
# Tasks of a consuming build

The task graph of a build that consumes an included build holds a delegate for it: a task that,
when executed, waits until the included build has run everything that is queued there.  The other
tasks of the graph are actions.
-/

namespace CompositeBuild

/-- A task that stands for the pending work of an included build.  The number tells it from every
other delegate of the same composite. -/
structure Delegate where
  number : Nat
  build : BuildId
  deriving DecidableEq, Repr

/-- A task of a consuming build. -/
inductive Task where
  | delegate (delegate : Delegate)
  /-- An action, given by how it ends. -/
  | action (name : String) (result : Except BuildFailure Unit)
  deriving Repr

namespace Delegate

/-- A delegate bears the name of its build. -/
def name (delegate : Delegate) : String := delegate.build.text

/-- The failure of a delegate whose build is not registered. -/
def buildNotFound (delegate : Delegate) : BuildFailure :=
  .ofMessage (unknownBuildMessage delegate.build)

/-- What executing a delegate comes to when the call of await has ended.  A failed run is reported
in the context of the consuming build. -/
def conclude (delegate : Delegate) : Outcome AwaitError Unit → Outcome BuildFailure Unit
  | .returned _ => .returned ()
  | .failed (.execution failure) =>
    .failed (failure.recontextualize s!"Failed to build artifacts for {delegate.build}")
  | .failed (.interrupted build) => .failed (.ofMessage (toString (AwaitError.interrupted build)))
  | .panicked message => .panicked message

end Delegate

namespace Task

/-- The name of a task. -/
def name : Task → String
  | .delegate node => node.name
  | .action name _ => name

/-- The task as a delegate, if it is one. -/
def delegate? : Task → Option Delegate
  | .delegate node => some node
  | .action _ _ => none

/-- A task as it appears in a report of values. -/
def inspect : Task → String
  | .delegate node =>
    "Delegate(DelegateTask \x7b name: " ++ Text.quoted node.name ++ ", build: " ++
      DependencySubstitutions.inspectBuild node.build ++ ", .. \x7d)"
  | .action name _ => "Action \x7b name: " ++ Text.quoted name ++ ", .. \x7d"

end Task

end CompositeBuild
