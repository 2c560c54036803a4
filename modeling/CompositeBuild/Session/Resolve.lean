import CompositeBuild.Session.Basic
import CompositeBuild.Task.Container

/-!
# Resolving references to tasks of other builds

A reference to a task of an included build is resolved for a consuming build: the task is queued on
the included build, and the consuming build gets the one delegate for it, made when the first
reference to that build is resolved.  Executing the delegate awaits the build that its name stands
for at that moment.
-/

namespace CompositeBuild.Session

variable {σ ρ τ : Type}

/-- Resolve a reference into the tasks of a consuming build.  The task is queued even when the name
of the delegate turns out to be taken. -/
def resolve (session : Session σ ρ) (container : TaskContainer τ) (reference : TaskReference)
    (tasks : τ) : Logged (Except ResolveError (Delegate × τ) × Session σ ρ) := do
  let target := reference.build
  match session.find? target with
  | none => return (.error (.unknownBuild target), session)
  | some (ref, build) =>
    let session := session.setBuild ref (← build.queue [reference.path])
    match container.find? tasks target.text with
    | some (.delegate delegate) => return (.ok (delegate, tasks), session)
    | some (.action name _) => return (.error (.nameCollision name), session)
    | none =>
      let delegate := { number := session.delegates, build := target }
      let session := { session with delegates := session.delegates + 1 }
      match ← container.add tasks (.delegate delegate) with
      | .error error => return (.error error, session)
      | .ok tasks =>
        .emit .debug "created delegate task" [("build", target.text)]
        return (.ok (delegate, tasks), session)

/-- Find the build that a delegate has to await. -/
def startDelegate (session : Session σ ρ) (delegate : Delegate) :
    Logged (Except BuildFailure BuildRef) :=
  match session.find? delegate.build with
  | none => pure (.error delegate.buildNotFound)
  | some (ref, _) => do
    .emit .debug "awaiting included build" [("build", delegate.build.text)]
    return .ok ref

end CompositeBuild.Session
