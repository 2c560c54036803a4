import CompositeBuild.BuildId
import CompositeBuild.Launcher.Basic

/-!
# Traced launchers

A traced factory does what the factory inside it does and logs every call.
-/

namespace CompositeBuild.LauncherFactory

variable {σ ρ : Type}

/-- The span of a call of a launcher. -/
def callSpan (build : BuildId) (name : String) : Span where
  name
  fields := [("build", build.text)]

/-- The same factory with all its launchers traced. -/
def traced (inner : LauncherFactory σ ρ) (build : BuildId) : LauncherFactory σ ρ where
  create state := do
    .emit .debug "creating launcher" [("build", build.text)]
    inner.create state
  loadSettings launcher state :=
    Logged.within [callSpan build "launcher.load_settings"] do
      let (outcome, state) ← inner.loadSettings launcher state
      match outcome with
      | .returned settings =>
        .emit .debug "settings loaded" [("root_project", settings.rootProject)]
      | .failed failure => .emit .error "loading settings failed" [("error", toString failure)]
      | .panicked _ => pure ()
      return (outcome, state)
  configure launcher state :=
    Logged.within [callSpan build "launcher.configure"] do
      let (outcome, state) ← inner.configure launcher state
      match outcome with
      | .returned configured =>
        .emit .debug "configured" [("tasks", toString configured.tasks.length)]
      | .failed failure => .emit .error "configuration failed" [("error", toString failure)]
      | .panicked _ => pure ()
      return (outcome, state)
  request launcher tasks state := do
    .emit .trace "requested tasks set"
      [("build", build.text), ("count", toString tasks.length)]
    inner.request launcher tasks state
  beginRun launcher state :=
    Logged.within [callSpan build "launcher.run"] do
      .emit .info "starting" []
      inner.beginRun launcher state
  endRun launcher run state :=
    Logged.within [callSpan build "launcher.run"] do
      let (outcome, state) ← inner.endRun launcher run state
      match outcome with
      | .returned result =>
        .emit .info "run succeeded" [("executed", toString result.executed.length)]
      | .failed failure => .emit .error "run failed" [("error", toString failure)]
      | .panicked _ => pure ()
      return (outcome, state)
  runSpans := callSpan build "launcher.run" :: inner.runSpans

end CompositeBuild.LauncherFactory
