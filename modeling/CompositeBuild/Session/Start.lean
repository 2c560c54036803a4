import CompositeBuild.Config.Basic
import CompositeBuild.Session.Basic

/-!
# Starting a composite build

`Session.ofConfig` makes a session of the builds of a configuration.  `Session.beginExecution` ends
the configuration of a session and settles the substitution rules of its builds, one after the other
in name order, up to the first build where that goes wrong.
-/

namespace CompositeBuild

/-- Why a composite build cannot be started. -/
inductive CompositeError where
  | registry (error : RegistryError)
  | substitution (error : SubstitutionError)
  deriving DecidableEq, Repr

/-- Where the launchers of configured builds come from.  What is provided for a build may depend on
what was provided before. -/
abbrev LauncherProvider (π σ ρ : Type) :=
  IncludedBuildConfig → StateM π (LauncherFactory σ ρ × σ)

namespace Session

variable {π σ ρ : Type}

/-- Let a build register the substitution rules of its configuration. -/
def registerEntries (build : IncludedBuild σ ρ) (entries : List SubstitutionConfig) :
    Except SubstitutionError (IncludedBuild σ ρ) :=
  entries.foldlM (fun build entry => build.registerSubstitution entry.action) build

/-- Include one build of a configuration. -/
def includeConfigured (session : Session σ ρ) (entry : IncludedBuildConfig)
    (launchers : LauncherFactory σ ρ × σ) : Logged (Except CompositeError (Session σ ρ)) := do
  let (result, session) ← session.includeBuild entry.id entry.dir launchers.1 launchers.2
  match result with
  | .error error => return .error (.registry error)
  | .ok ref =>
    match session.build? ref with
    | none => return .error (.registry (.unknownBuild entry.id))
    | some build =>
      match registerEntries build entry.substitute with
      | .error error => return .error (.substitution error)
      | .ok build => return .ok (session.setBuild ref build)

/-- Include builds of a configuration in their order, up to the first that is refused.  The provider
is in the given state and is asked for the launchers of each build before that is included. -/
def includeAll (provider : LauncherProvider π σ ρ) :
    π → List IncludedBuildConfig → Session σ ρ → Logged (Except CompositeError (Session σ ρ))
  | _, [], session => pure (.ok session)
  | state, entry :: entries, session => do
    let (launchers, state) := (provider entry).run state
    match ← session.includeConfigured entry launchers with
    | .error error => return .error error
    | .ok session => includeAll provider state entries session

/-- A session with every build of a configuration. -/
def ofConfig (config : CompositeConfig) (provider : LauncherProvider π σ ρ) (state : π) :
    Logged (Except CompositeError (Session σ ρ)) := do
  let result ← includeAll provider state config.builds {}
  if result.isOk then
    .emit .info "composite build configured" [("builds", toString config.builds.length)]
  return result

/-- Settle the substitution rules of builds in their order, up to the first where that goes
wrong. -/
def settleAll :
    List BuildRef → Session σ ρ → Logged (Outcome SubstitutionError Unit × Session σ ρ)
  | [], session => pure (.returned (), session)
  | ref :: refs, session =>
    match session.build? ref with
    | none => settleAll refs session
    | some build => do
      let (outcome, build) ← build.resolveSubstitutions
      let session := session.setBuild ref build
      match outcome with
      | .returned _ => settleAll refs session
      | .failed error => return (.failed error, session)
      | .panicked message => return (.panicked message, session)

/-- End the configuration and settle the substitution rules of every registered build. -/
def beginExecution (session : Session σ ρ) :
    Logged (Outcome CompositeError Unit × Session σ ρ) := do
  let session ← session.close
  let (outcome, session) ← settleAll session.registry.builds.values session
  match outcome with
  | .returned _ =>
    .emit .info "composite build executing" []
    return (.returned (), session)
  | .failed error => return (.failed (.substitution error), session)
  | .panicked message => return (.panicked message, session)

end Session

end CompositeBuild
