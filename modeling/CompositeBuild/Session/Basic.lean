import CompositeBuild.Build.Await
import CompositeBuild.Launcher.Traced
import CompositeBuild.Registry.Basic

/-!
# Composite build sessions

A session is one composite build: every included build that was ever made for it, and the registry
that says which of them the names stand for and how they depend on each other.  A build whose name
is registered anew is displaced from the registry, but it stays in the session as it is, because
others may still hold a reference to it.
-/

namespace CompositeBuild

/-- One composite build.  The builds are listed in the order in which they were made, and a
reference to a build is its place in the list. -/
structure Session (σ ρ : Type) where
  builds : List (IncludedBuild σ ρ) := []
  registry : Registry := {}
  /-- The number of delegates made so far. -/
  delegates : Nat := 0

namespace Session

variable {σ ρ : Type}

instance : Inhabited (Session σ ρ) := ⟨{}⟩

/-! ### Builds -/

/-- The build that a reference stands for. -/
def build? (session : Session σ ρ) (ref : BuildRef) : Option (IncludedBuild σ ρ) :=
  session.builds[ref]?

/-- Replace what a reference stands for. -/
def setBuild (session : Session σ ρ) (ref : BuildRef) (build : IncludedBuild σ ρ) : Session σ ρ :=
  { session with builds := session.builds.set ref build }

/-- Take a new build into the session without registering it. -/
def addBuild (session : Session σ ρ) (build : IncludedBuild σ ρ) : BuildRef × Session σ ρ :=
  (session.builds.length, { session with builds := session.builds ++ [build] })

/-- A replaced build is found under its own reference and hides nothing under another one. -/
theorem build?_setBuild (session : Session σ ρ) (ref : BuildRef) (build : IncludedBuild σ ρ)
    (sought : BuildRef) :
    (session.setBuild ref build).build? sought =
      if ref = sought then (session.build? ref).map fun _ => build else session.build? sought := by
  unfold build? setBuild
  rw [List.getElem?_set]
  by_cases same : ref = sought
  · subst same
    by_cases inside : ref < session.builds.length <;> simp [inside]
  · simp [same]

/-- A new build is found under its own reference, and the others stay where they are. -/
theorem build?_addBuild (session : Session σ ρ) (build : IncludedBuild σ ρ) (sought : BuildRef) :
    (session.addBuild build).2.build? sought =
      if (session.addBuild build).1 = sought then some build else session.build? sought := by
  unfold addBuild build?
  rcases Nat.lt_trichotomy sought session.builds.length with inside | rfl | beyond
  · rw [List.getElem?_append_left inside, if_neg (Nat.ne_of_gt inside)]
  · simp
  · rw [if_neg (Nat.ne_of_lt beyond), List.getElem?_eq_none (Nat.le_of_lt beyond),
      List.getElem?_eq_none (by rw [List.length_append]; exact beyond)]

/-- The build registered under a name, with its reference. -/
def find? (session : Session σ ρ) (name : BuildId) : Option (BuildRef × IncludedBuild σ ρ) := do
  let ref ← session.registry.find? name
  return (ref, ← session.build? ref)

/-- The registered builds in name order, with their references. -/
def registered (session : Session σ ρ) : List (BuildRef × IncludedBuild σ ρ) :=
  session.registry.builds.values.filterMap fun ref => do return (ref, ← session.build? ref)

/-! ### Configuring -/

/-- Whether the composite is still configured. -/
def isConfiguring (session : Session σ ρ) : Bool := !session.registry.closed

/-- Register a build of the session under its name, in place of the one registered before. -/
def register (session : Session σ ρ) (ref : BuildRef) (build : IncludedBuild σ ρ) :
    Logged (Except RegistryError Unit × Session σ ρ) :=
  match session.registry.register build.name ref with
  | .error error => pure (.error error, session)
  | .ok registry => do
    match session.find? build.name with
    | some (_, previous) =>
      .emit .warn "replaced included build registered under the same name"
        [build.nameField, ("previous", previous.displayName), ("replacement", build.displayName)]
    | none =>
      .emit .info "registered included build" [build.nameField, ("dir", build.projectDir)]
    return (.ok (), { session with registry })

/-- Make a build with traced launchers and register it. -/
def includeBuild (session : Session σ ρ) (name : BuildId) (projectDir : String)
    (factory : LauncherFactory σ ρ) (launchers : σ) :
    Logged (Except RegistryError BuildRef × Session σ ρ) := do
  let build := { name, projectDir, factory := factory.traced name, launchers }
  let (ref, extended) := session.addBuild build
  let (result, extended) ← extended.register ref build
  match result with
  | .error error => return (.error error, session)
  | .ok _ => return (.ok ref, extended)

/-- Declare that `source` needs a task of another build, and queue the task there. -/
def addTask (session : Session σ ρ) (source : BuildId) (reference : TaskReference) :
    Logged (Except RegistryError Unit × Session σ ρ) := do
  let target := reference.build
  let (result, registry) := session.registry.addDependency source target
  let session := { session with registry }
  match result with
  | .error (.cycle chain) =>
    .emit .error "rejected cross-build dependency"
      [("source", source.text), ("target", target.text), ("cycle", describeCycle chain)]
    return (.error (.cycle chain), session)
  | .error error => return (.error error, session)
  | .ok ref =>
    .emit .debug "added cross-build task"
      [("source", source.text), ("target", target.text), ("task", reference.path.text)]
    match session.build? ref with
    | none => return (.error (.unknownBuild target), session)
    | some build => return (.ok (), session.setBuild ref (← build.queue [reference.path]))

/-- The builds that `source` depends on. -/
def dependenciesOf (session : Session σ ρ) (source : BuildId) : List BuildId :=
  session.registry.dependencies.targets source

/-- End the configuration, if that has not been done. -/
def close (session : Session σ ρ) : Logged (Session σ ρ) := do
  if session.isConfiguring then .emit .debug "closed composite configuration" []
  return { session with registry := session.registry.close }

/-! ### Awaiting a build of the session -/

/-- Let a call of await act on the build that a reference stands for. -/
def act (session : Session σ ρ) (ref : BuildRef)
    (action : IncludedBuild σ ρ → Logged (Phase ρ × IncludedBuild σ ρ)) :
    Logged (Option (Phase ρ) × Session σ ρ) :=
  match session.build? ref with
  | none => pure (none, session)
  | some build => do
    let (phase, build) ← action build
    return (some phase, session.setBuild ref build)

end Session

end CompositeBuild
