import CompositeBuild.Scenario.Answer
import CompositeBuild.Session.Resolve
import CompositeBuild.Session.Start

/-!
# The world of a scenario

The steps of a scenario act on one composite build, on the handles of its builds, on the task sets
of its consuming builds and on the gates that hold runs.  `World.perform` has the steps that are
answered at once.  Those that may have to wait are in `CompositeBuild.Scenario.Activity`.
-/

namespace CompositeBuild

/-- A gate that holds the first run that comes to it until it is opened. -/
structure Gate where
  /-- Whether a run has come to the gate. -/
  reached : Bool := false
  opened : Bool := false
  deriving Repr

/-- What the steps of a scenario act on. -/
structure World where
  session : Session Launchers LauncherRun := {}
  handles : NameMap BuildRef := .empty
  owners : NameMap BuildTasks := .empty
  /-- The builds that were named as the source of a dependency. -/
  sources : List BuildId := []
  gates : List Gate := []
  deriving Inhabited

namespace World

/-! ### Looking around -/

/-- The tasks of an owner, empty if the owner is new. -/
def tasksOf (world : World) (owner : String) : BuildTasks :=
  (world.owners.get? owner).getD { owner := ⟨owner⟩ }

/-- Keep the tasks of an owner. -/
def setTasks (world : World) (owner : String) (tasks : BuildTasks) : World :=
  { world with owners := world.owners.insert owner tasks }

/-- Replace the build of a reference. -/
def setBuild (world : World) (ref : BuildRef) (build : ScenarioBuild) : World :=
  { world with session := world.session.setBuild ref build }

/-- Change the launchers of the build of a reference. -/
def updateLaunchers (world : World) (ref : BuildRef) (update : Launchers → Launchers) : World :=
  match world.session.build? ref with
  | none => world
  | some build => world.setBuild ref { build with launchers := update build.launchers }

/-- Everything that is shown of the world. -/
def snapshot (world : World) : Snapshot where
  builds := world.session.registered.map fun (_, build) =>
    { name := build.name, dir := build.projectDir, pending := build.pending, state := build.state }
  edges := world.sources.map fun source => (source, world.session.dependenciesOf source)
  tasks := world.owners.values
  configuring := world.session.isConfiguring

/-- The answer to a step that names a build by an unbound handle. -/
def noHandle (handle : String) : Answer := .panicked s!"no handle '{handle}'"

/-! ### Steps that are answered at once -/

/-- An answer and the world after it. -/
abbrev Performed := Logged (Answer × World)

/-- Go on with the build of a handle. -/
def withBuild (world : World) (handle : String) (next : BuildRef → ScenarioBuild → Performed) :
    Performed :=
  match world.handles.get? handle with
  | none => pure (noHandle handle, world)
  | some ref =>
    match world.session.build? ref with
    | none => pure (noHandle handle, world)
    | some build => next ref build

/-- Go on with the task path that a text stands for. -/
def withPath (world : World) (path : String) (next : TaskPath → Performed) : Performed :=
  match TaskPath.parse path with
  | .error error => pure (.unqualified error, world)
  | .ok path => next path

/-- Go on with the task paths that texts stand for. -/
def withPaths (world : World) (paths : List String) (next : List TaskPath → Performed) :
    Performed :=
  match TaskPath.parseAll paths with
  | .error error => pure (.unqualified error, world)
  | .ok paths => next paths

/-- The answer that a part of a build gives about itself. -/
def ask (world : World) (handle : String) (answer : ScenarioBuild → Answer) : Performed :=
  world.withBuild handle fun _ build => pure (answer build, world)

/-- Script the launchers of a build. -/
def script (world : World) (handle : String) (update : Launchers → Launchers) : Performed :=
  world.withBuild handle fun ref _ => pure (.done, world.updateLaunchers ref update)

/-- The scripted launchers of a new build. -/
def launchersOf (spec : BuildSpec) (tasks : List TaskPath) : Launchers :=
  .ofProject (spec.rootProject.getD spec.name) tasks

/-- Bind the handle of a new build. -/
def bindHandle (world : World) (spec : BuildSpec) (ref : BuildRef) : World :=
  { world with handles := world.handles.insert (spec.handle.getD spec.name) ref }

/-- Include a new build. -/
def includeBuild (world : World) (spec : BuildSpec) : Performed :=
  world.withPaths spec.tasks fun tasks => do
    let (result, session) ← world.session.includeBuild ⟨spec.name⟩ spec.dir
      ScriptedLaunchers.factory (launchersOf spec tasks)
    let world := { world with session }
    match result with
    | .error error => return (.refused error, world)
    | .ok ref =>
      let name := ((session.build? ref).map (·.displayName)).getD ""
      return (.made name, world.bindHandle spec ref)

/-- Make a build without registering it. -/
def makeBuild (world : World) (spec : BuildSpec) : Performed :=
  world.withPaths spec.tasks fun tasks => do
    let build : ScenarioBuild :=
      { name := ⟨spec.name⟩, projectDir := spec.dir, factory := ScriptedLaunchers.factory
        launchers := launchersOf spec tasks }
    let (ref, session) := world.session.addBuild build
    return (.made build.displayName, { world with session }.bindHandle spec ref)

/-- Find a registered build and all handles that are bound to it. -/
def findBuild (world : World) (name : String) : Answer :=
  match world.session.find? ⟨name⟩ with
  | none => .notRegistered
  | some (ref, build) =>
    let handles := world.handles.entries.filterMap fun (handle, bound) =>
      if bound = ref then some handle else none
    .registered build.name build.displayName handles

/-- Declare a dependency. -/
def addTask (world : World) (source target path : String) : Performed :=
  world.withPath path fun path => do
    let source : BuildId := ⟨source⟩
    let sources :=
      if source ∈ world.sources then world.sources else world.sources ++ [source]
    let (result, session) ← world.session.addTask source { build := ⟨target⟩, path }
    let world := { world with session, sources }
    match result with
    | .error error => return (.refused error, world)
    | .ok _ => return (.done, world)

/-- Settle the rules of a build and look modules up. -/
def resolveSubstitutions (world : World) (handle : String) (modules : List String) : Performed :=
  world.withBuild handle fun ref build => do
    let (outcome, build) ← build.resolveSubstitutions
    let world := world.setBuild ref build
    match outcome with
    | .returned subs => return (.substitutions subs modules, world)
    | .failed error => return (.notSubstituted error, world)
    | .panicked message => return (.panicked message, world)

/-- Add a task to the tasks of an owner. -/
def addToOwner (world : World) (owner : String) (task : Task) : Performed := do
  let tasks := world.tasksOf owner
  match ← tasks.add task with
  | .error error => return (.notResolved error, world.setTasks owner tasks)
  | .ok tasks => return (.added task, world.setTasks owner tasks)

/-- Resolve a reference into the tasks of an owner. -/
def resolve (world : World) (owner build path : String) (blind : Bool) : Performed :=
  world.withPath path fun path => do
    let tasks := world.tasksOf owner
    let container := BuildTasks.container
    let known := tasks.delegates
    let (result, session) ← world.session.resolve (if blind then container.blind else container)
      { build := ⟨build⟩, path } tasks
    let world := { world with session }
    match result with
    | .error error => return (.notResolved error, world.setTasks owner tasks)
    | .ok (delegate, tasks) =>
      return (.resolved delegate (delegate ∈ known), world.setTasks owner tasks)

/-- What a launcher's answer comes to. -/
def ofLoad {α : Type} (answer : α → Answer) : Outcome BuildFailure α → Answer
  | .returned value => answer value
  | .failed failure => .failed failure
  | .panicked message => .panicked message

/-- Look at the tasks of an owner. -/
def askOwner (world : World) (owner : String) (answer : BuildTasks → Answer) : Performed :=
  let tasks := world.tasksOf owner
  pure (answer tasks, world.setTasks owner tasks)

/-- Perform a step that is answered at once.  A step that may have to wait is not understood. -/
def perform (world : World) : Step → Performed
  | .includeBuild spec => world.includeBuild spec
  | .makeBuild spec => world.makeBuild spec
  | .register handle => world.withBuild handle fun ref build => do
    let (result, session) ← world.session.register ref build
    match result with
    | .error error => return (.refused error, { world with session })
    | .ok _ => return (.done, { world with session })
  | .findBuild name => pure (world.findBuild name, world)
  | .listBuilds =>
    pure (.builds (world.session.registered.map fun (_, build) => (build.name, build.displayName)),
      world)
  | .addTask source target path => world.addTask source target path
  | .dependenciesOf source => pure (.targets (world.session.dependenciesOf ⟨source⟩), world)
  | .close => do return (.done, { world with session := ← world.session.close })
  | .beginExecution => do
    let (outcome, session) ← world.session.beginExecution
    let answer := match outcome with
      | .returned _ => .done
      | .failed (.registry error) => .refused error
      | .failed (.substitution error) => .notSubstituted error
      | .panicked message => .panicked message
    return (answer, { world with session })
  | .isConfiguring => pure (.configuring world.session.isConfiguring, world)
  | .snapshot => pure (.snapshot world.snapshot, world)
  | .taskOf handle path => world.withBuild handle fun _ build =>
    match build.task path with
    | .error error => pure (.unqualified error, world)
    | .ok reference => pure (.reference reference, world)
  | .queue handle paths => world.withBuild handle fun ref build =>
    world.withPaths paths fun paths => do
      let build ← build.queue paths
      return (.pending build.pending, world.setBuild ref build)
  | .queueAndPanic handle paths => world.withBuild handle fun ref build =>
    world.withPaths paths fun paths =>
      pure (.panicked "task source failed", world.setBuild ref (build.queueAndPoison paths))
  | .state handle => world.ask handle fun build => .state build.state
  | .pending handle => world.ask handle fun build => .pending build.pending
  | .hasExecuted handle paths => world.withBuild handle fun _ build =>
    world.withPaths paths fun paths => pure (.executed (paths.map build.hasExecuted), world)
  | .settings handle => world.withBuild handle fun ref build => do
    let (outcome, build) ← build.loadedSettings
    return (ofLoad .settings outcome, world.setBuild ref build)
  | .configured handle => world.withBuild handle fun ref build => do
    let (outcome, build) ← build.configuredBuild
    return (ofLoad .configured outcome, world.setBuild ref build)
  | .describe handle => world.ask handle fun build =>
    .description build.name build.projectDir build.displayName
  | .recorder handle => world.ask handle fun build => .recorder build.launchers
  | .failRun handle failure => world.script handle fun launchers => launchers.failNextRun failure
  | .troubleSettings handle trouble => world.script handle fun launchers =>
    { launchers with settingsTroubles := launchers.settingsTroubles ++ [trouble] }
  | .troubleConfigure handle trouble => world.script handle fun launchers =>
    { launchers with configureTroubles := launchers.configureTroubles ++ [trouble] }
  | .onRun handle steps => world.script handle fun launchers =>
    { launchers with hook := some (.script handle steps) }
  | .substitute handle rules panic => world.withBuild handle fun ref build =>
    match build.registerSubstitution (.ofRules rules panic) with
    | .error error => pure (.notSubstituted error, world)
    | .ok build => pure (.done, world.setBuild ref build)
  | .resolveSubstitutions handle modules => world.resolveSubstitutions handle modules
  | .addAction owner name failure =>
    world.addToOwner owner (.action name (failure.elim (.ok ()) .error))
  | .addDelegate owner build =>
    let session := world.session
    let world := { world with session := { session with delegates := session.delegates + 1 } }
    world.addToOwner owner (.delegate { number := session.delegates, build := ⟨build⟩ })
  | .resolve owner build path blind => world.resolve owner build path blind
  | .findTask owner name => world.askOwner owner fun tasks => .task (tasks.find? name)
  | .listTasks owner => world.askOwner owner .tasks
  | .inspectBuild handle => world.ask handle fun build => .inspected build.inspect
  | .inspectTasks owner => world.askOwner owner fun tasks => .inspected tasks.inspect
  | .panic _ => pure (.panicsLater, world)
  | .work _ | .executeAll _ | .concurrent .. | .unknown => pure (.notUnderstood, world)

end World

end CompositeBuild
