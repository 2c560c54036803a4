import CompositeBuild.Launcher.Traced
import CompositeBuild.Proofs.Await.Agreement
import CompositeBuild.Proofs.Launchers.Custody

/-!
# Tracing is transparent

A factory shows another one if it answers every call in the same way and what is seen of its state
is the state of the other (`LauncherFactory.Shows`).  A traced factory shows the factory inside it,
and that one the traced one: nothing but the log tells them apart.  A watched factory shows the
factory inside it to whoever does not look at the record.

What is shown by a factory is shown by a build over it, and by its callers: each step of the one is
the step of the other (`Callers.step_seen`), so each run is (`Callers.run_seen`).  The same holds
for whoever calls the factory and its launchers directly (`Client.call_seen`).

A record tells which calls a factory got only if nothing else touches it.  So an action that changes
the state of launchers changes the state that is watched and leaves the record alone
(`Callers.stepWatched`).
-/

namespace CompositeBuild

variable {σ τ ρ : Type}

namespace Watched

/-- Another state with the same record. -/
def withState (launchers : Watched σ) (state : σ) : Watched σ := { launchers with state }

@[simp] theorem state_comp_withState (launchers : Watched σ) :
    Watched.state ∘ launchers.withState = id := rfl

end Watched

/-! ### Factories that show others -/

namespace LauncherFactory

/-- The first factory answers every call as the other one does, and what is seen of its state is the
state of the other one. -/
structure Shows (one : LauncherFactory σ ρ) (view : σ → τ) (other : LauncherFactory τ ρ) :
    Prop where
  create (state : σ) :
    (other.create (view state)).value = (one.create state).value.map id view
  loadSettings (launcher : LauncherId) (state : σ) :
    (other.loadSettings launcher (view state)).value =
      (one.loadSettings launcher state).value.map id view
  configure (launcher : LauncherId) (state : σ) :
    (other.configure launcher (view state)).value =
      (one.configure launcher state).value.map id view
  request (launcher : LauncherId) (tasks : List TaskPath) (state : σ) :
    (other.request launcher tasks (view state)).value =
      view (one.request launcher tasks state).value
  beginRun (launcher : LauncherId) (state : σ) :
    (other.beginRun launcher (view state)).value =
      (one.beginRun launcher state).value.map id view
  endRun (launcher : LauncherId) (run : ρ) (state : σ) :
    (other.endRun launcher run (view state)).value =
      (one.endRun launcher run state).value.map id view

/-! A traced call answers as the call inside it does, and leaves the same state. -/

section Tracing

variable (factory : LauncherFactory σ ρ) (tracer : BuildId) (launcher : LauncherId) (state : σ)

@[simp] theorem traced_create :
    ((factory.traced tracer).create state).value = (factory.create state).value := rfl

@[simp] theorem traced_loadSettings :
    ((factory.traced tracer).loadSettings launcher state).value =
      (factory.loadSettings launcher state).value := by
  simp only [traced, Logged.within_value, Logged.bind_value]
  split <;> rfl

@[simp] theorem traced_configure :
    ((factory.traced tracer).configure launcher state).value =
      (factory.configure launcher state).value := by
  simp only [traced, Logged.within_value, Logged.bind_value]
  split <;> rfl

@[simp] theorem traced_request (tasks : List TaskPath) :
    ((factory.traced tracer).request launcher tasks state).value =
      (factory.request launcher tasks state).value := rfl

@[simp] theorem traced_beginRun :
    ((factory.traced tracer).beginRun launcher state).value =
      (factory.beginRun launcher state).value := rfl

@[simp] theorem traced_endRun (run : ρ) :
    ((factory.traced tracer).endRun launcher run state).value =
      (factory.endRun launcher run state).value := by
  simp only [traced, Logged.within_value, Logged.bind_value]
  split <;> rfl

end Tracing

/-- Nothing is to be seen of tracing. -/
theorem shows_traced (factory : LauncherFactory σ ρ) (tracer : BuildId) :
    factory.Shows id (factory.traced tracer) where
  create state := by simp
  loadSettings launcher state := by simp
  configure launcher state := by simp
  request launcher tasks state := by simp
  beginRun launcher state := by simp
  endRun launcher run state := by simp

/-- Nothing is to be seen of watching, but for the record. -/
theorem watched_shows (factory : LauncherFactory σ ρ) :
    factory.watched.Shows Watched.state factory where
  create _ := rfl
  loadSettings _ _ := rfl
  configure _ _ := rfl
  request _ _ _ := rfl
  beginRun _ _ := rfl
  endRun _ _ _ := rfl

/-- What a factory shows it shows when it is traced. -/
theorem Shows.traced {one : LauncherFactory σ ρ} {view : σ → τ} {other : LauncherFactory τ ρ}
    (shows : one.Shows view other) (tracer : BuildId) :
    (one.traced tracer).Shows view (other.traced tracer) where
  create state := by simpa using shows.create state
  loadSettings launcher state := by simpa using shows.loadSettings launcher state
  configure launcher state := by simpa using shows.configure launcher state
  request launcher tasks state := by simpa using shows.request launcher tasks state
  beginRun launcher state := by simpa using shows.beginRun launcher state
  endRun launcher run state := by simpa using shows.endRun launcher run state

end LauncherFactory

/-! ### Builds that show others -/

namespace IncludedBuild

/-- What is seen of a build, over another factory. -/
def seen (build : IncludedBuild σ ρ) (view : σ → τ) (factory : LauncherFactory τ ρ) :
    IncludedBuild τ ρ where
  name := build.name
  projectDir := build.projectDir
  factory
  launchers := view build.launchers
  schedule := build.schedule
  slot := build.slot
  substitutions := build.substitutions

section Schedule

variable (build : IncludedBuild σ ρ) (view : σ → τ) (factory : LauncherFactory τ ρ)

/-- A call of await that begins is seen to begin. -/
theorem enter_seen :
    (build.seen view factory).enter.value = build.enter.value.map id (·.seen view factory) := by
  by_cases busy : build.schedule.executing = true
  · rw [enter_of_executing build busy, enter_of_executing (build.seen view factory) busy]
    rfl
  · have idle : build.schedule.executing = false := by simpa using busy
    rw [enter_of_idle build idle, enter_of_idle (build.seen view factory) idle]
    rfl

/-- A call of await that wakes is seen to wake. -/
theorem wake_seen :
    (build.seen view factory).wake.value = build.wake.value.map id (·.seen view factory) := by
  by_cases poisoned : build.schedule.poisoned = true
  · simp [wake, seen, poisoned]
  · by_cases busy : build.schedule.executing = true
    · simp [wake, seen, poisoned, busy]
    · simp [wake, seen, poisoned, busy]

/-- A panic while a launcher is made is seen as one. -/
theorem abort_seen (message : String) (phase : Phase ρ) :
    (build.seen view factory).abort message phase =
      (build.abort message phase).map id (·.seen view factory) := by
  cases phase with
  | claimed claim =>
    by_cases idle : claim.fresh = [] ∨ build.slot.launcher.isSome
    · simp [abort, seen, idle]
    · simp [abort, seen, idle]
  | _ => rfl

end Schedule

variable {build : IncludedBuild σ ρ} {view : σ → τ} {factory : LauncherFactory τ ρ}
  (shows : build.factory.Shows view factory)

include shows

/-- A sweep is seen to take its launcher. -/
theorem takeLauncher_seen :
    (build.seen view factory).takeLauncher.value =
      build.takeLauncher.value.map id (·.seen view factory) := by
  cases here : build.slot.launcher with
  | some launcher =>
    rw [takeLauncher_held build here, takeLauncher_held (build.seen view factory) here]
    rfl
  | none =>
    rw [takeLauncher_none build here, takeLauncher_none (build.seen view factory) here]
    simp only [seen, shows.create, Prod.map, id]

/-- Making sure of a launcher is seen as the same. -/
theorem ensureLauncher_seen :
    (build.seen view factory).ensureLauncher.value =
      build.ensureLauncher.value.map id (·.seen view factory) := by
  cases here : build.slot.launcher with
  | some launcher =>
    rw [ensureLauncher_held build here, ensureLauncher_held (build.seen view factory) here]
    rfl
  | none =>
    rw [ensureLauncher_none build here, ensureLauncher_none (build.seen view factory) here]
    simp only [withNewLauncher, seen, shows.create, Prod.map, id]

/-- Loading settings through a launcher is seen as the same. -/
theorem loadThrough_seen (launcher : LauncherId) :
    (build.seen view factory).loadThrough launcher =
      (build.loadThrough launcher).map id (·.seen view factory) := by
  simp only [loadThrough, seen, shows.loadSettings, Prod.map, id]

/-- Configuring through a launcher is seen as the same. -/
theorem configureThrough_seen (launcher : LauncherId) :
    (build.seen view factory).configureThrough launcher =
      (build.configureThrough launcher).map id (·.seen view factory) := by
  simp only [configureThrough, seen, shows.configure, Prod.map, id]

/-- The factory shows what it shows when a launcher has been made. -/
theorem ensured_shows : build.ensureLauncher.value.2.factory.Shows view factory := by
  obtain ⟨slot, launchers, same⟩ := build.ensureLauncher_changes
  rwa [same]

/-- Loading settings is seen as loading settings. -/
theorem loadedSettings_seen :
    (build.seen view factory).loadedSettings.value =
      build.loadedSettings.value.map id (·.seen view factory) := by
  cases known : build.slot.settings with
  | some settings =>
    rw [loadedSettings_known build known, loadedSettings_known (build.seen view factory) known]
    rfl
  | none =>
    rw [loadedSettings_unknown build known,
      loadedSettings_unknown (build.seen view factory) known, ensureLauncher_seen shows]
    exact loadThrough_seen (ensured_shows shows) _

/-- Configuring is seen as configuring. -/
theorem configuredBuild_seen :
    (build.seen view factory).configuredBuild.value =
      build.configuredBuild.value.map id (·.seen view factory) := by
  cases known : build.slot.configured with
  | some configured =>
    rw [configuredBuild_known build known, configuredBuild_known (build.seen view factory) known]
    rfl
  | none =>
    rw [configuredBuild_unknown build known,
      configuredBuild_unknown (build.seen view factory) known, ensureLauncher_seen shows]
    exact configureThrough_seen (ensured_shows shows) _

/-- The end of a run is seen as the same end. -/
theorem endRun_seen (launcher : LauncherId) (run : ρ) :
    ((build.seen view factory).endRun launcher run).value =
      (build.endRun launcher run).value.map id (·.seen view factory) := by
  simp only [endRun_value, seen, shows.endRun, Prod.map, id]

/-- A step of a call of await is seen as the same step. -/
theorem proceed_seen (phase : Phase ρ) :
    ((build.seen view factory).proceed phase).value =
      (build.proceed phase).value.map id (·.seen view factory) := by
  cases phase with
  | waiting => exact build.wake_seen view factory
  | claimed claim =>
    simp only [proceed]
    by_cases nothing : claim.fresh = []
    · rw [nothing, launch_nil, launch_nil]
      rfl
    · rw [launch_of_ne_nil _ nothing, launch_of_ne_nil _ nothing, takeLauncher_seen shows]
      rfl
  | launching launcher tasks =>
    simp only [proceed, seen, Logged.within_value, Logged.bind_value, shows.request]
    rfl
  | requested launcher =>
    simp only [proceed, seen, Logged.within_value, Logged.bind_value, shows.beginRun]
    rfl
  | running launcher run => exact endRun_seen shows launcher run
  | _ => rfl

end IncludedBuild

/-! ### Callers that show others -/

/-- The same step, with the state of launchers that is seen. -/
def SideStep.map (f : σ → τ) : SideStep σ → SideStep τ
  | .queue paths => .queue paths
  | .queueAndPoison paths => .queueAndPoison paths
  | .loadSettings => .loadSettings
  | .configure => .configure
  | .registerSubstitution action => .registerSubstitution action
  | .resolveSubstitutions => .resolveSubstitutions
  | .changeLaunchers launchers => .changeLaunchers (f launchers)

/-- The same action, with the state of launchers that is seen. -/
def Action.map (f : σ → τ) : Action σ → Action τ
  | .enter => .enter
  | .proceed caller => .proceed caller
  | .wake caller => .wake caller
  | .unwind caller message => .unwind caller message
  | .abort caller message => .abort caller message
  | .beside step => .beside (step.map f)

namespace Action

@[simp] theorem map_id (action : Action σ) : action.map id = action := by
  cases action with
  | beside side => cases side <;> rfl
  | _ => rfl

@[simp] theorem map_map {υ : Type} (f : σ → τ) (g : τ → υ) (action : Action σ) :
    (action.map f).map g = action.map (g ∘ f) := by
  cases action with
  | beside side => cases side <;> rfl
  | _ => rfl

end Action

/-- What happens beside the calls of await is seen to happen. -/
theorem SideStep.apply_seen {build : IncludedBuild σ ρ} {view : σ → τ}
    {factory : LauncherFactory τ ρ} (shows : build.factory.Shows view factory)
    (side : SideStep σ) :
    (side.map view).apply (build.seen view factory) = (side.apply build).seen view factory := by
  cases side with
  | loadSettings =>
    simp only [SideStep.map, apply, IncludedBuild.loadedSettings_seen shows, Prod.map]
  | configure =>
    simp only [SideStep.map, apply, IncludedBuild.configuredBuild_seen shows, Prod.map]
  | registerSubstitution action =>
    simp only [SideStep.map, apply, IncludedBuild.registerSubstitution, IncludedBuild.seen]
    cases build.substitutions.register action <;> rfl
  | resolveSubstitutions =>
    simp only [SideStep.map, apply, IncludedBuild.resolveSubstitutions_build]
    rfl
  | _ => rfl

namespace Callers

/-- What is seen of a build with its callers, over another factory. -/
def seen (callers : Callers σ ρ) (view : σ → τ) (factory : LauncherFactory τ ρ) :
    Callers τ ρ where
  build := callers.build.seen view factory
  calls := callers.calls
  history := callers.history

variable {callers : Callers σ ρ} {view : σ → τ} {factory : LauncherFactory τ ρ}

@[simp] theorem seen_calls : (callers.seen view factory).calls = callers.calls := rfl

/-- **Every step is seen as the same step.** -/
theorem step_seen (shows : callers.build.factory.Shows view factory) (action : Action σ) :
    (callers.seen view factory).step (action.map view) =
      (callers.step action).seen view factory := by
  cases action with
  | enter => simp only [Action.map, step, enter, seen, IncludedBuild.enter_seen, Prod.map, id]
  | proceed caller =>
    simp only [Action.map, step, seen_calls]
    split
    · simp only [proceed, seen, IncludedBuild.proceed_seen shows, Prod.map, id]
      split <;> rfl
    · rfl
  | abort caller message =>
    simp only [Action.map, step, seen_calls]
    split
    · simp only [seen, IncludedBuild.abort_seen, Prod.map, id]
      rfl
    · rfl
  | beside side =>
    simp only [Action.map, step]
    rw [seen, SideStep.apply_seen shows]
    cases side <;> rfl
  | _ =>
    simp only [Action.map, step, seen_calls]
    split <;> rfl

/-- Every run is seen as the same run. -/
theorem run_seen (callers : Callers σ ρ) (shows : callers.build.factory.Shows view factory)
    (actions : List (Action σ)) :
    (callers.seen view factory).run (actions.map (Action.map view)) =
      (callers.run actions).seen view factory := by
  induction actions generalizing callers with
  | nil => rfl
  | cons action actions ih =>
    rw [List.map_cons, run, List.foldl_cons, step_seen shows, ← run,
      ih _ (by rwa [callers.step_factory action])]
    rfl

/-- Let something happen over a watched factory.  Its record is left to the calls that it gets. -/
def stepWatched (callers : Callers (Watched σ) ρ) (action : Action σ) : Callers (Watched σ) ρ :=
  callers.step (action.map callers.build.launchers.withState)

/-- Let things happen one after the other over a watched factory. -/
def runWatched (callers : Callers (Watched σ) ρ) (actions : List (Action σ)) :
    Callers (Watched σ) ρ :=
  actions.foldl stepWatched callers

/-- Nothing that happens over a watched factory changes the factory of the build. -/
theorem stepWatched_factory (callers : Callers (Watched σ) ρ) (action : Action σ) :
    (callers.stepWatched action).build.factory = callers.build.factory :=
  callers.step_factory _

/-- Whoever does not look at the record sees the same run over the factory that is watched. -/
theorem runWatched_seen_state (callers : Callers (Watched σ) ρ) {factory : LauncherFactory σ ρ}
    (shows : callers.build.factory.Shows Watched.state factory) (actions : List (Action σ)) :
    (callers.runWatched actions).seen Watched.state factory =
      (callers.seen Watched.state factory).run actions := by
  induction actions generalizing callers with
  | nil => rfl
  | cons action actions ih =>
    have undone : (action.map callers.build.launchers.withState).map Watched.state = action := by
      rw [Action.map_map, Watched.state_comp_withState, Action.map_id]
    rw [runWatched, List.foldl_cons, ← runWatched, ih _ (by rwa [stepWatched_factory]), stepWatched,
      ← step_seen shows, undone]
    rfl

/-- Factories that cannot be told apart get the same calls, and leave the same record. -/
theorem runWatched_seen_id (callers : Callers (Watched σ) ρ)
    {factory : LauncherFactory (Watched σ) ρ} (shows : callers.build.factory.Shows id factory)
    (actions : List (Action σ)) :
    (callers.runWatched actions).seen id factory =
      (callers.seen id factory).runWatched actions := by
  induction actions generalizing callers with
  | nil => rfl
  | cons action actions ih =>
    rw [runWatched, List.foldl_cons, ← runWatched, ih _ (by rwa [stepWatched_factory]), stepWatched,
      ← step_seen shows, Action.map_map]
    rfl

end Callers

/-! ### Direct calls -/

/-- Something that is asked of a factory and its launchers directly.  Runs in progress are given by
their places, the oldest first. -/
inductive DirectCall (σ : Type) where
  | create
  | loadSettings (launcher : LauncherId)
  | configure (launcher : LauncherId)
  | request (launcher : LauncherId) (tasks : List TaskPath)
  | beginRun (launcher : LauncherId)
  | endRun (place : Nat)
  /-- The code that a run calls panics and cuts it short. -/
  | unwind (place : Nat) (message : String)
  /-- What the launchers will do changes. -/
  | changeLaunchers (launchers : σ)

/-- What comes of a direct call. -/
inductive DirectAnswer where
  | created (launcher : LauncherId)
  | loaded (outcome : Outcome BuildFailure Settings)
  | configured (outcome : Outcome BuildFailure ConfiguredBuild)
  | requested
  | begun
  | ran (outcome : Outcome BuildFailure BuildOutcome)

namespace DirectCall

/-- The same call, with the state of launchers that is seen. -/
def map (f : σ → τ) : DirectCall σ → DirectCall τ
  | .create => .create
  | .loadSettings launcher => .loadSettings launcher
  | .configure launcher => .configure launcher
  | .request launcher tasks => .request launcher tasks
  | .beginRun launcher => .beginRun launcher
  | .endRun place => .endRun place
  | .unwind place message => .unwind place message
  | .changeLaunchers launchers => .changeLaunchers (f launchers)

@[simp] theorem map_id (asked : DirectCall σ) : asked.map id = asked := by
  cases asked <;> rfl

@[simp] theorem map_map {υ : Type} (f : σ → τ) (g : τ → υ) (asked : DirectCall σ) :
    (asked.map f).map g = asked.map (g ∘ f) := by
  cases asked <;> rfl

end DirectCall

/-- Whoever calls a factory and its launchers directly: the state of the launchers, the runs in
progress and the answers so far, oldest first. -/
structure Client (σ ρ : Type) where
  launchers : σ
  runs : List (LauncherId × ρ) := []
  answers : List DirectAnswer := []

namespace Client

/-- One more answer, and the state of the launchers after it. -/
def note (client : Client σ ρ) (answer : DirectAnswer) (launchers : σ) : Client σ ρ :=
  { client with launchers, answers := client.answers ++ [answer] }

/-- Make a call.  What is asked of a run that is not in progress does nothing. -/
def call (factory : LauncherFactory σ ρ) (client : Client σ ρ) : DirectCall σ → Client σ ρ
  | .create =>
    let (launcher, launchers) := (factory.create client.launchers).value
    client.note (.created launcher) launchers
  | .loadSettings launcher =>
    let (outcome, launchers) := (factory.loadSettings launcher client.launchers).value
    client.note (.loaded outcome) launchers
  | .configure launcher =>
    let (outcome, launchers) := (factory.configure launcher client.launchers).value
    client.note (.configured outcome) launchers
  | .request launcher tasks =>
    client.note .requested (factory.request launcher tasks client.launchers).value
  | .beginRun launcher =>
    let (run, launchers) := (factory.beginRun launcher client.launchers).value
    { client.note .begun launchers with runs := client.runs ++ [(launcher, run)] }
  | .endRun place =>
    match client.runs[place]? with
    | some (launcher, run) =>
      let (outcome, launchers) := (factory.endRun launcher run client.launchers).value
      { client.note (.ran outcome) launchers with runs := client.runs.eraseIdx place }
    | none => client
  | .unwind place message =>
    match client.runs[place]? with
    | some _ =>
      { client.note (.ran (.panicked message)) client.launchers with
        runs := client.runs.eraseIdx place }
    | none => client
  | .changeLaunchers launchers => { client with launchers }

/-- Make calls one after the other. -/
def callAll (factory : LauncherFactory σ ρ) (client : Client σ ρ) (calls : List (DirectCall σ)) :
    Client σ ρ :=
  calls.foldl (call factory) client

/-- Make a call of a watched factory.  Its record is left to the calls that it gets. -/
def callWatched (factory : LauncherFactory (Watched σ) ρ) (client : Client (Watched σ) ρ)
    (asked : DirectCall σ) : Client (Watched σ) ρ :=
  client.call factory (asked.map client.launchers.withState)

/-- Make calls of a watched factory one after the other. -/
def callAllWatched (factory : LauncherFactory (Watched σ) ρ) (client : Client (Watched σ) ρ)
    (calls : List (DirectCall σ)) : Client (Watched σ) ρ :=
  calls.foldl (callWatched factory) client

/-- What is seen of a client. -/
def seen (client : Client σ ρ) (view : σ → τ) : Client τ ρ where
  launchers := view client.launchers
  runs := client.runs
  answers := client.answers

@[simp] theorem seen_id (client : Client σ ρ) : client.seen id = client := rfl

/-- Every direct call is seen as the same call. -/
theorem call_seen {one : LauncherFactory σ ρ} {view : σ → τ} {other : LauncherFactory τ ρ}
    (shows : one.Shows view other) (client : Client σ ρ) (asked : DirectCall σ) :
    (client.seen view).call other (asked.map view) = (client.call one asked).seen view := by
  cases asked with
  | create => simp only [DirectCall.map, call, seen, note, shows.create, Prod.map, id]
  | loadSettings launcher =>
    simp only [DirectCall.map, call, seen, note, shows.loadSettings, Prod.map, id]
  | configure launcher =>
    simp only [DirectCall.map, call, seen, note, shows.configure, Prod.map, id]
  | request launcher tasks =>
    simp only [DirectCall.map, call, seen, note, shows.request]
  | beginRun launcher =>
    simp only [DirectCall.map, call, seen, note, shows.beginRun, Prod.map, id]
  | endRun place =>
    simp only [DirectCall.map, call, seen]
    cases client.runs[place]? with
    | none => rfl
    | some found => simp only [note, shows.endRun, Prod.map, id]
  | unwind place message =>
    simp only [DirectCall.map, call, seen]
    cases client.runs[place]? <;> rfl
  | changeLaunchers launchers => rfl

/-- Whoever does not look at the record sees the same calls of the factory that is watched. -/
theorem callAllWatched_seen_state {factory : LauncherFactory (Watched σ) ρ}
    {inner : LauncherFactory σ ρ} (shows : factory.Shows Watched.state inner)
    (client : Client (Watched σ) ρ) (calls : List (DirectCall σ)) :
    (client.callAllWatched factory calls).seen Watched.state =
      (client.seen Watched.state).callAll inner calls := by
  induction calls generalizing client with
  | nil => rfl
  | cons asked calls ih =>
    have undone : (asked.map client.launchers.withState).map Watched.state = asked := by
      rw [DirectCall.map_map, Watched.state_comp_withState, DirectCall.map_id]
    rw [callAllWatched, List.foldl_cons, ← callAllWatched, ih, callWatched, ← call_seen shows,
      undone]
    rfl

/-- Factories that cannot be told apart give the same answers. -/
theorem callAll_congr {one other : LauncherFactory σ ρ} (shows : one.Shows id other)
    (client : Client σ ρ) (calls : List (DirectCall σ)) :
    client.callAll other calls = client.callAll one calls := by
  have same : call other = call one := by
    funext client asked
    simpa using call_seen shows client asked
  rw [callAll, callAll, same]

/-- Factories that cannot be told apart get the same calls, and leave the same record. -/
theorem callAllWatched_congr {one other : LauncherFactory (Watched σ) ρ}
    (shows : one.Shows id other) (client : Client (Watched σ) ρ) (calls : List (DirectCall σ)) :
    client.callAllWatched other calls = client.callAllWatched one calls := by
  have same : callWatched other = callWatched one := by
    funext client asked
    simpa [callWatched] using call_seen shows client (asked.map client.launchers.withState)
  rw [callAllWatched, callAllWatched, same]

end Client

namespace Callers

/-- **Tracing is transparent.**  Whatever happens to a build with its callers, over a traced factory
it ends up as over the factory itself: the same calls of await with the same results, failures and
panics, the same schedule and slot, the same launchers, and the same history; and loading the models
gives the same answers from there.  If the factory is watched behind the tracing, it records the
same calls of itself and its launchers, and watching changes nothing else either.

The same holds for whoever makes any calls of the factory and its launchers directly, with any
number of launchers and of runs in progress. -/
theorem tracing_is_transparent (factory : LauncherFactory σ ρ) (tracer name : BuildId)
    (projectDir : String) (launchers : σ) (actions : List (Action σ))
    (calls : List (DirectCall σ)) :
    (let plain := (start name projectDir factory launchers).run actions
      let traced := (start name projectDir (factory.traced tracer) launchers).run actions
      let watched :=
        (start name projectDir factory.watched { state := launchers }).runWatched actions
      let tracedWatched :=
        (start name projectDir (factory.watched.traced tracer) { state := launchers }).runWatched
          actions
      traced = { plain with build := { plain.build with factory := factory.traced tracer } } ∧
      traced.build.loadedSettings.value.1 = plain.build.loadedSettings.value.1 ∧
      traced.build.configuredBuild.value.1 = plain.build.configuredBuild.value.1 ∧
      tracedWatched.build.launchers.calls = watched.build.launchers.calls ∧
      watched.seen Watched.state factory = plain ∧
      tracedWatched.seen Watched.state (factory.traced tracer) = traced) ∧
    (let client : Client σ ρ := { launchers }
      let watched : Client (Watched σ) ρ := { launchers := { state := launchers } }
      client.callAll (factory.traced tracer) calls = client.callAll factory calls ∧
      (watched.callAllWatched (factory.watched.traced tracer) calls).launchers.calls =
        (watched.callAllWatched factory.watched calls).launchers.calls ∧
      (watched.callAllWatched factory.watched calls).seen Watched.state =
        client.callAll factory calls ∧
      (watched.callAllWatched (factory.watched.traced tracer) calls).seen Watched.state =
        client.callAll (factory.traced tracer) calls) := by
  refine ⟨?_, ?_⟩
  · intro plain traced watched tracedWatched
    have unchanged : plain.build.factory = factory := run_factory _ actions
    have shows : plain.build.factory.Shows id (factory.traced tracer) :=
      unchanged ▸ factory.shows_traced tracer
    have runs : traced = plain.seen id (factory.traced tracer) := by
      have run := (start name projectDir factory launchers).run_seen
        (factory.shows_traced tracer) actions
      rwa [List.map_id'' Action.map_id] at run
    have records : tracedWatched = watched.seen id (factory.watched.traced tracer) :=
      ((start name projectDir factory.watched { state := launchers }).runWatched_seen_id
        (factory.watched.shows_traced tracer) actions).symm
    refine ⟨runs, ?_, ?_, ?_, ?_, ?_⟩
    · rw [runs, seen, IncludedBuild.loadedSettings_seen shows]
      rfl
    · rw [runs, seen, IncludedBuild.configuredBuild_seen shows]
      rfl
    · rw [records]
      rfl
    · exact runWatched_seen_state _ factory.watched_shows actions
    · exact runWatched_seen_state _ (factory.watched_shows.traced tracer) actions
  · intro client watched
    refine ⟨Client.callAll_congr (factory.shows_traced tracer) client calls, ?_, ?_, ?_⟩
    · rw [Client.callAllWatched_congr (factory.watched.shows_traced tracer) watched calls]
    · exact Client.callAllWatched_seen_state factory.watched_shows watched calls
    · exact Client.callAllWatched_seen_state (factory.watched_shows.traced tracer) watched calls

end Callers

end CompositeBuild
