import CompositeBuild.Build.Await
import CompositeBuild.Proofs.Launchers.Slot

/-!
# The course of a call of await

`Phase.Step` lists every step that a call of await can take, with what the step does to the
schedule of its build.  `IncludedBuild.proceed_step` says that a call takes no others, so what is
proved of `Phase.Step` holds of every call.

The bookkeeping of a schedule follows from the list: whatever step a call takes, the flag and the
count of the schedule change exactly as the call takes up or gives up the sweep, or begins or ends
to wait (`Phase.Step.executing_add`, `Phase.Step.waiting_add`).

The steps that happen beside the calls of await are the `SideStep`s of a build.  They never touch
the flag or the count.
-/

namespace CompositeBuild

variable {σ ρ : Type}

/-! ### Where a call stands -/

namespace Phase

/-- A call that waits for the sweep of another call. -/
def isWaiting : Phase ρ → Bool
  | .waiting => true
  | _ => false

/-- A call whose launcher runs. -/
def isRunning : Phase ρ → Bool
  | .running _ _ => true
  | _ => false

/-- A call that has still to release the schedule and nothing else to do. -/
def isEnding : Phase ρ → Bool
  | .ending _ => true
  | _ => false

/-- A call that is over. -/
def isOver : Phase ρ → Bool
  | .ended _ => true
  | _ => false

/-- What a call has returned, if it is over. -/
def result? : Phase ρ → Option (Outcome AwaitError Unit)
  | .ended result => some result
  | _ => none

theorem result?_eq_some {phase : Phase ρ} {result : Outcome AwaitError Unit} :
    phase.result? = some result ↔ phase = .ended result := by
  cases phase <;> simp [result?]

/-- Only a call that owns the sweep in flight runs a launcher. -/
theorem ownsSweep_of_isRunning {phase : Phase ρ} (running : phase.isRunning = true) :
    phase.ownsSweep = true := by
  cases phase <;> simp_all [isRunning, ownsSweep]

/-- A call that owns the sweep in flight is not over. -/
theorem isOver_of_ownsSweep {phase : Phase ρ} (owner : phase.ownsSweep = true) :
    phase.isOver = false := by
  cases phase <;> simp_all [isOver, ownsSweep]

/-- The steps of a call on a build of the given name and schedule: the phase before, the phase
after, and the schedule after. -/
inductive Step (name : BuildId) (schedule : Schedule) : Phase ρ → Phase ρ → Schedule → Prop
  /-- A waiting call wakes on a poisoned schedule. -/
  | interrupt (poisoned : schedule.poisoned = true) :
      Step name schedule .waiting (.ended (.failed (.interrupted name))) schedule.leave
  /-- A waiting call wakes during a sweep. -/
  | waitOn (sound : schedule.poisoned = false) (busy : schedule.executing = true) :
      Step name schedule .waiting .waiting schedule
  /-- A waiting call wakes and claims. -/
  | claim (sound : schedule.poisoned = false) (idle : schedule.executing = false) :
      Step name schedule .waiting (.claimed schedule.leave.claim.1) schedule.leave.claim.2
  /-- Nothing that was claimed is fresh. -/
  | skip {claim : Claim} (nothing : claim.fresh = []) :
      Step name schedule (.claimed claim) (.ending (.returned ())) schedule
  /-- A launcher is taken for what is fresh. -/
  | launch {claim : Claim} {launcher : LauncherId} (something : claim.fresh ≠ []) :
      Step name schedule (.claimed claim) (.launching launcher claim.fresh) schedule
  | request {launcher : LauncherId} {tasks : List TaskPath} :
      Step name schedule (.launching launcher tasks) (.requested launcher) schedule
  | beginRun {launcher : LauncherId} {run : ρ} :
      Step name schedule (.requested launcher) (.running launcher run) schedule
  | endRun {launcher : LauncherId} {run : ρ} {result : Outcome BuildFailure Unit} :
      Step name schedule (.running launcher run) (.ending result) schedule
  | release {result : Outcome BuildFailure Unit} :
      Step name schedule (.ending result) (.ended (awaitResult result)) schedule.release
  /-- A call that is over stays over. -/
  | rest {result : Outcome AwaitError Unit} :
      Step name schedule (.ended result) (.ended result) schedule

end Phase

/-! ### What a build does for a call -/

/-- What the outcome of a run means for the call that it was made for. -/
def runResult : Outcome BuildFailure BuildOutcome → Outcome BuildFailure Unit
  | .returned _ => .returned ()
  | .failed failure => .failed failure
  | .panicked message => .panicked message

namespace IncludedBuild

variable (build : IncludedBuild σ ρ)

/-- Claiming changes nothing but the schedule. -/
@[simp] theorem claim_value :
    build.claim.value =
      (.claimed build.schedule.claim.1, { build with schedule := build.schedule.claim.2 }) := rfl

/-- A call that begins during a sweep waits. -/
theorem enter_of_executing (busy : build.schedule.executing = true) :
    build.enter.value = (.waiting, { build with schedule := build.schedule.join }) := by
  simp [enter, busy]

/-- A call that begins on an idle build claims. -/
theorem enter_of_idle (idle : build.schedule.executing = false) :
    build.enter.value =
      (.claimed build.schedule.claim.1, { build with schedule := build.schedule.claim.2 }) := by
  simp [enter, idle]

/-- A sweep is in flight when a call has begun. -/
theorem enter_executing : build.enter.value.2.schedule.executing = true := by
  by_cases busy : build.schedule.executing = true
  · simp [build.enter_of_executing busy, Schedule.join, busy]
  · have idle : build.schedule.executing = false := by simpa using busy
    simp [build.enter_of_idle idle, Schedule.claim]

/-- A sweep over nothing ends at once and changes nothing. -/
theorem launch_nil : (build.launch []).value = (.ending (.returned ()), build) := by
  simp [launch]

/-- A sweep over something takes a launcher. -/
theorem launch_of_ne_nil {tasks : List TaskPath} (something : tasks ≠ []) :
    (build.launch tasks).value =
      (.launching build.takeLauncher.value.1 tasks, build.takeLauncher.value.2) := by
  simp [launch, something]

/-- The end of a run gives the call what its launcher made of it, and changes nothing but the
launchers. -/
theorem endRun_value (launcher : LauncherId) (run : ρ) :
    (build.endRun launcher run).value =
      (.ending (runResult (build.factory.endRun launcher run build.launchers).value.1),
        { build with
          launchers := (build.factory.endRun launcher run build.launchers).value.2 }) := by
  simp only [endRun, Logged.within_value, Logged.bind_value]
  cases (build.factory.endRun launcher run build.launchers).value.1 <;> rfl

/-- Every step of a call is one of the list. -/
theorem proceed_step (phase : Phase ρ) :
    Phase.Step build.name build.schedule phase (build.proceed phase).value.1
      (build.proceed phase).value.2.schedule := by
  cases phase with
  | waiting =>
    simp only [proceed, wake]
    by_cases poisoned : build.schedule.poisoned = true
    · simpa [poisoned] using Phase.Step.interrupt poisoned
    · have sound : build.schedule.poisoned = false := by simpa using poisoned
      by_cases busy : build.schedule.executing = true
      · simpa [sound, busy] using Phase.Step.waitOn sound busy
      · have idle : build.schedule.executing = false := by simpa using busy
        simpa [sound, idle] using Phase.Step.claim sound idle
  | claimed claim =>
    simp only [proceed]
    by_cases nothing : claim.fresh = []
    · simpa [nothing, launch_nil] using Phase.Step.skip nothing
    · obtain ⟨slot, launchers, same⟩ := build.takeLauncher_changes
      rw [launch_of_ne_nil build nothing, same]
      exact .launch nothing
  | launching launcher tasks => exact .request
  | requested launcher => exact .beginRun
  | running launcher run =>
    simp only [proceed, endRun_value]
    exact .endRun
  | ending result => exact .release
  | ended result => exact .rest

/-- A call that begins changes nothing but the schedule of its build. -/
theorem enter_changes : ∃ schedule, build.enter.value.2 = { build with schedule } := by
  unfold enter
  split <;> exact ⟨_, rfl⟩

/-- A call that wakes changes nothing but the schedule of its build. -/
theorem wake_changes : ∃ schedule, build.wake.value.2 = { build with schedule } := by
  unfold wake
  split
  · exact ⟨_, rfl⟩
  · split <;> exact ⟨_, rfl⟩

/-- A step of a call changes nothing but the schedule, the slot and the launchers of its build. -/
theorem proceed_changes (phase : Phase ρ) : ∃ schedule slot launchers,
    (build.proceed phase).value.2 = { build with schedule, slot, launchers } := by
  cases phase with
  | waiting =>
    obtain ⟨schedule, same⟩ := build.wake_changes
    exact ⟨schedule, _, _, same⟩
  | claimed claim =>
    simp only [proceed]
    by_cases nothing : claim.fresh = []
    · rw [nothing, launch_nil]
      exact ⟨_, _, _, rfl⟩
    · obtain ⟨slot, launchers, same⟩ := build.takeLauncher_changes
      rw [launch_of_ne_nil build nothing, same]
      exact ⟨_, _, _, rfl⟩
  | running launcher run =>
    simp only [proceed, endRun_value]
    exact ⟨_, _, _, rfl⟩
  | _ => exact ⟨_, _, _, rfl⟩

/-- A call never renames its build. -/
theorem proceed_name (phase : Phase ρ) : (build.proceed phase).value.2.name = build.name := by
  obtain ⟨schedule, slot, launchers, same⟩ := build.proceed_changes phase
  rw [same]

/-- A call that begins never renames its build. -/
theorem enter_name : build.enter.value.2.name = build.name := by
  obtain ⟨schedule, same⟩ := build.enter_changes
  rw [same]

end IncludedBuild

/-! ### Bookkeeping -/

namespace Phase.Step

variable {name : BuildId} {schedule after : Schedule} {phase next : Phase ρ}

/-- The flag goes up when a call takes up the sweep and down when it gives it up. -/
theorem executing_add (step : Step name schedule phase next after)
    (owner : phase.ownsSweep = true → schedule.executing = true) :
    after.executing.toNat + phase.ownsSweep.toNat =
      schedule.executing.toNat + next.ownsSweep.toNat := by
  cases step with
  | claim sound idle => simp [ownsSweep, idle, Schedule.claim]
  | release =>
    have busy : schedule.executing = true := owner rfl
    simp [ownsSweep, busy, Schedule.release]
  | _ => simp [ownsSweep, Schedule.leave]

/-- The count goes up when a call begins to wait and down when it ends to wait. -/
theorem waiting_add (step : Step name schedule phase next after)
    (counted : phase.isWaiting = true → 0 < schedule.waiting) :
    after.waiting + phase.isWaiting.toNat = schedule.waiting + next.isWaiting.toNat := by
  cases step with
  | interrupt poisoned =>
    have positive : 0 < schedule.waiting := counted rfl
    simp only [isWaiting, Schedule.leave, Bool.toNat_true, Bool.toNat_false]
    omega
  | claim sound idle =>
    have positive : 0 < schedule.waiting := counted rfl
    simp only [isWaiting, Schedule.leave, Schedule.claim, Bool.toNat_true, Bool.toNat_false]
    omega
  | _ => simp [isWaiting, Schedule.release]

/-- The flag is cleared by the call that owns the sweep and has done everything else. -/
theorem isEnding_of_cleared (step : Step name schedule phase next after)
    (busy : schedule.executing = true) (cleared : after.executing = false) :
    phase.isEnding = true := by
  cases step <;> simp_all [isEnding, Schedule.leave]

/-- A call that gives up the sweep lowers the flag. -/
theorem ownsSweep_or_lowered (step : Step name schedule phase next after)
    (owner : phase.ownsSweep = true) : next.ownsSweep = true ∨ after.executing = false := by
  cases step <;> simp_all [ownsSweep, Schedule.release]

/-- A flag that is up after a step was up before, or the call has taken up the sweep. -/
theorem executing_or_ownsSweep (step : Step name schedule phase next after)
    (up : after.executing = true) : schedule.executing = true ∨ next.ownsSweep = true := by
  cases step <;> simp_all [ownsSweep, Schedule.release, Schedule.leave]

/-- A call that still waits after a step waits for a sweep in flight. -/
theorem executing_of_isWaiting (step : Step name schedule phase next after)
    (waits : next.isWaiting = true) : after.executing = true := by
  cases step <;> simp_all [isWaiting]

/-- A flag that is up stays up, unless the call is one that had come to its end. -/
theorem executing_or_isEnding (step : Step name schedule phase next after)
    (busy : schedule.executing = true) : after.executing = true ∨ phase.isEnding = true := by
  cases after_flag : after.executing with
  | true => exact .inl rfl
  | false => exact .inr (step.isEnding_of_cleared busy after_flag)

/-- A call that takes up a sweep has waited and claims; every other step leaves the queue and the
executed paths alone. -/
theorem claims_or_keeps (step : Step name schedule phase next after) :
    (phase = .waiting ∧ next = .claimed schedule.leave.claim.1 ∧
      after = schedule.leave.claim.2) ∨
    ((next.ownsSweep = true → phase.ownsSweep = true) ∧ after.pending = schedule.pending ∧
      after.executed = schedule.executed) := by
  cases step with
  | claim sound idle => exact .inl ⟨rfl, rfl, rfl⟩
  | _ => exact .inr ⟨by simp [ownsSweep], rfl, rfl⟩

/-- A waiting call that is over at once has not touched the flag. -/
theorem executing_of_ended {result : Outcome AwaitError Unit}
    (step : Step name schedule (.waiting : Phase ρ) (.ended result) after) :
    after.executing = schedule.executing := by
  cases step
  rfl

end Phase.Step

/-! ### What happens beside the calls -/

/-- What may happen to a build beside the calls of await.  The launchers of a build have a state of
their own, which may change at any time. -/
inductive SideStep (σ : Type) where
  | queue (paths : List TaskPath)
  /-- Queue from a source that yields the paths and then panics. -/
  | queueAndPoison (paths : List TaskPath)
  | loadSettings
  | configure
  | registerSubstitution (action : SubstitutionAction)
  | resolveSubstitutions
  | changeLaunchers (launchers : σ)

namespace SideStep

/-- The build after a step beside the calls of await. -/
def apply (build : IncludedBuild σ ρ) : SideStep σ → IncludedBuild σ ρ
  | .queue paths => (build.queue paths).value
  | .queueAndPoison paths => build.queueAndPoison paths
  | .loadSettings => build.loadedSettings.value.2
  | .configure => build.configuredBuild.value.2
  | .registerSubstitution action =>
    match build.registerSubstitution action with
    | .ok build => build
    | .error _ => build
  | .resolveSubstitutions => build.resolveSubstitutions.value.2
  | .changeLaunchers launchers => { build with launchers }

/-- The paths that a step queues. -/
def pushed : SideStep σ → List TaskPath
  | .queue paths | .queueAndPoison paths => paths
  | _ => []

/-- Whether a step poisons the schedule. -/
def poisons : SideStep σ → Bool
  | .queueAndPoison _ => true
  | _ => false

end SideStep

namespace IncludedBuild

variable (build : IncludedBuild σ ρ)

/-- Settling the substitution rules changes nothing else. -/
theorem resolveSubstitutions_build :
    build.resolveSubstitutions.value.2 =
      { build with substitutions := (build.substitutions.resolve build.name).2 } := by
  unfold resolveSubstitutions
  obtain ⟨outcome, substitutions⟩ := build.substitutions.resolve build.name
  cases outcome with
  | returned subs => cases settled : build.substitutions.isResolved <;> rfl
  | _ => rfl

end IncludedBuild

namespace SideStep

variable (build : IncludedBuild σ ρ) (step : SideStep σ)

/-- Registering an action changes at most the substitutions of a build. -/
theorem apply_registerSubstitution (action : SubstitutionAction) :
    ∃ substitutions, (registerSubstitution action).apply build = { build with substitutions } := by
  simp only [apply, IncludedBuild.registerSubstitution]
  cases registered : build.substitutions.register action with
  | ok substitutions => exact ⟨substitutions, rfl⟩
  | error error => exact ⟨build.substitutions, rfl⟩

/-- A step beside the calls of await queues its paths, may poison the schedule, and does nothing
else to it. -/
theorem apply_schedule :
    (step.apply build).schedule =
      { build.schedule with
        pending := build.schedule.pending ++ step.pushed
        poisoned := build.schedule.poisoned || step.poisons } := by
  have untouched : build.schedule =
      { build.schedule with
        pending := build.schedule.pending ++ []
        poisoned := build.schedule.poisoned || false } := by simp
  cases step with
  | queue paths => simp [apply, IncludedBuild.queue, Schedule.queue, pushed, poisons]
  | queueAndPoison paths =>
    simp [apply, IncludedBuild.queueAndPoison, Schedule.queueAndPoison, Schedule.queue, pushed,
      poisons]
  | loadSettings =>
    obtain ⟨slot, launchers, same⟩ := build.loadedSettings_changes
    rw [apply, same]
    exact untouched
  | configure =>
    obtain ⟨slot, launchers, same⟩ := build.configuredBuild_changes
    rw [apply, same]
    exact untouched
  | registerSubstitution action =>
    obtain ⟨substitutions, same⟩ := apply_registerSubstitution build action
    rw [same]
    exact untouched
  | resolveSubstitutions =>
    simp only [apply, IncludedBuild.resolveSubstitutions_build]
    exact untouched
  | changeLaunchers launchers => exact untouched

/-- A step beside the calls of await changes neither the name, nor the directory, nor the factory of
the build. -/
theorem apply_changes : ∃ schedule slot substitutions launchers,
    step.apply build = { build with schedule, slot, substitutions, launchers } := by
  cases step with
  | loadSettings =>
    obtain ⟨slot, launchers, same⟩ := build.loadedSettings_changes
    exact ⟨_, slot, _, launchers, same⟩
  | configure =>
    obtain ⟨slot, launchers, same⟩ := build.configuredBuild_changes
    exact ⟨_, slot, _, launchers, same⟩
  | registerSubstitution action =>
    obtain ⟨substitutions, same⟩ := apply_registerSubstitution build action
    exact ⟨_, _, substitutions, _, same⟩
  | resolveSubstitutions => exact ⟨_, _, _, _, build.resolveSubstitutions_build⟩
  | _ => exact ⟨_, _, _, _, rfl⟩

/-- A step beside the calls of await never renames the build. -/
theorem apply_name : (step.apply build).name = build.name := by
  obtain ⟨schedule, slot, substitutions, launchers, same⟩ := apply_changes build step
  rw [same]

/-- A step beside the calls of await never changes the factory of the build. -/
theorem apply_factory : (step.apply build).factory = build.factory := by
  obtain ⟨schedule, slot, substitutions, launchers, same⟩ := apply_changes build step
  rw [same]

variable {build step} {P : σ → Prop}

/-- What loading keeps of the launchers holds after a step beside the calls of await, if it holds of
the launchers that come from outside. -/
theorem apply_keeps (keeps : build.factory.LoadingKeeps P) (holds : P build.launchers)
    (outside : ∀ launchers, step = .changeLaunchers launchers → P launchers) :
    P (step.apply build).launchers := by
  cases step with
  | loadSettings => exact IncludedBuild.loadedSettings_keeps keeps holds
  | configure => exact IncludedBuild.configuredBuild_keeps keeps holds
  | registerSubstitution action =>
    obtain ⟨substitutions, same⟩ := apply_registerSubstitution build action
    rwa [same]
  | resolveSubstitutions =>
    simp only [apply, IncludedBuild.resolveSubstitutions_build]
    exact holds
  | changeLaunchers launchers => exact outside launchers rfl
  | _ => exact holds

end SideStep

end CompositeBuild
