import CompositeBuild.Proofs.Await.Agreement
import CompositeBuild.Proofs.Await.Callers

/-!
# Twins

Two builds are twins if they differ at most in how the runs of their launchers end.  Whatever the
builds do, they do it alike: they make and take the same launchers, load the same models, and let
calls of await wait, claim and release at the same points (`IncludedBuild.Twins`).

So a build with its callers stays a twin of another one when the same happens to both
(`Callers.Twins.step`), and even when a run of both ends, in each in its way
(`Callers.Twins.endsRun`).  Calls on twins differ at most in what their runs remember and in what
they return therefore; from outside they look the same (`Phase.outline`).
-/

namespace CompositeBuild

variable {σ ρ κ : Type}

/-! ### Calls from outside -/

namespace Phase

/-- What a call returns, as far as it depends on no run. -/
def interruption : Outcome AwaitError Unit → Outcome AwaitError Unit
  | .failed (.interrupted build) => .failed (.interrupted build)
  | _ => .returned ()

/-- Where a call stands, without what its run remembers or comes to. -/
def outline : Phase ρ → Phase Unit
  | .waiting => .waiting
  | .claimed claim => .claimed claim
  | .launching launcher tasks => .launching launcher tasks
  | .requested launcher => .requested launcher
  | .running launcher _ => .running launcher ()
  | .ending _ => .ending (.returned ())
  | .ended result => .ended (interruption result)

@[simp] theorem isWaiting_outline (phase : Phase ρ) :
    phase.outline.isWaiting = phase.isWaiting := by
  cases phase <;> rfl

@[simp] theorem isEnding_outline (phase : Phase ρ) :
    phase.outline.isEnding = phase.isEnding := by
  cases phase <;> rfl

/-- A call that was not interrupted looks the same whatever it returns. -/
@[simp] theorem interruption_awaitResult (result : Outcome BuildFailure Unit) :
    interruption (awaitResult result) = .returned () := by
  cases result <;> rfl

end Phase

/-- What a step adds to the history can be seen from outside. -/
theorem stepEvents_outline (made : Bool) (history : List Event) (caller : Nat)
    (phase next : Phase ρ) :
    stepEvents made history caller phase.outline next.outline =
      stepEvents made history caller phase next := by
  cases phase <;> cases next <;> rfl

namespace AwaitCall

/-- A call from outside. -/
def outline (call : AwaitCall ρ) : AwaitCall Unit where
  phase := call.phase.outline
  asleep := call.asleep

@[simp] theorem outline_settled (phase : Phase ρ) :
    (settled phase).outline = settled phase.outline := by
  simp [outline, settled]

@[simp] theorem outline_notified (call : AwaitCall ρ) :
    call.notified.outline = call.outline.notified := rfl

end AwaitCall

/-! ### Twin builds -/

namespace IncludedBuild

/-- Two builds that differ at most in how the runs of their launchers end. -/
structure Twins (R : σ → σ → Prop) (one other : IncludedBuild σ ρ) : Prop where
  factory : one.factory.AgreeButEnds other.factory R
  launchers : R one.launchers other.launchers
  name : one.name = other.name
  schedule : one.schedule = other.schedule
  slot : one.slot = other.slot
  substitutions : one.substitutions = other.substitutions

/-- Two results of a step of a call that look the same, with twins. -/
def TwinSteps (R : σ → σ → Prop) (one other : Phase ρ × IncludedBuild σ ρ) : Prop :=
  one.1.outline = other.1.outline ∧ Twins R one.2 other.2

namespace Twins

variable {R : σ → σ → Prop} {one other : IncludedBuild σ ρ}

/-- Twins stay twins with equal schedules. -/
theorem withSchedule (twins : Twins R one other) {schedule schedule' : Schedule}
    (same : schedule = schedule') :
    Twins R { one with schedule } { other with schedule := schedule' } :=
  { twins with schedule := same }

/-- Twins stay twins with equal slots. -/
theorem withSlot (twins : Twins R one other) {slot slot' : LauncherSlot} (same : slot = slot') :
    Twins R { one with slot } { other with slot := slot' } :=
  { twins with slot := same }

/-- Twins stay twins with launchers that are alike. -/
theorem withLaunchers (twins : Twins R one other) {launchers launchers' : σ}
    (related : R launchers launchers') :
    Twins R { one with launchers } { other with launchers := launchers' } :=
  { twins with launchers := related }

/-- Twins stay twins with equal substitutions. -/
theorem withSubstitutions (twins : Twins R one other)
    {substitutions substitutions' : SubstitutionState} (same : substitutions = substitutions') :
    Twins R { one with substitutions } { other with substitutions := substitutions' } :=
  { twins with substitutions := same }

/-- Twins make the same launchers. -/
theorem createLauncher (twins : Twins R one other) :
    one.createLauncher.value.1 = other.createLauncher.value.1 ∧
      Twins R one.createLauncher.value.2 other.createLauncher.value.2 := by
  obtain ⟨same, related⟩ := twins.factory.create twins.launchers
  exact ⟨same, (twins.withLaunchers related).withSlot rfl⟩

/-- Twins take the same launchers. -/
theorem takeLauncher (twins : Twins R one other) :
    one.takeLauncher.value.1 = other.takeLauncher.value.1 ∧
      Twins R one.takeLauncher.value.2 other.takeLauncher.value.2 := by
  simp only [IncludedBuild.takeLauncher, twins.slot]
  cases other.slot.launcher with
  | some launcher => exact ⟨rfl, twins.withSlot rfl⟩
  | none => exact twins.createLauncher

/-- Twins make sure of the same launchers. -/
theorem ensureLauncher (twins : Twins R one other) :
    one.ensureLauncher.value.1 = other.ensureLauncher.value.1 ∧
      Twins R one.ensureLauncher.value.2 other.ensureLauncher.value.2 := by
  simp only [IncludedBuild.ensureLauncher, twins.slot]
  cases other.slot.launcher with
  | some launcher => exact ⟨rfl, twins⟩
  | none =>
    obtain ⟨same, made⟩ := twins.createLauncher
    refine ⟨same, made.withSlot ?_⟩
    rw [same, made.slot]

/-- Twins load the same settings. -/
theorem loadedSettings (twins : Twins R one other) :
    Twins R one.loadedSettings.value.2 other.loadedSettings.value.2 := by
  cases known : other.slot.settings with
  | some settings =>
    rw [loadedSettings_known other known, loadedSettings_known one (twins.slot ▸ known)]
    exact twins
  | none =>
    obtain ⟨launcher, ensured⟩ := twins.ensureLauncher
    obtain ⟨outcome, related⟩ := ensured.factory.loadSettings other.ensureLauncher.value.1
      ensured.launchers
    rw [loadedSettings_unknown other known, loadedSettings_unknown one (twins.slot ▸ known),
      launcher]
    refine (ensured.withLaunchers related).withSlot ?_
    rw [outcome, ensured.slot]

/-- Twins compute the same models. -/
theorem configuredBuild (twins : Twins R one other) :
    Twins R one.configuredBuild.value.2 other.configuredBuild.value.2 := by
  cases known : other.slot.configured with
  | some configured =>
    rw [configuredBuild_known other known, configuredBuild_known one (twins.slot ▸ known)]
    exact twins
  | none =>
    obtain ⟨launcher, ensured⟩ := twins.ensureLauncher
    obtain ⟨outcome, related⟩ := ensured.factory.configure other.ensureLauncher.value.1
      ensured.launchers
    rw [configuredBuild_unknown other known, configuredBuild_unknown one (twins.slot ▸ known),
      launcher]
    refine (ensured.withLaunchers related).withSlot ?_
    rw [outcome, ensured.slot]

/-- Twins stay twins when the same happens to both beside the calls. -/
theorem apply (twins : Twins R one other) (side : SideStep σ)
    (untouched : ∀ launchers, side ≠ .changeLaunchers launchers) :
    Twins R (side.apply one) (side.apply other) := by
  cases side with
  | queue paths => exact twins.withSchedule (congrArg (·.queue paths) twins.schedule)
  | queueAndPoison paths =>
    exact twins.withSchedule (congrArg (·.queueAndPoison paths) twins.schedule)
  | loadSettings => exact twins.loadedSettings
  | configure => exact twins.configuredBuild
  | registerSubstitution action =>
    simp only [SideStep.apply, IncludedBuild.registerSubstitution, twins.substitutions]
    cases other.substitutions.register action with
    | ok substitutions => exact twins.withSubstitutions rfl
    | error error => exact twins
  | resolveSubstitutions =>
    simp only [SideStep.apply, resolveSubstitutions_build]
    refine twins.withSubstitutions ?_
    rw [twins.substitutions, twins.name]
  | changeLaunchers launchers => exact absurd rfl (untouched launchers)

/-- Calls on twins begin alike. -/
theorem enter (twins : Twins R one other) : TwinSteps R one.enter.value other.enter.value := by
  cases busy : other.schedule.executing with
  | true =>
    rw [enter_of_executing other busy, enter_of_executing one (twins.schedule ▸ busy)]
    exact ⟨rfl, twins.withSchedule (congrArg Schedule.join twins.schedule)⟩
  | false =>
    rw [enter_of_idle other busy, enter_of_idle one (twins.schedule ▸ busy), twins.schedule]
    exact ⟨rfl, twins.withSchedule rfl⟩

/-- Waiting calls on twins wake alike. -/
theorem wake (twins : Twins R one other) : TwinSteps R one.wake.value other.wake.value := by
  simp only [IncludedBuild.wake, twins.schedule]
  split
  · have interrupted : Phase.outline (ρ := ρ) (.ended (.failed (.interrupted one.name))) =
        Phase.outline (ρ := ρ) (.ended (.failed (.interrupted other.name))) := by rw [twins.name]
    exact ⟨interrupted, twins.withSchedule rfl⟩
  · split
    · exact ⟨rfl, twins⟩
    · exact ⟨rfl, twins.withSchedule rfl⟩

/-- Sweeps over twins take launchers alike. -/
theorem launch (twins : Twins R one other) (tasks : List TaskPath) :
    TwinSteps R (one.launch tasks).value (other.launch tasks).value := by
  by_cases nothing : tasks = []
  · rw [nothing, launch_nil, launch_nil]
    exact ⟨rfl, twins⟩
  · rw [launch_of_ne_nil one nothing, launch_of_ne_nil other nothing]
    obtain ⟨same, taken⟩ := twins.takeLauncher
    rw [same]
    exact ⟨rfl, taken⟩

/-- Twins stay twins if the first has ended a run, or has had one cut short. -/
theorem ended_left (twins : Twins R one other) {build : IncludedBuild σ ρ} {launcher : LauncherId}
    {run : ρ} (ended : build = one ∨ build = (one.endRun launcher run).value.2) :
    Twins R build other := by
  rcases ended with rfl | rfl
  · exact twins
  · rw [endRun_value]
    exact { twins with launchers := twins.factory.endRun_left launcher run twins.launchers }

/-- Twins stay twins if the second has ended a run, or has had one cut short. -/
theorem ended_right (twins : Twins R one other) {build : IncludedBuild σ ρ} {launcher : LauncherId}
    {run : ρ} (ended : build = other ∨ build = (other.endRun launcher run).value.2) :
    Twins R one build := by
  rcases ended with rfl | rfl
  · exact twins
  · rw [endRun_value]
    exact { twins with launchers := twins.factory.endRun_right launcher run twins.launchers }

/-- Calls on twins that look the same go on alike. -/
theorem proceed (twins : Twins R one other) {phase phase' : Phase ρ}
    (same : phase.outline = phase'.outline) :
    TwinSteps R (one.proceed phase).value (other.proceed phase').value := by
  cases phase with
  | waiting =>
    cases phase' with
    | waiting => exact twins.wake
    | _ => simp [Phase.outline] at same
  | claimed claim =>
    cases phase' with
    | claimed claim' =>
      obtain rfl : claim = claim' := by simpa [Phase.outline] using same
      exact twins.launch claim.fresh
    | _ => simp [Phase.outline] at same
  | launching launcher tasks =>
    cases phase' with
    | launching launcher' tasks' =>
      obtain ⟨rfl, rfl⟩ : launcher = launcher' ∧ tasks = tasks' := by
        simpa [Phase.outline] using same
      exact ⟨rfl, twins.withLaunchers (twins.factory.request launcher tasks twins.launchers)⟩
    | _ => simp [Phase.outline] at same
  | requested launcher =>
    cases phase' with
    | requested launcher' =>
      obtain rfl : launcher = launcher' := by simpa [Phase.outline] using same
      exact ⟨rfl, twins.withLaunchers (twins.factory.beginRun launcher twins.launchers)⟩
    | _ => simp [Phase.outline] at same
  | running launcher run =>
    cases phase' with
    | running launcher' run' =>
      refine ⟨?_, (twins.ended_left (.inr rfl)).ended_right (.inr rfl)⟩
      simp only [IncludedBuild.proceed, endRun_value, Phase.outline]
    | _ => simp [Phase.outline] at same
  | ending result =>
    cases phase' with
    | ending result' =>
      refine ⟨?_, twins.withSchedule (congrArg Schedule.release twins.schedule)⟩
      simp [IncludedBuild.proceed, Phase.outline]
    | _ => simp [Phase.outline] at same
  | ended result =>
    cases phase' with
    | ended result' => exact ⟨same, twins⟩
    | _ => simp [Phase.outline] at same

/-- Twins abort calls that look the same alike. -/
theorem abort (twins : Twins R one other) (message : String) {phase phase' : Phase ρ}
    (same : phase.outline = phase'.outline) :
    TwinSteps R (one.abort message phase) (other.abort message phase') := by
  cases phase with
  | claimed claim =>
    cases phase' with
    | claimed claim' =>
      obtain rfl : claim = claim' := by simpa [Phase.outline] using same
      simp only [IncludedBuild.abort, twins.slot]
      split
      · exact ⟨rfl, twins⟩
      · exact ⟨rfl, twins.withSlot rfl⟩
    | _ => simp [Phase.outline] at same
  | launching launcher tasks =>
    cases phase' with
    | launching launcher' tasks' => exact ⟨rfl, twins⟩
    | _ => simp [Phase.outline] at same
  | _ =>
    cases phase' with
    | claimed claim => simp [Phase.outline] at same
    | launching launcher tasks => simp [Phase.outline] at same
    | _ => exact ⟨same, twins⟩

end Twins

/-- Taking a launcher leaves none behind. -/
theorem takeLauncher_slot (build : IncludedBuild σ ρ) :
    build.takeLauncher.value.2.slot.launcher = none := by
  unfold takeLauncher
  cases build.slot.launcher <;> rfl

end IncludedBuild

/-- Calls that look the same still do after a panic. -/
theorem IncludedBuild.unwind_outline (message : String) {phase phase' : Phase ρ}
    (same : phase.outline = phase'.outline) :
    (unwind message phase).outline = (unwind message phase').outline := by
  cases phase with
  | running launcher run =>
    cases phase' with
    | running launcher' run' => rfl
    | _ => simp [Phase.outline] at same
  | _ =>
    cases phase' with
    | running launcher run => simp [Phase.outline] at same
    | _ => exact same

/-! ### Twin callers -/

/-- What steps add to the history depends on what can be seen from outside. -/
theorem stepEvents_congr (made : Bool) (history : List Event) (caller : Nat)
    {phase phase' next next' : Phase ρ} (same : phase.outline = phase'.outline)
    (alike : next.outline = next'.outline) :
    stepEvents made history caller phase next = stepEvents made history caller phase' next' := by
  rw [← stepEvents_outline, same, alike, stepEvents_outline]

/-- Whether an action may end the run of a call, if the call has one. -/
def Action.endsRun (caller : Nat) : Action σ → Bool
  | .proceed number => number == caller
  | .unwind number _ => number == caller
  | _ => false

namespace Callers

/-- Whether a call is awake and its launcher runs. -/
def runs (callers : Callers σ ρ) (caller : Nat) : Bool :=
  callers.calls[caller]?.any fun call => call.phase.isRunning && !call.asleep

/-- Two builds with callers that differ at most in how runs end, and in what calls return
therefore. -/
structure Twins (R : σ → σ → Prop) (one other : Callers σ ρ) : Prop where
  build : one.build.Twins R other.build
  calls : one.calls.map AwaitCall.outline = other.calls.map AwaitCall.outline
  history : one.history = other.history

/-- A call whose launcher runs is running, and awake. -/
theorem exists_of_runs {callers : Callers σ ρ} {caller : Nat} (runs : callers.runs caller = true) :
    ∃ launcher run, callers.calls[caller]? = some ⟨.running launcher run, false⟩ := by
  unfold Callers.runs at runs
  cases found : callers.calls[caller]? with
  | none => simp [found] at runs
  | some call =>
    obtain ⟨phase, asleep⟩ := call
    cases phase with
    | running launcher run => exact ⟨launcher, run, by simpa [found, Phase.isRunning] using runs⟩
    | _ => simp [found, Phase.isRunning] at runs

/-- The end of a run is told to its call, and changes nothing else but the launchers. -/
theorem step_endsRun {callers : Callers σ ρ} {caller : Nat} {launcher : LauncherId} {run : ρ}
    (found : callers.calls[caller]? = some ⟨.running launcher run, false⟩)
    {action : Action σ} (ends : action.endsRun caller = true) :
    ∃ result build,
      callers.step action = { callers.setCall caller ⟨.ending result, false⟩ with build } ∧
      (build = callers.build ∨ build = (callers.build.endRun launcher run).value.2) := by
  cases action with
  | proceed number =>
    obtain rfl : number = caller := by simpa [Action.endsRun] using ends
    refine ⟨runResult
      (callers.build.factory.endRun launcher run callers.build.launchers).value.1, _, ?_, .inr rfl⟩
    simp only [step, found, proceed, IncludedBuild.proceed, IncludedBuild.endRun_value]
    simp [Phase.isEnding, AwaitCall.settled, Phase.isWaiting, stepEvents, setCall]
  | unwind number message =>
    obtain rfl : number = caller := by simpa [Action.endsRun] using ends
    refine ⟨.panicked message, callers.build, ?_, .inl rfl⟩
    simp only [step, found, IncludedBuild.unwind]
    rfl
  | _ => simp [Action.endsRun] at ends

namespace Twins

variable {R : σ → σ → Prop} {one other : Callers σ ρ}

/-- Twins have the same calls, from outside. -/
theorem lookup (twins : Twins R one other) (caller : Nat) :
    (one.calls[caller]? = none ∧ other.calls[caller]? = none) ∨
      ∃ call call', one.calls[caller]? = some call ∧ other.calls[caller]? = some call' ∧
        call.phase.outline = call'.phase.outline ∧ call.asleep = call'.asleep := by
  have same := congrArg (·[caller]?) twins.calls
  simp only [List.getElem?_map] at same
  cases here : one.calls[caller]? with
  | none =>
    rw [here, Option.map_none] at same
    exact .inl ⟨rfl, Option.map_eq_none_iff.mp same.symm⟩
  | some call =>
    rw [here, Option.map_some] at same
    obtain ⟨call', there, alike⟩ := Option.map_eq_some_iff.mp same.symm
    obtain ⟨phase, asleep⟩ := AwaitCall.mk.inj alike
    exact .inr ⟨call, call', rfl, there, phase.symm, asleep.symm⟩

/-- Twins stay twins when their builds become other twins. -/
theorem withBuild (twins : Twins R one other) {build build' : IncludedBuild σ ρ}
    (same : build.Twins R build') : Twins R { one with build } { other with build := build' } :=
  { twins with build := same }

/-- Twins stay twins when a call changes in the same way, from outside. -/
theorem setCall (twins : Twins R one other) (caller : Nat) {call call' : AwaitCall ρ}
    (same : call.outline = call'.outline) :
    Twins R (one.setCall caller call) (other.setCall caller call') := by
  refine { twins with calls := ?_ }
  simp only [Callers.setCall, List.map_set, twins.calls, same]

/-- Twins stay twins when all calls wake. -/
theorem notifyAll (twins : Twins R one other) : Twins R one.notifyAll other.notifyAll := by
  have woken (callers : Callers σ ρ) : callers.notifyAll.calls.map AwaitCall.outline =
      (callers.calls.map AwaitCall.outline).map AwaitCall.notified := by
    simp [Callers.notifyAll, Function.comp_def]
  refine { twins with calls := ?_ }
  rw [woken, woken, twins.calls]

/-- Calls begin alike. -/
theorem enter (twins : Twins R one other) : Twins R one.enter other.enter := by
  obtain ⟨same, build⟩ := twins.build.enter
  have count : one.calls.length = other.calls.length := by
    simpa using congrArg List.length twins.calls
  refine { build, calls := ?_, history := ?_ }
  · simp only [Callers.enter, List.map_append, twins.calls, List.map_cons, List.map_nil,
      AwaitCall.outline_settled, same]
  · simp only [Callers.enter, twins.history, count, stepEvents_congr false [] _ rfl same]

/-- Calls go on alike. -/
theorem proceed (twins : Twins R one other) (caller : Nat) {phase phase' : Phase ρ}
    (same : phase.outline = phase'.outline) :
    Twins R (one.proceed caller phase) (other.proceed caller phase') := by
  obtain ⟨alike, build⟩ := twins.build.proceed same
  have ending : phase.isEnding = phase'.isEnding := by
    rw [← Phase.isEnding_outline, same, Phase.isEnding_outline]
  have woken : Twins R (if phase.isEnding then one.notifyAll else one)
      (if phase'.isEnding then other.notifyAll else other) := by
    rw [ending]
    split
    · exact twins.notifyAll
    · exact twins
  have settled : (AwaitCall.settled (one.build.proceed phase).value.1).outline =
      (AwaitCall.settled (other.build.proceed phase').value.1).outline := by
    rw [AwaitCall.outline_settled, alike, AwaitCall.outline_settled]
  refine { build, calls := (woken.setCall caller settled).calls, history := ?_ }
  simp only [Callers.proceed, twins.history, twins.build.slot,
    stepEvents_congr _ _ caller same alike]

/-- Twins stay twins when the same happens to both. -/
theorem step (twins : Twins R one other) (action : Action σ)
    (kept : action.keepsLaunchers = true) : Twins R (one.step action) (other.step action) := by
  cases action with
  | enter => exact twins.enter
  | proceed caller =>
    obtain ⟨here, there⟩ | ⟨call, call', here, there, same, awake⟩ := twins.lookup caller
    · simpa only [Callers.step, here, there] using twins
    · obtain ⟨phase, asleep⟩ := call
      obtain ⟨phase', asleep'⟩ := call'
      obtain rfl : asleep = asleep' := awake
      cases asleep with
      | true => simpa only [Callers.step, here, there] using twins
      | false => simpa only [Callers.step, here, there] using twins.proceed caller same
  | wake caller =>
    obtain ⟨here, there⟩ | ⟨call, call', here, there, same, -⟩ := twins.lookup caller
    · simpa only [Callers.step, here, there] using twins
    · simp only [Callers.step, here, there]
      refine twins.setCall caller ?_
      simp only [AwaitCall.outline, AwaitCall.notified, same]
  | unwind caller message =>
    obtain ⟨here, there⟩ | ⟨call, call', here, there, same, awake⟩ := twins.lookup caller
    · simpa only [Callers.step, here, there] using twins
    · simp only [Callers.step, here, there]
      refine twins.setCall caller ?_
      simp only [AwaitCall.outline, awake, IncludedBuild.unwind_outline message same]
  | abort caller message =>
    obtain ⟨here, there⟩ | ⟨call, call', here, there, same, awake⟩ := twins.lookup caller
    · simpa only [Callers.step, here, there] using twins
    · obtain ⟨aborted, build⟩ := twins.build.abort message same
      simp only [Callers.step, here, there]
      refine (twins.setCall caller ?_).withBuild build
      simp only [AwaitCall.outline, awake, aborted]
  | beside side =>
    have build := twins.build.apply side (Action.ne_changeLaunchers kept)
    refine { build, calls := twins.calls, history := ?_ }
    simp only [Callers.step, twins.history]

/-- Twins stay twins when a run of both ends, each in its way. -/
theorem endsRun (twins : Twins R one other) {caller : Nat} (runs : one.runs caller = true)
    {action action' : Action σ} (ends : action.endsRun caller = true)
    (ends' : action'.endsRun caller = true) : Twins R (one.step action) (other.step action') := by
  obtain ⟨launcher, run, found⟩ := exists_of_runs runs
  obtain ⟨missing, -⟩ | ⟨call, ⟨phase', asleep'⟩, here, found', same, awake⟩ := twins.lookup caller
  · simp [missing] at found
  obtain rfl : call = ⟨.running launcher run, false⟩ := Option.some.inj (here.symm.trans found)
  cases phase' with
  | running launcher' run' =>
    obtain rfl : false = asleep' := awake
    obtain ⟨result, build, outcome, buildCases⟩ := step_endsRun found ends
    obtain ⟨result', build', outcome', buildCases'⟩ := step_endsRun found' ends'
    have both := (twins.build.ended_left buildCases).ended_right buildCases'
    have alike : AwaitCall.outline (ρ := ρ) ⟨.ending result, false⟩ =
        AwaitCall.outline (ρ := ρ) ⟨.ending result', false⟩ := rfl
    rw [outcome, outcome']
    exact (twins.setCall caller alike).withBuild both
  | _ => simp [Phase.outline] at same

end Twins

end Callers

end CompositeBuild
