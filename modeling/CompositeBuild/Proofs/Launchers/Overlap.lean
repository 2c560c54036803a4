import CompositeBuild.Launcher.Scripted
import CompositeBuild.Proofs.Await.Endings
import CompositeBuild.Proofs.Launchers.SingleUse
import CompositeBuild.Proofs.Launchers.Tracing
import Mathlib.Data.List.Induction
import Mathlib.Data.Set.Image
import Mathlib.Order.Bounds.Basic

/-!
# Overlapping runs

A scripted factory counts its runs: a run is added when it begins and taken out when it ends, and
the highest count is remembered.  A run that its hook cuts short is no longer in progress either,
but nobody takes it out.  So the highest count is not the largest number of runs that were ever in
progress together, as its name says: it is the largest number of runs in progress together with all
runs that had been cut short by then.  The two are the same if no run was cut short.

`Tally` keeps these numbers side by side and `Tally.Step` lists what can happen to them.  It happens
both to whoever calls the launchers directly (`Client.tally_call`) and to a build with its callers
(`Chronicle.tally_step`).
-/

namespace CompositeBuild

variable {σ ρ κ : Type}

/-! ### Numbers of runs -/

/-- The runs of a factory in numbers. -/
structure Tally where
  /-- The runs that are in progress. -/
  inProgress : Nat := 0
  /-- The runs that were cut short so far. -/
  cutShort : Nat := 0
  /-- The runs that the factory takes to be in progress. -/
  counted : Nat := 0
  /-- The highest count so far. -/
  highest : Nat := 0

namespace Tally

/-- What can happen to the numbers. -/
inductive Step (now : Tally) : Tally → Prop
  /-- Nothing. -/
  | quiet : Step now now
  /-- A run begins. -/
  | begin :
      Step now
        { now with
          inProgress := now.inProgress + 1
          counted := now.counted + 1
          highest := max now.highest (now.counted + 1) }
  /-- A run ends. -/
  | finish {others : Nat} (busy : now.inProgress = others + 1) :
      Step now { now with inProgress := others, counted := now.counted - 1 }
  /-- A run is cut short. -/
  | cutShort {others : Nat} (busy : now.inProgress = others + 1) :
      Step now { now with inProgress := others, cutShort := now.cutShort + 1 }

/-- The factory counts the runs in progress and those that were cut short, and the highest count is
no lower. -/
structure Accurate (now : Tally) : Prop where
  counted : now.counted = now.inProgress + now.cutShort
  counted_le : now.counted ≤ now.highest

variable {now next : Tally}

/-- What happens is counted as it should be. -/
theorem Accurate.step (accurate : now.Accurate) (step : now.Step next) : next.Accurate := by
  obtain ⟨counted, highest⟩ := accurate
  cases step with
  | quiet => exact ⟨counted, highest⟩
  | begin => exact ⟨by simp only; omega, by simp only; omega⟩
  | finish busy => exact ⟨by simp only; omega, by simp only; omega⟩
  | cutShort busy => exact ⟨by simp only; omega, by simp only; omega⟩

/-- The highest count is raised to the count if that is higher, and else it stays. -/
theorem Accurate.highest_step (accurate : now.Accurate) (step : now.Step next) :
    next.highest = max (next.inProgress + next.cutShort) now.highest := by
  obtain ⟨counted, highest⟩ := accurate
  cases step with
  | quiet => omega
  | begin => simp only; omega
  | finish busy => simp only; omega
  | cutShort busy => simp only; omega

/-- A run that was cut short once has been cut short for ever. -/
theorem Step.cutShort_le (step : now.Step next) : now.cutShort ≤ next.cutShort := by
  cases step <;> simp

/-- The moments of a longer history are those of the shorter one and its end. -/
theorem range_take_concat {A : Type} (number : List A → Nat) (history : List A) (happens : A) :
    (Set.range fun n => number ((history ++ [happens]).take n)) =
      insert (number (history ++ [happens])) (Set.range fun n => number (history.take n)) := by
  ext value
  simp only [Set.mem_insert_iff, Set.mem_range]
  constructor
  · rintro ⟨n, rfl⟩
    rcases Nat.lt_or_ge history.length n with beyond | inside
    · exact .inl (by rw [List.take_of_length_le (by simp; omega)])
    · exact .inr ⟨n, by rw [List.take_append_of_le_length inside]⟩
  · rintro (rfl | ⟨n, rfl⟩)
    · exact ⟨history.length + 1, by rw [List.take_of_length_le (by simp)]⟩
    · refine ⟨min n history.length, ?_⟩
      rw [List.take_append_of_le_length (min_le_right _ _), ← List.take_take, List.take_length]

/-- **The highest count of a history.**  Along any history that begins with no run, the highest
count is the largest number of runs in progress and runs cut short so far. -/
theorem isGreatest_highest {A : Type} {tally : List A → Tally} {history : List A}
    (new : tally [] = {})
    (moves : ∀ before happens, before ++ [happens] <+: history →
      (tally before).Step (tally (before ++ [happens]))) :
    (tally history).Accurate ∧
      (∀ n, (tally (history.take n)).cutShort ≤ (tally history).cutShort) ∧
      IsGreatest
        (Set.range fun n =>
          (tally (history.take n)).inProgress + (tally (history.take n)).cutShort)
        (tally history).highest := by
  induction history using List.reverseRecOn with
  | nil =>
    simp only [List.take_nil, new, Set.range_const]
    exact ⟨⟨rfl, le_rfl⟩, fun _ => le_rfl, isGreatest_singleton⟩
  | append_singleton history happens ih =>
    obtain ⟨accurate, most, greatest⟩ := ih fun before earlier within =>
      moves before earlier (within.trans (List.prefix_append _ _))
    have now := moves history happens (List.prefix_refl _)
    refine ⟨accurate.step now, fun n => ?_, ?_⟩
    · rcases Nat.lt_or_ge history.length n with beyond | inside
      · rw [List.take_of_length_le (by simp; omega)]
      · rw [List.take_append_of_le_length inside]
        exact (most n).trans now.cutShort_le
    · rw [range_take_concat (fun moment => (tally moment).inProgress + (tally moment).cutShort),
        accurate.highest_step now]
      exact greatest.insert _

/-- Along a history in which no run was cut short the highest count is the largest number of runs in
progress. -/
theorem isGreatest_inProgress {A : Type} {tally : List A → Tally} {history : List A}
    (new : tally [] = {})
    (moves : ∀ before happens, before ++ [happens] <+: history →
      (tally before).Step (tally (before ++ [happens])))
    (whole : (tally history).cutShort = 0) :
    IsGreatest (Set.range fun n => (tally (history.take n)).inProgress)
      (tally history).highest := by
  obtain ⟨-, most, greatest⟩ := isGreatest_highest new moves
  have none (n : Nat) : (tally (history.take n)).cutShort = 0 :=
    Nat.eq_zero_of_le_zero (whole ▸ most n)
  simpa only [none, Nat.add_zero] using greatest

end Tally

/-! ### The counters of scripted launchers -/

namespace ScriptedLaunchers

/-- How many runs are taken to be in progress, and the highest count so far. -/
def counters (launchers : ScriptedLaunchers κ) : Nat × Nat :=
  (launchers.running, launchers.maxRunning)

/-- The runs in numbers, given how many are in progress and were cut short. -/
def tally (launchers : ScriptedLaunchers κ) (inProgress cutShort : Nat) : Tally where
  inProgress
  cutShort
  counted := launchers.running
  highest := launchers.maxRunning

/-- Of the launchers, the tally shows their counters and nothing else. -/
theorem tally_eq {launchers : ScriptedLaunchers κ} {counted highest : Nat}
    (counters : launchers.counters = (counted, highest)) (inProgress cutShort : Nat) :
    launchers.tally inProgress cutShort = { inProgress, cutShort, counted, highest } := by
  obtain ⟨rfl, rfl⟩ := Prod.mk.inj counters
  rfl

/-- What a factory does to the counters of its state. -/
structure Counts (factory : LauncherFactory (ScriptedLaunchers κ) ρ) : Prop where
  create (state : ScriptedLaunchers κ) :
    (factory.create state).value.2.counters = state.counters
  loadSettings (launcher : LauncherId) (state : ScriptedLaunchers κ) :
    (factory.loadSettings launcher state).value.2.counters = state.counters
  configure (launcher : LauncherId) (state : ScriptedLaunchers κ) :
    (factory.configure launcher state).value.2.counters = state.counters
  request (launcher : LauncherId) (tasks : List TaskPath) (state : ScriptedLaunchers κ) :
    (factory.request launcher tasks state).value.counters = state.counters
  beginRun (launcher : LauncherId) (state : ScriptedLaunchers κ) :
    (factory.beginRun launcher state).value.2.counters =
      (state.running + 1, max state.maxRunning (state.running + 1))
  endRun (launcher : LauncherId) (run : ρ) (state : ScriptedLaunchers κ) :
    (factory.endRun launcher run state).value.2.counters = (state.running - 1, state.maxRunning)
  /-- A run that goes on to its end does not panic there. -/
  endRun_ne (launcher : LauncherId) (run : ρ) (state : ScriptedLaunchers κ) (message : String) :
    (factory.endRun launcher run state).value.1 ≠ .panicked message

/-- Loading is not counted. -/
theorem Counts.loadingKeeps {factory : LauncherFactory (ScriptedLaunchers κ) ρ}
    (counts : Counts factory) (now : Nat × Nat) :
    factory.LoadingKeeps fun launchers => launchers.counters = now where
  create same := (counts.create _).trans same
  loadSettings launcher same := (counts.loadSettings launcher _).trans same
  configure launcher same := (counts.configure launcher _).trans same

/-- Whatever shows as the scripted factory counts as it does. -/
theorem Counts.of_shows {other : LauncherFactory (ScriptedLaunchers κ) (ScriptedRun κ)}
    (shows : factory.Shows id other) : Counts other where
  create state := by
    have same := congrArg (·.2.counters) (shows.create state)
    exact same
  loadSettings launcher state := by
    have same := congrArg (·.2.counters) (shows.loadSettings launcher state)
    exact same
  configure launcher state := by
    have same := congrArg (·.2.counters) (shows.configure launcher state)
    exact same
  request launcher tasks state := by
    have same := congrArg counters (shows.request launcher tasks state)
    exact same
  beginRun launcher state := by
    have same := congrArg (·.2.counters) (shows.beginRun launcher state)
    exact same
  endRun launcher run state := by
    have same := congrArg (·.2.counters) (shows.endRun launcher run state)
    exact same
  endRun_ne launcher run state message := by
    have same := congrArg (·.1) (shows.endRun launcher run state)
    simp only [id, Prod.map] at same
    rw [same]
    simp only [factory]
    split <;> simp

end ScriptedLaunchers

open ScriptedLaunchers (Counts tally_eq)

/-! ### Direct calls -/

/-- The answer to a run that was cut short. -/
def DirectAnswer.isCutShort : DirectAnswer → Bool
  | .ran (.panicked _) => true
  | _ => false

/-- From outside, a call changes nothing that is seen in `view`. -/
def DirectCall.Keeps {α : Type} (view : σ → α) (client : Client σ ρ) : DirectCall σ → Prop
  | .changeLaunchers launchers => view launchers = view client.launchers
  | _ => True

namespace Client

/-- From outside, none of the calls changes anything that is seen in `view`. -/
def KeptAlong {α : Type} (view : σ → α) (factory : LauncherFactory σ ρ) (client : Client σ ρ)
    (calls : List (DirectCall σ)) : Prop :=
  ∀ before asked, before ++ [asked] <+: calls → asked.Keeps view (client.callAll factory before)

/-- The number of runs that were cut short. -/
def cutShort (client : Client σ ρ) : Nat := client.answers.countP DirectAnswer.isCutShort

/-- The runs of a client in numbers. -/
def tally (client : Client (ScriptedLaunchers κ) ρ) : Tally :=
  client.launchers.tally client.runs.length client.cutShort

variable {factory : LauncherFactory (ScriptedLaunchers κ) ρ}
  {client : Client (ScriptedLaunchers κ) ρ}

/-- An answer that does not come from a run, and counters that stay, leave the tally as it is. -/
theorem tally_note {answer : DirectAnswer} {launchers : ScriptedLaunchers κ}
    (other : answer.isCutShort = false) (same : launchers.counters = client.launchers.counters) :
    (client.note answer launchers).tally = client.tally := by
  have answers : (client.answers ++ [answer]).countP DirectAnswer.isCutShort =
      client.answers.countP DirectAnswer.isCutShort := by
    rw [List.countP_append, List.countP_singleton, other]
    rfl
  simp only [tally, cutShort, note, answers]
  exact tally_eq same _ _

/-- The end of a run is counted.  The run has not been cut short. -/
theorem tally_call_endRun (counts : Counts factory) (place : Nat) :
    client.tally.Step (client.call factory (.endRun place)).tally := by
  simp only [call]
  split
  · next launcher run found =>
    have inside : place < client.runs.length := (List.getElem?_eq_some_iff.mp found).1
    have whole : DirectAnswer.isCutShort
        (.ran (factory.endRun launcher run client.launchers).value.1) = false := by
      have goes := counts.endRun_ne launcher run client.launchers
      unfold DirectAnswer.isCutShort
      split
      · next message ended => exact absurd (DirectAnswer.ran.inj ended) (goes message)
      · rfl
    simp only [tally, cutShort, note, List.length_eraseIdx_of_lt inside, List.countP_append,
      List.countP_singleton, whole]
    rw [tally_eq (counts.endRun _ _ _)]
    refine .finish ?_
    simp only [ScriptedLaunchers.tally]
    omega
  · exact .quiet

/-- A run that is cut short is counted. -/
theorem tally_call_unwind (place : Nat) (message : String) :
    client.tally.Step (client.call factory (.unwind place message)).tally := by
  simp only [call]
  split
  · next run found =>
    have inside : place < client.runs.length := (List.getElem?_eq_some_iff.mp found).1
    simp only [tally, cutShort, note, List.length_eraseIdx_of_lt inside, List.countP_append]
    refine .cutShort ?_
    simp only [ScriptedLaunchers.tally]
    omega
  · exact .quiet

/-- Every direct call is counted. -/
theorem tally_call (counts : Counts factory) {asked : DirectCall (ScriptedLaunchers κ)}
    (kept : asked.Keeps ScriptedLaunchers.counters client) :
    client.tally.Step (client.call factory asked).tally := by
  cases asked with
  | create =>
    simp only [call]
    rw [tally_note rfl (counts.create _)]
    exact .quiet
  | loadSettings launcher =>
    simp only [call]
    rw [tally_note rfl (counts.loadSettings _ _)]
    exact .quiet
  | configure launcher =>
    simp only [call]
    rw [tally_note rfl (counts.configure _ _)]
    exact .quiet
  | request launcher tasks =>
    simp only [call]
    rw [tally_note rfl (counts.request _ _ _)]
    exact .quiet
  | beginRun launcher =>
    simp only [tally, cutShort, call, note, List.length_append, List.countP_append]
    rw [tally_eq (counts.beginRun _ _)]
    exact .begin
  | endRun place => exact tally_call_endRun counts place
  | unwind place message => exact tally_call_unwind place message
  | changeLaunchers launchers =>
    simp only [tally, cutShort, call]
    rw [tally_eq kept]
    exact .quiet

end Client

/-! ### Builds and their callers -/

/-- A call that runs after a step of its own has begun to run with it. -/
theorem Phase.Step.isRunning_eq_false {name : BuildId} {schedule after : Schedule}
    {phase next : Phase ρ} (step : Phase.Step name schedule phase next after)
    (unasked : ∀ launcher, phase ≠ .requested launcher) : next.isRunning = false := by
  cases step with
  | beginRun => exact absurd rfl (unasked _)
  | _ => rfl

namespace IncludedBuild

variable {build : IncludedBuild (ScriptedLaunchers κ) ρ}

/-- A step of a call that neither begins nor ends a run is not counted. -/
theorem counters_proceed (counts : Counts build.factory) {phase : Phase ρ}
    (idle : phase.isRunning = false) (unasked : ∀ launcher, phase ≠ .requested launcher) :
    (build.proceed phase).value.2.launchers.counters = build.launchers.counters := by
  cases phase with
  | waiting =>
    obtain ⟨schedule, same⟩ := build.wake_changes
    exact congrArg (·.launchers.counters) same
  | claimed claim =>
    simp only [proceed]
    by_cases nothing : claim.fresh = []
    · rw [nothing, launch_nil]
    · rw [launch_of_ne_nil build nothing]
      exact takeLauncher_keeps (counts.loadingKeeps _) rfl
  | launching launcher tasks => exact counts.request _ _ _
  | requested launcher => exact absurd rfl (unasked launcher)
  | running launcher run => simp [Phase.isRunning] at idle
  | _ => rfl

/-- A step of a call of await is counted, while other calls may run as well. -/
theorem tally_proceed (counts : Counts build.factory) (phase : Phase ρ) (others cutShort : Nat) :
    (build.launchers.tally (others + phase.isRunning.toNat) cutShort).Step
      ((build.proceed phase).value.2.launchers.tally
        (others + (build.proceed phase).value.1.isRunning.toNat) cutShort) := by
  by_cases asked : ∃ launcher, phase = .requested launcher
  · obtain ⟨launcher, rfl⟩ := asked
    have launchers : (build.proceed (.requested launcher)).value.2.launchers =
        (build.factory.beginRun launcher build.launchers).value.2 := rfl
    rw [launchers, tally_eq (counts.beginRun launcher build.launchers)]
    exact .begin
  · have unasked (launcher : LauncherId) : phase ≠ .requested launcher :=
      fun same => asked ⟨launcher, same⟩
    have stops : (build.proceed phase).value.1.isRunning = false :=
      (build.proceed_step phase).isRunning_eq_false unasked
    rw [stops]
    cases running : phase.isRunning with
    | false =>
      rw [tally_eq (counters_proceed counts running unasked)]
      exact .quiet
    | true =>
      cases phase with
      | running launcher run =>
        have launchers : (build.proceed (.running launcher run)).value.2.launchers =
            (build.factory.endRun launcher run build.launchers).value.2 :=
          congrArg (·.2.launchers) (build.endRun_value launcher run)
        rw [launchers, tally_eq (counts.endRun launcher run build.launchers)]
        exact .finish rfl
      | _ => simp [Phase.isRunning] at running

end IncludedBuild

/-- A call that is replaced runs as before if the new one does. -/
theorem Callers.countP_setCall {callers : Callers σ ρ} {caller : Nat} {call next : AwaitCall ρ}
    (found : callers.calls[caller]? = some call)
    (same : next.phase.isRunning = call.phase.isRunning) :
    (callers.setCall caller next).phases.countP Phase.isRunning =
      callers.phases.countP Phase.isRunning := by
  obtain ⟨front, back, split, rfl⟩ := callers.exists_split found
  rw [phases_setCall, set_split split, split, Standing.countP_split, Standing.countP_split, same]

/-- A sweep whose run was cut short. -/
def SweepEnd.isCutShort : SweepEnd → Bool
  | .ran _ (.panicked _) => true
  | _ => false

namespace Chronicle

/-- The number of runs that are in progress. -/
def running (chronicle : Chronicle σ ρ) : Nat := chronicle.callers.phases.countP Phase.isRunning

/-- The number of runs that were cut short. -/
def cutShort (chronicle : Chronicle σ ρ) : Nat :=
  chronicle.endings.countP fun ending => ending.2.isCutShort

/-- The runs of a build in numbers. -/
def tally (chronicle : Chronicle (ScriptedLaunchers κ) ρ) : Tally :=
  chronicle.callers.build.launchers.tally chronicle.running chronicle.cutShort

variable {chronicle : Chronicle (ScriptedLaunchers κ) ρ}

/-- An action that cuts no run short leaves their number as it is. -/
theorem cutShort_step {action : Action (ScriptedLaunchers κ)}
    (whole : ∀ ending ∈ chronicle.callers.sweepEnd? action, ending.2.isCutShort = false) :
    (chronicle.step action).cutShort = chronicle.cutShort := by
  have none : (chronicle.callers.sweepEnd? action).toList.countP
      (fun ending => ending.2.isCutShort) = 0 :=
    List.countP_eq_zero.mpr fun ending member => by
      simp [whole ending (Option.mem_toList.mp member)]
  rw [cutShort, step, List.countP_append, none, Nat.add_zero]
  rfl

/-- An action that neither begins nor ends a run leaves the tally as it is. -/
theorem tally_step_of_quiet {action : Action (ScriptedLaunchers κ)}
    (launchers : (chronicle.callers.step action).build.launchers.counters =
      chronicle.callers.build.launchers.counters)
    (running : (chronicle.callers.step action).phases.countP Phase.isRunning =
      chronicle.callers.phases.countP Phase.isRunning)
    (whole : ∀ ending ∈ chronicle.callers.sweepEnd? action, ending.2.isCutShort = false) :
    chronicle.tally.Step (chronicle.step action).tally := by
  have running : (chronicle.step action).running = chronicle.running := running
  have counters : (chronicle.step action).callers.build.launchers.counters =
      chronicle.callers.build.launchers.counters := launchers
  have same : (chronicle.step action).tally = chronicle.tally := by
    rw [tally, cutShort_step whole, running, tally_eq counters]
    rfl
  rw [same]
  exact .quiet

/-- A run that goes on to its end is not cut short. -/
theorem whole_of_proceed (counts : Counts chronicle.callers.build.factory) (caller : Nat) :
    ∀ ending ∈ chronicle.callers.sweepEnd? (.proceed caller), ending.2.isCutShort = false := by
  intro ending ended
  simp only [Callers.sweepEnd?] at ended
  split at ended
  · next launcher run _ =>
    obtain rfl := Option.some.inj ended
    have goes := counts.endRun_ne launcher run chronicle.callers.build.launchers
    unfold SweepEnd.isCutShort
    split
    · next message cut => exact absurd (SweepEnd.ran.inj cut).2 (goes message)
    · rfl
  · cases ended

/-- A step of a call is counted. -/
theorem tally_step_proceed (counts : Counts chronicle.callers.build.factory) {caller : Nat}
    {phase : Phase ρ}
    (found : chronicle.callers.calls[caller]? = some { phase, asleep := false }) :
    chronicle.tally.Step (chronicle.step (.proceed caller)).tally := by
  obtain ⟨front, back, split, rfl⟩ := chronicle.callers.exists_split found
  have moved : (chronicle.callers.step (.proceed front.length)).phases =
      front ++ (chronicle.callers.build.proceed phase).value.1 :: back := by
    simp only [Callers.step, found]
    rw [chronicle.callers.phases_proceed, set_split split]
  have build : (chronicle.callers.step (.proceed front.length)).build =
      (chronicle.callers.build.proceed phase).value.2 := by
    simp only [Callers.step, found]
    rfl
  have counted := IncludedBuild.tally_proceed counts phase
    (front.countP Phase.isRunning + back.countP Phase.isRunning) chronicle.cutShort
  rw [← Standing.countP_split, ← Standing.countP_split, ← split, ← moved, ← build] at counted
  unfold tally
  rw [cutShort_step (whole_of_proceed counts front.length)]
  exact counted

/-- A panic in the run of a call is counted. -/
theorem tally_step_unwind {caller : Nat} {call : AwaitCall ρ}
    (found : chronicle.callers.calls[caller]? = some call) (message : String) :
    chronicle.tally.Step (chronicle.step (.unwind caller message)).tally := by
  obtain ⟨phase, asleep⟩ := call
  have next : chronicle.callers.step (.unwind caller message) =
      chronicle.callers.setCall caller { phase := IncludedBuild.unwind message phase, asleep } := by
    simp only [Callers.step, found]
  cases phase with
  | running launcher run =>
    obtain ⟨front, back, split, rfl⟩ := chronicle.callers.exists_split found
    have ended : chronicle.callers.sweepEnd? (.unwind front.length message) =
        some (front.length, .ran launcher (.panicked message)) := by
      simp only [Callers.sweepEnd?, found]
    have endings : (chronicle.step (.unwind front.length message)).cutShort =
        chronicle.cutShort + 1 := by
      rw [cutShort, step, ended, List.countP_append]
      rfl
    have others : (chronicle.step (.unwind front.length message)).running =
        front.countP Phase.isRunning + back.countP Phase.isRunning := by
      rw [running, step, next, Callers.phases_setCall, set_split split, Standing.countP_split]
      rfl
    have busy : chronicle.running =
        (front.countP Phase.isRunning + back.countP Phase.isRunning) + 1 := by
      rw [running, split, Standing.countP_split]
      rfl
    have same : (chronicle.step (.unwind front.length message)).callers.build =
        chronicle.callers.build := by
      rw [step, next]
      rfl
    unfold tally
    rw [endings, others, same]
    exact .cutShort busy
  | _ =>
    refine tally_step_of_quiet (by rw [next]; rfl) ?_ (by simp [Callers.sweepEnd?, found])
    rw [next]
    exact Callers.countP_setCall found rfl

/-- An action that does nothing and ends no sweep leaves the tally as it is. -/
theorem tally_step_of_stay {action : Action (ScriptedLaunchers κ)}
    (stays : chronicle.callers.step action = chronicle.callers)
    (ends : chronicle.callers.sweepEnd? action = none) :
    chronicle.tally.Step (chronicle.step action).tally := by
  refine tally_step_of_quiet ?_ ?_ (by simp [ends])
  · rw [stays]
  · rw [stays]

/-- The beginning of a call is not counted. -/
theorem tally_step_enter : chronicle.tally.Step (chronicle.step .enter).tally := by
  have idle : chronicle.callers.build.enter.value.1.isRunning = false := by
    unfold IncludedBuild.enter
    split <;> rfl
  obtain ⟨schedule, same⟩ := chronicle.callers.build.enter_changes
  refine tally_step_of_quiet ?_ ?_ (by simp [Callers.sweepEnd?])
  · exact congrArg (·.launchers.counters) same
  · simp [Callers.step, Callers.enter, Callers.phases, AwaitCall.settled, List.countP_append, idle]

/-- Waking a call is not counted. -/
theorem tally_step_wake {caller : Nat} {call : AwaitCall ρ}
    (found : chronicle.callers.calls[caller]? = some call) :
    chronicle.tally.Step (chronicle.step (.wake caller)).tally := by
  have next : chronicle.callers.step (.wake caller) =
      chronicle.callers.setCall caller call.notified := by simp only [Callers.step, found]
  refine tally_step_of_quiet (by rw [next]; rfl) ?_ (by simp [Callers.sweepEnd?])
  rw [next]
  exact Callers.countP_setCall found rfl

/-- A panic outside of a run is not counted. -/
theorem tally_step_abort {caller : Nat} {call : AwaitCall ρ}
    (found : chronicle.callers.calls[caller]? = some call) (message : String) :
    chronicle.tally.Step (chronicle.step (.abort caller message)).tally := by
  have idle : (chronicle.callers.build.abort message call.phase).1.isRunning =
      call.phase.isRunning := by
    rw [chronicle.callers.build.abort_phase]
    split
    · next may =>
      have preparing := IncludedBuild.isPreparing_of_mayAbort may
      cases phase : call.phase <;> simp_all [Phase.isPreparing, Phase.isRunning]
    · rfl
  refine tally_step_of_quiet ?_ ?_ ?_
  · simp only [Callers.step, found]
    rw [chronicle.callers.build.abort_launchers message call.phase]
  · simp only [Callers.step, found]
    exact Callers.countP_setCall found idle
  · simp only [Callers.sweepEnd?, found]
    intro ending ended
    split at ended
    · obtain rfl := Option.some.inj ended
      rfl
    · cases ended

/-- **Every action is counted.**  One case per action; an action of a call that does not exist, or
sleeps, does nothing. -/
theorem tally_step (counts : Counts chronicle.callers.build.factory)
    {action : Action (ScriptedLaunchers κ)}
    (kept : action.Keeps ScriptedLaunchers.counters chronicle.callers) :
    chronicle.tally.Step (chronicle.step action).tally := by
  cases action with
  | enter => exact tally_step_enter
  | proceed caller =>
    cases found : chronicle.callers.calls[caller]? with
    | none =>
      exact tally_step_of_stay (by simp only [Callers.step, found])
        (by simp only [Callers.sweepEnd?, found])
    | some call =>
      obtain ⟨phase, asleep⟩ := call
      cases asleep with
      | false => exact tally_step_proceed counts found
      | true =>
        exact tally_step_of_stay (by simp only [Callers.step, found])
          (by simp only [Callers.sweepEnd?, found])
  | wake caller =>
    cases found : chronicle.callers.calls[caller]? with
    | none => exact tally_step_of_stay (by simp only [Callers.step, found]) rfl
    | some call => exact tally_step_wake found
  | unwind caller message =>
    cases found : chronicle.callers.calls[caller]? with
    | none =>
      exact tally_step_of_stay (by simp only [Callers.step, found])
        (by simp only [Callers.sweepEnd?, found])
    | some call => exact tally_step_unwind found message
  | abort caller message =>
    cases found : chronicle.callers.calls[caller]? with
    | none =>
      exact tally_step_of_stay (by simp only [Callers.step, found])
        (by simp only [Callers.sweepEnd?, found])
    | some call => exact tally_step_abort found message
  | beside side =>
    refine tally_step_of_quiet (SideStep.apply_keeps (counts.loadingKeeps _) rfl ?_) rfl
      (by simp [Callers.sweepEnd?])
    rintro launchers rfl
    exact kept

/-- Of the calls of one build at most one runs. -/
theorem running_le_one (name : BuildId) (projectDir : String) (factory : LauncherFactory σ ρ)
    (launchers : σ) (actions : List (Action σ)) :
    ((start name projectDir factory launchers).run actions).running ≤ 1 := by
  let callers := (Callers.start name projectDir factory launchers).run actions
  have books : callers.standing.Books :=
    Callers.books_run name projectDir factory launchers actions
  rw [running, callers_run]
  calc callers.phases.countP Phase.isRunning
    _ ≤ callers.phases.countP Phase.ownsSweep :=
        List.countP_mono_left fun phase _ => Phase.ownsSweep_of_isRunning
    _ = callers.build.schedule.executing.toNat := books.owners
    _ ≤ 1 := Bool.toNat_le _

end Chronicle

/-! ### Histories -/

/-- Every call of a history is counted. -/
theorem Client.tally_concat {factory : LauncherFactory (ScriptedLaunchers κ) ρ}
    (counts : Counts factory) {client : Client (ScriptedLaunchers κ) ρ}
    {calls before : List (DirectCall (ScriptedLaunchers κ))}
    {asked : DirectCall (ScriptedLaunchers κ)}
    (kept : KeptAlong ScriptedLaunchers.counters factory client calls)
    (within : before ++ [asked] <+: calls) :
    (client.callAll factory before).tally.Step
      (client.callAll factory (before ++ [asked])).tally := by
  rw [callAll, callAll, List.foldl_append]
  exact tally_call counts (kept before asked within)

/-- What actions keep along a run each of them keeps when it happens. -/
theorem Callers.KeptAlong.keeps {α : Type} {view : σ → α} {callers : Callers σ ρ}
    {actions before : List (Action σ)} {action : Action σ} (kept : callers.KeptAlong view actions)
    (within : before ++ [action] <+: actions) : action.Keeps view (callers.run before) := by
  induction before generalizing callers actions with
  | nil =>
    obtain ⟨later, rfl⟩ := within
    exact kept.1
  | cons first before ih =>
    obtain ⟨later, rfl⟩ := within
    exact ih kept.2 ⟨later, rfl⟩

/-- Every action of a history is counted. -/
theorem Chronicle.tally_concat {name : BuildId} {projectDir : String}
    {factory : LauncherFactory (ScriptedLaunchers κ) ρ} {launchers : ScriptedLaunchers κ}
    (counts : Counts factory) {actions before : List (Action (ScriptedLaunchers κ))}
    {action : Action (ScriptedLaunchers κ)}
    (kept : (Callers.start name projectDir factory launchers).KeptAlong
      ScriptedLaunchers.counters actions)
    (within : before ++ [action] <+: actions) :
    ((start name projectDir factory launchers).run before).tally.Step
      ((start name projectDir factory launchers).run (before ++ [action])).tally := by
  have callers : ((start name projectDir factory launchers).run before).callers =
      (Callers.start name projectDir factory launchers).run before := callers_run _ before
  have unchanged : ((start name projectDir factory launchers).run before).callers.build.factory =
      factory := by
    rw [callers, Callers.run_factory]
    rfl
  have still : Counts
      ((start name projectDir factory launchers).run before).callers.build.factory := by
    rwa [unchanged]
  have keeps : action.Keeps ScriptedLaunchers.counters
      ((start name projectDir factory launchers).run before).callers := by
    rw [callers]
    exact kept.keeps within
  have last : (start name projectDir factory launchers).run (before ++ [action]) =
      ((start name projectDir factory launchers).run before).step action := List.foldl_append
  rw [last]
  exact tally_step still keeps

namespace ScriptedLaunchers

/-- **What the highest count says.**  Take a factory that cannot be told from the scripted one, such
as that one when it is traced, and launchers of which none has been run.

* Whoever calls them directly, with any number of runs at a time, of which each may succeed, fail or
  be cut short by its hook, finds in the end that the highest count is the largest number of runs
  that were in progress at one moment together with those that had been cut short by then.  So it is
  the largest number of runs in progress if none was cut short.
* The same holds of a build over them and its callers.  At most one of its runs is in progress at a
  time, and so the highest count exceeds the number of runs that were cut short by one at most. -/
theorem highest_count_of_runs {factory : LauncherFactory (ScriptedLaunchers κ) (ScriptedRun κ)}
    (scripted : ScriptedLaunchers.factory.Shows id factory) {launchers : ScriptedLaunchers κ}
    (new : launchers.counters = (0, 0)) :
    (∀ calls, Client.KeptAlong counters factory { launchers } calls →
      let client (n : Nat) := Client.callAll factory { launchers } (calls.take n)
      let last := client calls.length
      IsGreatest (Set.range fun n => (client n).runs.length + (client n).cutShort)
        last.launchers.maxRunning ∧
      (last.cutShort = 0 →
        IsGreatest (Set.range fun n => (client n).runs.length) last.launchers.maxRunning)) ∧
    ∀ name projectDir actions,
      (Callers.start name projectDir factory launchers).KeptAlong counters actions →
      let build (n : Nat) :=
        (Chronicle.start name projectDir factory launchers).run (actions.take n)
      let last := build actions.length
      let highest := last.callers.build.launchers.maxRunning
      IsGreatest (Set.range fun n => (build n).running + (build n).cutShort) highest ∧
      (∀ n, (build n).running ≤ 1) ∧
      highest ≤ last.cutShort + 1 ∧
      (last.cutShort = 0 → IsGreatest (Set.range fun n => (build n).running) highest) := by
  have counts : Counts factory := .of_shows scripted
  refine ⟨fun calls kept => ?_, fun name projectDir actions kept => ?_⟩
  · intro client last
    let tally (history : List (DirectCall (ScriptedLaunchers κ))) : Tally :=
      (Client.callAll factory { launchers } history).tally
    have start : tally [] = {} := tally_eq new 0 0
    have moves (before : List (DirectCall (ScriptedLaunchers κ)))
        (asked : DirectCall (ScriptedLaunchers κ)) (within : before ++ [asked] <+: calls) :
        (tally before).Step (tally (before ++ [asked])) := Client.tally_concat counts kept within
    have whole : client calls.length = Client.callAll factory { launchers } calls :=
      congrArg (Client.callAll factory { launchers }) List.take_length
    refine ⟨?_, fun none => ?_⟩
    · simp only [last, whole]
      exact (Tally.isGreatest_highest start moves).2.2
    · simp only [last, whole] at none ⊢
      exact Tally.isGreatest_inProgress start moves none
  · intro build last highest
    let tally (history : List (Action (ScriptedLaunchers κ))) : Tally :=
      ((Chronicle.start name projectDir factory launchers).run history).tally
    have start : tally [] = {} := tally_eq new 0 0
    have moves (before : List (Action (ScriptedLaunchers κ)))
        (action : Action (ScriptedLaunchers κ)) (within : before ++ [action] <+: actions) :
        (tally before).Step (tally (before ++ [action])) :=
      Chronicle.tally_concat counts kept within
    have whole : build actions.length =
        (Chronicle.start name projectDir factory launchers).run actions :=
      congrArg (Chronicle.run _) List.take_length
    have alone (n : Nat) : (build n).running ≤ 1 :=
      Chronicle.running_le_one name projectDir factory launchers _
    obtain ⟨-, most, greatest⟩ := Tally.isGreatest_highest start moves
    have reached : highest = (tally actions).highest := by
      simp only [highest, last, whole]
      rfl
    rw [reached]
    refine ⟨greatest, alone, ?_, fun none => ?_⟩
    · obtain ⟨n, found⟩ := greatest.1
      have before : (build n).cutShort ≤ last.cutShort := by
        simp only [last, whole]
        exact most n
      have now : (build n).running + (build n).cutShort = (tally actions).highest := found
      have one := alone n
      omega
    · simp only [last, whole] at none
      exact Tally.isGreatest_inProgress start moves none

/-- Two sweeps, one after the other, of which the run of the first is cut short. -/
def cutShortFirst : List (Action (ScriptedLaunchers Unit)) :=
  let first : TaskPath := { text := ":a", qualified := by decide }
  let second : TaskPath := { text := ":b", qualified := by decide }
  [.beside (.queue [first]), .enter, .proceed 0, .proceed 0, .proceed 0, .unwind 0 "boom",
    .proceed 0, .beside (.queue [second]), .enter, .proceed 1, .proceed 1, .proceed 1, .proceed 1,
    .proceed 1]

/-- Two runs overlap, and when both are over, one of them cut short, another one begins. -/
def overlapping : List (DirectCall (ScriptedLaunchers Unit)) :=
  [.create, .create, .beginRun 1, .beginRun 2, .unwind 0 "boom", .endRun 0, .create, .beginRun 3]

/-- After `overlapping` the highest count is right, because there were never more than two runs, in
progress or cut short.  After `cutShortFirst` it is two, as one run had been cut short when the
other one began. -/
theorem highest_count_of_runs_cutShort :
    let factory := ScriptedLaunchers.factory.traced ⟨"lib"⟩
    let launchers : ScriptedLaunchers Unit := .ofProject "lib" []
    let client (n : Nat) := Client.callAll factory { launchers } (overlapping.take n)
    let directly := (client overlapping.length).launchers.maxRunning
    let build (n : Nat) := (Chronicle.start ⟨"lib"⟩ "/lib" factory launchers).run
      (cutShortFirst.take n)
    let inBuild := (build cutShortFirst.length).callers.build.launchers.maxRunning
    launchers.counters = (0, 0) ∧
    Client.KeptAlong counters factory { launchers } overlapping ∧
    (Callers.start ⟨"lib"⟩ "/lib" factory launchers).KeptAlong counters cutShortFirst ∧
    directly = 2 ∧
    IsGreatest (Set.range fun n => (client n).runs.length + (client n).cutShort) directly ∧
    inBuild = 2 ∧
    IsGreatest (Set.range fun n => (build n).running + (build n).cutShort) inBuild := by
  intro factory launchers client directly build inBuild
  have quiet : ∀ asked ∈ overlapping, ∀ client : Client (ScriptedLaunchers Unit) (ScriptedRun Unit),
      asked.Keeps counters client := by
    simp [overlapping, DirectCall.Keeps]
  have calls : Client.KeptAlong counters factory { launchers } overlapping :=
    fun before asked within => quiet asked (within.subset (by simp)) _
  have actions :
      (Callers.start ⟨"lib"⟩ "/lib" factory launchers).KeptAlong counters cutShortFirst :=
    .of_keepsLaunchers (by decide +kernel)
  have new : launchers.counters = (0, 0) := rfl
  have scripted : ScriptedLaunchers.factory.Shows id factory :=
    ScriptedLaunchers.factory.shows_traced ⟨"lib"⟩
  obtain ⟨direct, builds⟩ := highest_count_of_runs scripted new
  obtain ⟨greatestDirectly, -⟩ := direct overlapping calls
  obtain ⟨greatestInBuild, -⟩ := builds ⟨"lib"⟩ "/lib" cutShortFirst actions
  refine ⟨new, calls, actions, ?_, ?_, ?_, ?_⟩
  · decide +kernel
  · exact greatestDirectly
  · decide +kernel
  · simpa only [inBuild, build] using greatestInBuild

/-- The highest count is not the largest number of runs in progress: after `cutShortFirst` it is
two, although there was never more than one. -/
theorem highest_count_exceeds_overlap :
    let factory := ScriptedLaunchers.factory.traced ⟨"lib"⟩
    let build (n : Nat) := (Chronicle.start ⟨"lib"⟩ "/lib" factory (.ofProject "lib" [])).run
      (cutShortFirst.take n)
    let highest := (build cutShortFirst.length).callers.build.launchers.maxRunning
    highest = 2 ∧ (∀ n, (build n).running ≤ 1) ∧
    ¬IsGreatest (Set.range fun n => (build n).running) highest := by
  intro factory build highest
  have alone (n : Nat) : (build n).running ≤ 1 :=
    Chronicle.running_le_one ⟨"lib"⟩ "/lib" factory _ _
  have two : highest = 2 := by decide +kernel
  refine ⟨two, alone, ?_⟩
  rintro ⟨⟨n, reached⟩, -⟩
  have now : (build n).running = highest := reached
  have one := alone n
  omega

end ScriptedLaunchers

end CompositeBuild
