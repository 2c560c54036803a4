import CompositeBuild.Proofs.Await.Standing
import CompositeBuild.Proofs.Await.Twins

/-!
# The ends of runs decide nothing

How a run ends is told to the call that it was made for, and to nobody else.  Take two executions of
one build that are the same step by step, but for how runs end: by success, by a failure or by a
panic (`Callers.Counterparts`).  Builds that were alike at the beginning are twins after every step,
so both executions go through the same schedules and slots, and call the same launchers in the same
order (`Callers.ends_of_runs_decide_nothing`).
-/

namespace CompositeBuild

variable {σ ρ : Type}

namespace Callers

/-! ### Executions that differ in how runs end -/

/-- Two executions that are the same step by step, but for how runs end.  The first begins with the
given callers.  From outside, the states of launchers may change at any time, to states that are
alike. -/
inductive Counterparts (R : σ → σ → Prop) :
    Callers (Watched σ) ρ → List (Action (Watched σ)) → List (Action (Watched σ)) → Prop
  | nil {callers : Callers (Watched σ) ρ} : Counterparts R callers [] []
  /-- The same happens in both. -/
  | same {callers : Callers (Watched σ) ρ} {rest rest' : List (Action (Watched σ))}
      (action : Action (Watched σ)) (kept : action.keepsLaunchers = true)
      (later : Counterparts R (callers.step action) rest rest') :
      Counterparts R callers (action :: rest) (action :: rest')
  /-- The states of the launchers change. -/
  | change {callers : Callers (Watched σ) ρ} {rest rest' : List (Action (Watched σ))}
      {state state' : σ} (related : R state state')
      (later : Counterparts R
        (callers.step (.beside (.changeLaunchers { callers.build.launchers with state })))
        rest rest') :
      Counterparts R callers
        (.beside (.changeLaunchers { callers.build.launchers with state }) :: rest)
        (.beside (.changeLaunchers { callers.build.launchers with state := state' }) :: rest')
  /-- The run of a call ends in both, in each as its launcher wants it to, or by a panic. -/
  | ends {callers : Callers (Watched σ) ρ} {rest rest' : List (Action (Watched σ))}
      (caller : Nat) {action action' : Action (Watched σ)} (runs : callers.runs caller = true)
      (ends : action.endsRun caller = true) (ends' : action'.endsRun caller = true)
      (later : Counterparts R (callers.step action) rest rest') :
      Counterparts R callers (action :: rest) (action' :: rest')

namespace Counterparts

variable {R : σ → σ → Prop} {callers : Callers (Watched σ) ρ}
  {actions actions' : List (Action (Watched σ))}

/-- Executions that are the same but for how runs end have been so all along. -/
theorem take (counterparts : Counterparts R callers actions actions') (n : Nat) :
    Counterparts R callers (actions.take n) (actions'.take n) := by
  induction counterparts generalizing n with
  | nil => simpa using .nil
  | same action kept later ih =>
    cases n with
    | zero => exact .nil
    | succ n => exact .same action kept (ih n)
  | change related later ih =>
    cases n with
    | zero => exact .nil
    | succ n => exact .change related (ih n)
  | ends caller runs ends ends' later ih =>
    cases n with
    | zero => exact .nil
    | succ n => exact .ends caller runs ends ends' (ih n)

/-- Executions that are the same but for how runs end lead from twins to twins. -/
theorem twins (counterparts : Counterparts R callers actions actions')
    {callers' : Callers (Watched σ) ρ} (twins : Twins (Watched.Alike R) callers callers') :
    Twins (Watched.Alike R) (callers.run actions) (callers'.run actions') := by
  induction counterparts generalizing callers' with
  | nil => exact twins
  | same action kept later ih => exact ih (twins.step action kept)
  | @change callers _ _ state state' related later ih =>
    have alike : Watched.Alike R { callers.build.launchers with state }
        { callers.build.launchers with state := state' } := ⟨rfl, related⟩
    refine ih { build := twins.build.withLaunchers alike, calls := twins.calls, history := ?_ }
    simp only [step, twins.history]
  | ends caller runs ends ends' later ih => exact ih (twins.endsRun runs ends ends')

end Counterparts

end Callers

/-! ### What poisons a schedule -/

/-- Whether an action poisons the schedule. -/
def Action.poisons : Action σ → Bool
  | .beside side => side.poisons
  | _ => false

/-- Schedules are poisoned by sources that panic. -/
theorem Action.poisons_iff {action : Action σ} :
    action.poisons = true ↔ ∃ paths, action = .beside (.queueAndPoison paths) := by
  cases action with
  | beside side => cases side <;> simp [Action.poisons, SideStep.poisons]
  | _ => simp [Action.poisons]

/-- A step of a call does not poison the schedule. -/
theorem Phase.Step.poisoned {name : BuildId} {schedule after : Schedule} {phase next : Phase ρ}
    (step : Phase.Step name schedule phase next after) : after.poisoned = schedule.poisoned := by
  cases step <;> rfl

namespace Callers

/-- A schedule is poisoned by nothing else. -/
theorem poisoned_step (callers : Callers σ ρ) (action : Action σ) :
    (callers.step action).build.schedule.poisoned =
      (callers.build.schedule.poisoned || action.poisons) := by
  cases action with
  | enter =>
    simp only [step, enter, IncludedBuild.enter, Action.poisons, Bool.or_false]
    split <;> rfl
  | proceed caller =>
    simp only [step, Action.poisons, Bool.or_false]
    split
    · exact (callers.build.proceed_step _).poisoned
    · rfl
  | abort caller message =>
    simp only [step, Action.poisons, Bool.or_false]
    split
    · exact congrArg Schedule.poisoned (abort_cases callers.build message _).1
    · rfl
  | beside side => exact congrArg Schedule.poisoned (side.apply_schedule callers.build)
  | _ =>
    simp only [step, Action.poisons, Bool.or_false]
    split <;> rfl

/-- A schedule is poisoned if it was, or if a source has panicked since. -/
theorem poisoned_run (callers : Callers σ ρ) (actions : List (Action σ)) :
    (callers.run actions).build.schedule.poisoned = true ↔
      callers.build.schedule.poisoned = true ∨
        ∃ paths, .beside (.queueAndPoison paths) ∈ actions := by
  induction actions generalizing callers with
  | nil => simp [run]
  | cons action actions ih =>
    have first : (callers.run (action :: actions)) = (callers.step action).run actions := rfl
    rw [first, ih, poisoned_step, Bool.or_eq_true, or_assoc, Action.poisons_iff]
    simp only [List.mem_cons, exists_or, eq_comm]

/-! ### The law -/

variable {R : σ → σ → Prop} {one other : LauncherFactory σ ρ}

/-- **How runs end decides nothing but what is returned for them.**  Take launchers that agree but
for how runs end, and two executions that are the same step by step, but for whether runs succeed,
fail or panic.  At every point the schedules are equal, and so are the slots, the calls that
launchers got, the histories, and where the calls of await stand.

So a sweep that takes a launcher leaves none in the slot, and the end of its run, however it ends,
leaves the schedule and the slot as they are and calls no launcher; its call releases the schedule
next.  What poisons the schedule is a source that panics, never a run. -/
theorem ends_of_runs_decide_nothing (agree : one.AgreeButEnds other R) {launchers launchers' : σ}
    (related : R launchers launchers') (name : BuildId) (projectDir : String)
    {actions actions' : List (Action (Watched σ))}
    (counterparts : Counterparts R (start name projectDir one.watched { state := launchers })
      actions actions') (n : Nat) :
    let callers := (start name projectDir one.watched { state := launchers }).run (actions.take n)
    let callers' :=
      (start name projectDir other.watched { state := launchers' }).run (actions'.take n)
    callers.build.schedule = callers'.build.schedule ∧
    callers.build.slot = callers'.build.slot ∧
    callers.build.launchers.calls = callers'.build.launchers.calls ∧
    callers.history = callers'.history ∧
    callers.calls.map AwaitCall.outline = callers'.calls.map AwaitCall.outline ∧
    (∀ caller claim, callers.calls[caller]? = some ⟨.claimed claim, false⟩ → claim.fresh ≠ [] →
      (callers.step (.proceed caller)).build.slot.launcher = none) ∧
    (∀ caller action, callers.runs caller = true → action.endsRun caller = true →
      let after := callers.step action
      after.build.schedule = callers.build.schedule ∧
      after.build.slot = callers.build.slot ∧
      after.build.launchers.calls = callers.build.launchers.calls ∧
      (after.step (.proceed caller)).build.schedule = callers.build.schedule.release) ∧
    (callers.build.schedule.poisoned = true ↔
      ∃ paths, .beside (.queueAndPoison paths) ∈ actions.take n) := by
  intro callers callers'
  have twins : Twins (Watched.Alike R) callers callers' := by
    refine (counterparts.take n).twins { build := ?_, calls := rfl, history := rfl }
    exact { factory := agree.watched, launchers := ⟨rfl, related⟩, name := rfl, schedule := rfl,
            slot := rfl, substitutions := rfl }
  refine ⟨twins.build.schedule, twins.build.slot, twins.build.launchers.1, twins.history,
    twins.calls, ?_, ?_, ?_⟩
  · intro caller claim found something
    have launched : (callers.step (.proceed caller)).build =
        (callers.build.launch claim.fresh).value.2 := by
      simp only [step, found]
      rfl
    rw [launched, IncludedBuild.launch_of_ne_nil _ something]
    exact callers.build.takeLauncher_slot
  · intro caller action runs ends after
    obtain ⟨launcher, run, found⟩ := exists_of_runs runs
    obtain ⟨result, build, outcome, buildCases⟩ := step_endsRun found ends
    have still : build.Twins (Watched.Alike R) callers'.build := twins.build.ended_left buildCases
    have ended : after = { callers.setCall caller ⟨.ending result, false⟩ with build } := outcome
    have sameSchedule : build.schedule = callers.build.schedule :=
      still.schedule.trans twins.build.schedule.symm
    have there : after.calls[caller]? = some ⟨.ending result, false⟩ := by
      rw [ended]
      exact List.getElem?_set_self (List.getElem?_eq_some_iff.mp found).1
    refine ⟨?_, ?_, ?_, ?_⟩
    · rw [ended, sameSchedule]
    · rw [ended, still.slot, twins.build.slot]
    · rw [ended, still.launchers.1, twins.build.launchers.1]
    · simp only [step, there, proceed, IncludedBuild.proceed, Logged.pure_value]
      rw [ended, sameSchedule]
  · simpa [callers, start] using
      poisoned_run (start name projectDir one.watched { state := launchers }) (actions.take n)

/-- Two callers of one build, whose scripted launchers are watched.  During the first run a path is
queued and the settings are loaded.  The second caller, which has waited, then sweeps with the
launcher that loaded them, and its run ends as `last` says. -/
def twoRuns (last : Action (Watched (ScriptedLaunchers Unit))) :
    List (Action (Watched (ScriptedLaunchers Unit))) :=
  let assemble : TaskPath := { text := ":assemble", qualified := by decide }
  let check : TaskPath := { text := ":check", qualified := by decide }
  [.beside (.queue [assemble]), .enter, .enter, .proceed 0, .proceed 0, .proceed 0,
    .beside (.queue [check]), .beside .loadSettings, .proceed 0, .proceed 0, .proceed 1,
    .proceed 1, .proceed 1, .proceed 1, last, .proceed 1]

/-- A failure and a panic leave the same schedule, slot and calls as two successes. -/
theorem ends_of_runs_decide_nothing_twoRuns :
    let sound : ScriptedLaunchers Unit := .ofProject "app" []
    let failing := sound.failNextRun (.ofMessage "no space left")
    let unlucky := (start ⟨"app"⟩ "/app" ScriptedLaunchers.factory.watched
      { state := failing }).run (twoRuns (.unwind 1 "out of memory"))
    let lucky := (start ⟨"app"⟩ "/app" ScriptedLaunchers.factory.watched
      { state := sound }).run (twoRuns (.proceed 1))
    unlucky.phases.map Phase.result? =
      [some (.failed (.execution (.ofMessage "no space left"))), some (.panicked "out of memory")] ∧
    lucky.phases.map Phase.result? = [some (.returned ()), some (.returned ())] ∧
    unlucky.build.schedule = lucky.build.schedule ∧
    unlucky.build.slot = lucky.build.slot ∧
    unlucky.build.launchers.calls = lucky.build.launchers.calls := by
  intro sound failing unlucky lucky
  have related : ScriptedLaunchers.AlikeButRuns failing sound := ⟨rfl, rfl, rfl, rfl, rfl⟩
  have counterparts : Counterparts ScriptedLaunchers.AlikeButRuns
      (start ⟨"app"⟩ "/app" ScriptedLaunchers.factory.watched { state := failing })
      (twoRuns (.unwind 1 "out of memory")) (twoRuns (.proceed 1)) :=
    .same _ rfl <| .same _ rfl <| .same _ rfl <| .same _ rfl <| .same _ rfl <| .same _ rfl <|
    .same _ rfl <| .same _ rfl <| .ends 0 (by decide +kernel) rfl rfl <| .same _ rfl <|
    .same _ rfl <| .same _ rfl <| .same _ rfl <| .same _ rfl <|
    .ends 1 (by decide +kernel) rfl rfl <| .same _ rfl <| .nil
  have whole (last : Action (Watched (ScriptedLaunchers Unit))) :
      (twoRuns last).take 16 = twoRuns last := rfl
  have atTheEnd := ends_of_runs_decide_nothing
    ScriptedLaunchers.agreeButEnds related ⟨"app"⟩ "/app" counterparts 16
  rw [whole, whole] at atTheEnd
  obtain ⟨schedule, slot, calls, -⟩ := atTheEnd
  refine ⟨by decide +kernel, by decide +kernel, ?_⟩
  simp only [unlucky, lucky]
  exact ⟨schedule, slot, calls⟩

end Callers

end CompositeBuild
