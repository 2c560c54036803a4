import CompositeBuild.Proofs.Await.Sweeps

/-!
# No caller is stranded

A call that finds a sweep in flight goes to sleep in the wait set.  Nobody sleeps there for nothing:
as long as one call sleeps, the flag of the schedule is up (`Callers.Guarded`).  A call that goes to
sleep has seen the flag up, and the one action that lowers it, the release at the end of a sweep,
wakes everybody in the same step.  It does not matter how the sweep ended, whether the schedule is
poisoned, and how often woken calls are overtaken and go back to sleep.

Together with the books of the schedule, which say that a raised flag belongs to a call, this means
that a sleeping call always has somebody who will wake it (`Callers.no_caller_is_stranded`).
-/

namespace CompositeBuild

variable {σ ρ : Type}

namespace AwaitCall

@[simp] theorem asleep_settled (phase : Phase ρ) : (settled phase).asleep = phase.isWaiting := rfl

@[simp] theorem asleep_notified (call : AwaitCall ρ) : call.notified.asleep = false := rfl

end AwaitCall

namespace IncludedBuild

/-- A panic in a run is no matter for a call that waits. -/
theorem unwind_of_waiting {message : String} {phase : Phase ρ} (waits : phase.isWaiting = true) :
    unwind message phase = phase := by
  cases phase <;> simp_all [unwind, Phase.isWaiting]

/-- A panic outside of a run is no matter for a call that waits either. -/
theorem abort_of_waiting (build : IncludedBuild σ ρ) {message : String} {phase : Phase ρ}
    (waits : phase.isWaiting = true) : build.abort message phase = (phase, build) := by
  cases phase <;> simp_all [abort, Phase.isWaiting]

end IncludedBuild

namespace Callers

variable {callers : Callers σ ρ}

/-- Whoever sleeps waits for a sweep in flight. -/
def Guarded (callers : Callers σ ρ) : Prop :=
  ∀ call ∈ callers.calls, call.asleep = true →
    call.phase.isWaiting = true ∧ callers.build.schedule.executing = true

namespace Guarded

/-- Nobody sleeps on an idle schedule. -/
theorem awake_of_idle (guarded : callers.Guarded)
    (idle : callers.build.schedule.executing = false) :
    ∀ call ∈ callers.calls, call.asleep = false := by
  intro call member
  by_contra sleeps
  have busy := (guarded call member (by simpa using sleeps)).2
  simp [idle] at busy

/-- Calls that are where they were sleep for a reason as long as the flag stays up. -/
theorem mono (guarded : callers.Guarded) {later : Callers σ ρ}
    (old : ∀ call ∈ later.calls, call.asleep = true → call ∈ callers.calls)
    (flag : callers.build.schedule.executing = true →
      later.build.schedule.executing = true) : later.Guarded := by
  intro call member asleep
  obtain ⟨waits, busy⟩ := guarded call (old call member asleep) asleep
  exact ⟨waits, flag busy⟩

/-- Replacing a call is no harm if the new one sleeps only as the old one did. -/
theorem setCall (guarded : callers.Guarded) {caller : Nat} {call next : AwaitCall ρ}
    (found : callers.calls[caller]? = some call) (same : next.asleep = true → next = call) :
    (callers.setCall caller next).Guarded := by
  refine guarded.mono ?_ id
  intro other member asleep
  rcases List.mem_or_eq_of_mem_set member with old | rfl
  · exact old
  · rw [same asleep]
    exact List.mem_of_getElem? found

/-- A call that begins sleeps only if a sweep is in flight. -/
theorem enter (guarded : callers.Guarded) : callers.enter.Guarded := by
  cases flag : callers.build.schedule.executing with
  | true =>
    have raised : callers.enter.build.schedule.executing = true := by
      simp [Callers.enter, IncludedBuild.enter_of_executing _ flag, Schedule.join, flag]
    intro call member asleep
    refine ⟨?_, raised⟩
    rcases List.mem_append.mp member with old | new
    · exact (guarded call old asleep).1
    · rw [List.mem_singleton.mp new] at asleep ⊢
      exact asleep
  | false =>
    intro call member asleep
    rcases List.mem_append.mp member with old | new
    · simp [guarded.awake_of_idle flag call old] at asleep
    · rw [List.mem_singleton.mp new] at asleep
      simp [IncludedBuild.enter_of_idle _ flag, Phase.isWaiting] at asleep

/-- A release leaves nobody asleep. -/
theorem awake_of_release (callers : Callers σ ρ) (caller : Nat)
    (result : Outcome BuildFailure Unit) :
    ∀ call ∈ (callers.proceed caller (.ending result)).calls, call.asleep = false := by
  intro call member
  have inSet : call ∈ (callers.calls.map (·.notified)).set caller
      (.settled (.ended (awaitResult result))) := member
  rcases List.mem_or_eq_of_mem_set inSet with woken | rfl
  · obtain ⟨known, -, rfl⟩ := List.mem_map.mp woken
    rfl
  · rfl

/-- A call that goes on sleeps only while a sweep is in flight, and lets nobody else sleep without
one. -/
theorem proceed (guarded : callers.Guarded) (caller : Nat) (phase : Phase ρ) :
    (callers.proceed caller phase).Guarded := by
  have step := callers.build.proceed_step phase
  cases ending : phase.isEnding with
  | true =>
    cases phase with
    | ending result =>
      intro call member asleep
      simp [awake_of_release callers caller result call member] at asleep
    | _ => simp [Phase.isEnding] at ending
  | false =>
    have calls : (callers.proceed caller phase).calls =
        callers.calls.set caller (.settled (callers.build.proceed phase).value.1) := by
      simp only [Callers.proceed, ending, Bool.false_eq_true, if_false]
      rfl
    have flag : callers.build.schedule.executing = true →
        (callers.build.proceed phase).value.2.schedule.executing = true := by
      intro busy
      simpa [ending] using step.executing_or_isEnding busy
    intro call member asleep
    rw [calls] at member
    rcases List.mem_or_eq_of_mem_set member with old | rfl
    · obtain ⟨waits, busy⟩ := guarded call old asleep
      exact ⟨waits, flag busy⟩
    · exact ⟨asleep, step.executing_of_isWaiting asleep⟩

/-- Nobody sleeps without a sweep in flight, whatever happens. -/
theorem step (guarded : callers.Guarded) (action : Action σ) : (callers.step action).Guarded := by
  cases action with
  | enter => exact guarded.enter
  | proceed caller =>
    simp only [Callers.step]
    split
    · next phase found => exact guarded.proceed caller phase
    · exact guarded
  | wake caller =>
    simp only [Callers.step]
    split
    · next call found => exact guarded.setCall found (by simp)
    · exact guarded
  | unwind caller message =>
    simp only [Callers.step]
    split
    · next call found =>
      refine guarded.setCall found fun asleep => ?_
      have waits := (guarded call (List.mem_of_getElem? found) asleep).1
      rw [IncludedBuild.unwind_of_waiting waits]
    · exact guarded
  | abort caller message =>
    simp only [Callers.step]
    split
    · next call found =>
      have replaced : (callers.setCall caller
          { call with phase := (callers.build.abort message call.phase).1 }).Guarded := by
        refine guarded.setCall found fun asleep => ?_
        have waits := (guarded call (List.mem_of_getElem? found) asleep).1
        rw [callers.build.abort_of_waiting waits]
      refine replaced.mono (fun _ member _ => member) fun busy => ?_
      rw [(abort_cases callers.build message call.phase).1]
      exact busy
    · exact guarded
  | beside side =>
    refine guarded.mono (fun _ member _ => member) fun busy => ?_
    simpa [Callers.step, side.apply_schedule] using busy

end Guarded

/-- A waiting call that wakes on an idle schedule is interrupted or claims. -/
theorem not_waiting_of_idle (callers : Callers σ ρ) {caller : Nat}
    (found : callers.calls[caller]? = some { phase := .waiting, asleep := false })
    (idle : callers.build.schedule.executing = false) :
    (callers.step (.proceed caller)).phases[caller]? ≠ some .waiting := by
  have inside : caller < callers.phases.length := by
    simpa [phases] using (List.getElem?_eq_some_iff.mp found).1
  simp only [step, found, phases_proceed, List.getElem?_set_self inside]
  intro waitsOn
  have waits : (callers.build.proceed .waiting).value.1.isWaiting = true := by
    rw [Option.some.inj waitsOn]
    rfl
  have step := callers.build.proceed_step (.waiting : Phase ρ)
  rcases step.executing_or_ownsSweep (step.executing_of_isWaiting waits) with busy | owner
  · simp [idle] at busy
  · rw [Option.some.inj waitsOn] at owner
    simp [Phase.ownsSweep] at owner

/-- **No caller is stranded.**  After every interleaving of the steps of any number of callers, with
runs that succeed, fail or panic, wake-ups without a reason, and sources that poison the schedule
at any time:

* whoever sleeps in the wait set waits for a sweep in flight, and a call that is awake owns that
  sweep and has still to release the schedule;
* so nobody sleeps while the build is idle;
* a waiting call that looks at an idle build does not go on waiting;
* the release at the end of a sweep lowers the flag and leaves nobody asleep, in one step. -/
theorem no_caller_is_stranded (name : BuildId) (projectDir : String)
    (factory : LauncherFactory σ ρ) (launchers : σ) (actions : List (Action σ)) :
    let callers := (start name projectDir factory launchers).run actions
    (∀ call ∈ callers.calls, call.asleep = true →
      call.phase.isWaiting = true ∧ callers.build.schedule.executing = true ∧
      ∃ owner ∈ callers.calls, owner.phase.ownsSweep = true ∧ owner.asleep = false) ∧
    (callers.build.state = .idle → ∀ call ∈ callers.calls, call.asleep = false) ∧
    (∀ caller, callers.calls[caller]? = some { phase := .waiting, asleep := false } →
      callers.build.state = .idle →
      (callers.step (.proceed caller)).phases[caller]? ≠ some .waiting) ∧
    ∀ caller result, callers.calls[caller]? = some { phase := .ending result, asleep := false } →
      (callers.step (.proceed caller)).build.state = .idle ∧
      ∀ call ∈ (callers.step (.proceed caller)).calls, call.asleep = false := by
  intro callers
  have books : callers.standing.Books := books_run name projectDir factory launchers actions
  have guarded : callers.Guarded := by
    refine run_preserves (fun action _ callers guarded => guarded.step action) ?_
    simp [Guarded, start]
  refine ⟨?_, ?_, ?_, ?_⟩
  · intro call member asleep
    obtain ⟨waits, busy⟩ := guarded call member asleep
    have owners : callers.phases.countP Phase.ownsSweep = 1 := by
      have counted := books.owners
      rwa [show callers.standing.schedule.executing = true from busy] at counted
    obtain ⟨phase, listed, owns⟩ := List.countP_pos_iff.mp (owners ▸ Nat.one_pos)
    obtain ⟨owner, here, rfl⟩ := List.mem_map.mp listed
    refine ⟨waits, busy, owner, here, owns, ?_⟩
    by_contra sleeps
    have idle := (guarded owner here (by simpa using sleeps)).1
    cases standing : owner.phase <;> simp_all [Phase.ownsSweep, Phase.isWaiting]
  · exact fun idle => guarded.awake_of_idle (callers.build.schedule.executing_of_idle idle)
  · exact fun caller found idle =>
      callers.not_waiting_of_idle found (callers.build.schedule.executing_of_idle idle)
  · intro caller result found
    simp only [step, found]
    exact ⟨rfl, Guarded.awake_of_release callers caller result⟩

/-- The second call is woken by the end of the first, overtaken by the third, and sleeps again. -/
example : ((start ⟨"app"⟩ "/app" (ScriptedLaunchers.factory (κ := Unit))
    (.ofProject "app" [])).run [.enter, .enter, .proceed 0, .proceed 0, .enter,
      .proceed 1]).calls.map (·.asleep) = [false, true, false] := by decide +kernel

end Callers

end CompositeBuild
