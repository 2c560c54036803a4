import CompositeBuild.Proofs.Await.Coverage
import CompositeBuild.Proofs.Await.Poison

/-!
# Which calls are interrupted

A call of await is interrupted in one way only: it found a sweep in flight when it began, has slept,
and finds the schedule poisoned when it takes the lock again after it was woken.  Both moments can
be read off the actions that led to where things stand, because what becomes true in a run becomes
true by one of its actions (`Callers.exists_turn`).

An interrupted call leaves no trace but that it is no longer counted among the waiting ones: it has
claimed nothing and called no launcher (`Standing.Traceless`), and what was queued stays queued
until the next claim takes it.  Calls that do not have to wait are not concerned at all, as the
module on poison shows.
-/

namespace CompositeBuild

variable {σ ρ : Type}

namespace Phase.Step

variable {name : BuildId} {schedule after : Schedule} {phase next : Phase ρ}

/-- A call that waits after a step of its own has waited before. -/
theorem of_waiting (step : Step name schedule phase next after) (waits : next = .waiting) :
    phase = .waiting := by
  cases step with
  | waitOn sound busy => rfl
  | _ => simp at waits

/-- A call that is interrupted has been so before, or has waited and finds the schedule poisoned. -/
theorem of_interrupted (step : Step name schedule phase next after) {build : BuildId}
    (interrupted : next = .ended (.failed (.interrupted build))) :
    phase = .ended (.failed (.interrupted build)) ∨
      phase = .waiting ∧ schedule.poisoned = true := by
  cases step with
  | interrupt poisoned => exact .inr ⟨rfl, poisoned⟩
  | release => exact absurd (Phase.ended.inj interrupted) (awaitResult_ne_interrupted _ build)
  | rest => exact .inl interrupted
  | _ => simp at interrupted

end Phase.Step

/-- A panic ends the run of a call, and is no matter for a call that does not run. -/
theorem IncludedBuild.unwind_cases (message : String) (phase : Phase ρ) :
    unwind message phase = phase ∨ unwind message phase = .ending (.panicked message) := by
  cases phase with
  | running launcher run => exact .inr rfl
  | _ => exact .inl rfl

/-! ### Turns -/

namespace Callers

variable {callers : Callers σ ρ} {caller : Nat}

/-- What becomes true in a run becomes true by one of its actions. -/
theorem exists_turn {P : Callers σ ρ → Prop} {actions : List (Action σ)} (before : ¬ P callers)
    (after : P (callers.run actions)) :
    ∃ front action back, actions = front ++ action :: back ∧ ¬ P (callers.run front) ∧
      P ((callers.run front).step action) := by
  induction actions generalizing callers with
  | nil => exact absurd after before
  | cons action actions ih =>
    by_cases turned : P (callers.step action)
    · exact ⟨[], action, actions, rfl, before, turned⟩
    · obtain ⟨front, turn, back, rfl, notYet, then'⟩ := ih turned after
      exact ⟨action :: front, turn, back, rfl, notYet, then'⟩

/-- A call that has been woken is about to take the lock of the schedule again. -/
def Rewoken (callers : Callers σ ρ) (caller : Nat) : Prop :=
  callers.calls[caller]? = some { phase := .waiting, asleep := false }

/-- A call stands where its phase says. -/
theorem phases_of_call {call : AwaitCall ρ} (found : callers.calls[caller]? = some call) :
    callers.phases[caller]? = some call.phase := by
  simp [phases, found]

/-- After the phase of a call was replaced, a call stands where it stood before, unless it is the
one that was replaced. -/
theorem phases_set_cases {number : Nat} {phase next : Phase ρ}
    (there : (callers.phases.set number next)[caller]? = some phase) :
    callers.phases[caller]? = some phase ∨ number = caller ∧ phase = next := by
  by_cases own : number = caller
  · subst own
    have within : number < (callers.phases.set number next).length :=
      (List.getElem?_eq_some_iff.mp there).1
    rw [List.length_set] at within
    rw [List.getElem?_set_self within] at there
    exact .inr ⟨rfl, (Option.some.inj there).symm⟩
  · rw [List.getElem?_set_ne own] at there
    exact .inl there

/-- After a call was replaced by one that stands where it stood, or has been cut short, every call
stands where it stood, or has been cut short. -/
theorem phases_setCall_cases {number : Nat} {call next : AwaitCall ρ} {message : String}
    {phase : Phase ρ} (found : callers.calls[number]? = some call)
    (moved : next.phase = call.phase ∨ next.phase = .ending (.panicked message))
    (after : (callers.setCall number next).phases[caller]? = some phase) :
    callers.phases[caller]? = some phase ∨ phase = .ending (.panicked message) := by
  rw [phases_setCall] at after
  rcases phases_set_cases after with same | ⟨rfl, rfl⟩
  · exact .inl same
  · rcases moved with unmoved | ended
    · rw [unmoved]
      exact .inl (phases_of_call found)
    · exact .inr ended

/-- How a call comes to stand where it stands after an action: it stood there before, it has just
begun, it has taken a step, or it was cut short. -/
theorem phases_step {action : Action σ} {phase : Phase ρ}
    (after : (callers.step action).phases[caller]? = some phase) :
    callers.phases[caller]? = some phase ∨
    (action = .enter ∧ callers.calls.length = caller ∧ phase = callers.build.enter.value.1) ∨
    (∃ before, action = .proceed caller ∧
      callers.calls[caller]? = some { phase := before, asleep := false } ∧
      phase = (callers.build.proceed before).value.1) ∨
    ∃ message, phase = .ending (.panicked message) := by
  cases action with
  | enter =>
    have longer : (callers.step .enter).phases =
        callers.phases ++ [callers.build.enter.value.1] := by
      simp [step, enter, phases, AwaitCall.settled]
    rw [longer] at after
    by_cases own : callers.phases.length = caller
    · subst own
      rw [List.getElem?_concat_length] at after
      exact .inr (.inl ⟨rfl, by simp [phases], (Option.some.inj after).symm⟩)
    · rw [getElem?_append_singleton _ own] at after
      exact .inl after
  | proceed number =>
    simp only [step] at after
    split at after
    · next before found =>
      rw [phases_proceed] at after
      rcases phases_set_cases after with same | ⟨rfl, rfl⟩
      · exact .inl same
      · exact .inr (.inr (.inl ⟨before, rfl, found, rfl⟩))
    · exact .inl after
  | wake number =>
    have same : (callers.step (.wake number)).phases = callers.phases :=
      congrArg Standing.phases (callers.standing_wake number)
    exact .inl (same ▸ after)
  | unwind number message =>
    simp only [step] at after
    split at after
    · next call found =>
      have moved := IncludedBuild.unwind_cases message call.phase
      rcases phases_setCall_cases found moved after with same | ended
      · exact .inl same
      · exact .inr (.inr (.inr ⟨message, ended⟩))
    · exact .inl after
  | abort number message =>
    simp only [step] at after
    split at after
    · next call found =>
      have moved := (abort_cases callers.build message call.phase).2.imp_right And.right
      rcases phases_setCall_cases found moved after with same | ended
      · exact .inl same
      · exact .inr (.inr (.inr ⟨message, ended⟩))
    · exact .inl after
  | beside side => exact .inl after

/-- A call waits because it waited before, or because it has just found a sweep in flight. -/
theorem waiting_step {action : Action σ}
    (after : (callers.step action).phases[caller]? = some .waiting) :
    callers.phases[caller]? = some .waiting ∨
      action = .enter ∧ callers.calls.length = caller ∧
        callers.build.schedule.executing = true := by
  rcases phases_step after with same | ⟨begun, number, entered⟩ | ⟨before, -, found, moved⟩ |
    ⟨message, ended⟩
  · exact .inl same
  · refine .inr ⟨begun, number, ?_⟩
    by_contra idle
    rw [IncludedBuild.enter_of_idle _ (by simpa using idle)] at entered
    simp at entered
  · have waits := (callers.build.proceed_step before).of_waiting moved.symm
    exact .inl (waits ▸ phases_of_call found)
  · simp at ended

/-- A call is interrupted because it was before, or because it finds the schedule poisoned when it
takes the lock again. -/
theorem interrupted_step {action : Action σ} {build : BuildId}
    (after : (callers.step action).phases[caller]? =
      some (.ended (.failed (.interrupted build)))) :
    callers.phases[caller]? = some (.ended (.failed (.interrupted build))) ∨
      action = .proceed caller ∧ callers.Rewoken caller ∧
        callers.build.schedule.poisoned = true := by
  rcases phases_step after with same | ⟨-, -, entered⟩ | ⟨before, proceeds, found, moved⟩ |
    ⟨message, ended⟩
  · exact .inl same
  · unfold IncludedBuild.enter at entered
    split at entered <;> simp at entered
  · rcases (callers.build.proceed_step before).of_interrupted moved.symm with
      rfl | ⟨rfl, poisoned⟩
    · exact .inl (by simp [phases, found])
    · exact .inr ⟨proceeds, found, poisoned⟩
  · simp at ended

/-- A call that has returned goes on having returned the same. -/
theorem ended_run {result : Outcome AwaitError Unit}
    (ended : callers.phases[caller]? = some (.ended result)) (actions : List (Action σ)) :
    (callers.run actions).phases[caller]? = some (.ended result) :=
  run_preserves (P := fun callers => callers.phases[caller]? = some (.ended result))
    (fun action _ callers ended => ((callers.step_move action).of_ended ended).1) ended

/-- A woken call that finds the schedule poisoned is interrupted, and no longer counted. -/
theorem step_of_rewoken (rewoken : callers.Rewoken caller)
    (poisoned : callers.build.schedule.poisoned = true) :
    (callers.step (.proceed caller)).phases[caller]? =
        some (.ended (.failed (.interrupted callers.build.name))) ∧
      (callers.step (.proceed caller)).build =
        { callers.build with schedule := { callers.build.schedule with
            waiting := callers.build.schedule.waiting - 1 } } ∧
      (callers.step (.proceed caller)).history = callers.history := by
  have within : caller < callers.phases.length := by
    simpa [phases] using (List.getElem?_eq_some_iff.mp rewoken).1
  have woken : (callers.build.proceed (.waiting : Phase ρ)).value =
      (.ended (.failed (.interrupted callers.build.name)),
        { callers.build with schedule := callers.build.schedule.leave }) := by
    simp [IncludedBuild.proceed, IncludedBuild.wake, poisoned]
  have proceeds : callers.step (.proceed caller) = callers.proceed caller .waiting := by
    simp only [step, show callers.calls[caller]? = some _ from rewoken]
  rw [proceeds]
  refine ⟨?_, ?_, ?_⟩
  · rw [phases_proceed, List.getElem?_set_self within, woken]
  · simp only [proceed, woken]
    rfl
  · simp only [proceed, woken]
    exact List.append_nil _

variable {actions : List (Action σ)} {build : BuildId}

/-- An interrupted call found a sweep in flight when it began. -/
theorem exists_enter_of_interrupted (new : callers.phases[caller]? = none)
    (interrupted : (callers.run actions).phases[caller]? =
      some (.ended (.failed (.interrupted build)))) :
    ∃ before after, actions = before ++ .enter :: after ∧
      (callers.run before).calls.length = caller ∧
      (callers.run before).build.schedule.executing = true := by
  obtain ⟨front, action, back, rfl, notYet, turned⟩ := exists_turn
    (P := fun now => now.phases[caller]? = some .waiting ∨
      now.phases[caller]? = some (.ended (.failed (.interrupted build))))
    (by simp [new]) (.inr interrupted)
  rcases turned with waits | ended
  · rcases waiting_step waits with before | ⟨rfl, number, busy⟩
    · exact absurd (.inl before) notYet
    · exact ⟨front, back, rfl, number, busy⟩
  · rcases interrupted_step ended with before | ⟨-, rewoken, -⟩
    · exact absurd (.inr before) notYet
    · have waits : (callers.run front).phases[caller]? = some .waiting := by
        simp [phases, show (callers.run front).calls[caller]? = some _ from rewoken]
      exact absurd (.inl waits) notYet

/-- An interrupted call was woken and found the schedule poisoned. -/
theorem exists_proceed_of_interrupted (new : callers.phases[caller]? = none)
    (interrupted : (callers.run actions).phases[caller]? =
      some (.ended (.failed (.interrupted build)))) :
    ∃ before after, actions = before ++ .proceed caller :: after ∧
      (callers.run before).Rewoken caller ∧
      (callers.run before).build.schedule.poisoned = true := by
  obtain ⟨front, action, back, rfl, notYet, turned⟩ := exists_turn
    (P := fun now => now.phases[caller]? = some (.ended (.failed (.interrupted build))))
    (by simp [new]) interrupted
  rcases interrupted_step turned with before | ⟨rfl, rewoken, poisoned⟩
  · exact absurd before notYet
  · exact ⟨front, back, rfl, rewoken, poisoned⟩

/-- A call that was woken and found the schedule poisoned is interrupted ever after. -/
theorem interrupted_of_rewoken {before after : List (Action σ)}
    (rewoken : (callers.run before).Rewoken caller)
    (poisoned : (callers.run before).build.schedule.poisoned = true) :
    (callers.run (before ++ .proceed caller :: after)).phases[caller]? =
      some (.ended (.failed (.interrupted callers.build.name))) := by
  have whole : callers.run (before ++ .proceed caller :: after) =
      ((callers.run before).step (.proceed caller)).run after := List.foldl_append
  have ended := (step_of_rewoken rewoken poisoned).1
  rw [run_name] at ended
  rw [whole]
  exact ended_run ended after

end Callers

/-! ### What interrupted calls leave behind -/

/-- A call that has not begun, that waits or that was interrupted. -/
def Phase.isPassive : Option (Phase ρ) → Bool
  | none | some .waiting | some (.ended (.failed (.interrupted _))) => true
  | _ => false

namespace Standing

/-- Calls that have not begun, wait or were interrupted have claimed nothing and called nobody. -/
def Traceless (now : Standing ρ) : Prop :=
  ∀ caller, Phase.isPassive now.phases[caller]? = true →
    History.claimsOf caller now.history = [] ∧ History.callsOf caller now.history = []

variable {now next : Standing ρ}

/-- A step that ends passively begins passively and adds nothing to the history. -/
theorem passive_of_step {name : BuildId} {schedule after : Schedule} {phase following : Phase ρ}
    (step : Phase.Step name schedule phase following after)
    (passive : Phase.isPassive (some following) = true) (made : Bool) (history : List Event)
    (caller : Nat) :
    Phase.isPassive (some phase) = true ∧ stepEvents made history caller phase following = [] := by
  cases step with
  | interrupt poisoned => exact ⟨rfl, rfl⟩
  | waitOn sound busy => exact ⟨rfl, rfl⟩
  | @release result => cases result <;> simp [awaitResult, Phase.isPassive] at passive
  | rest => exact ⟨passive, rfl⟩
  | _ => simp [Phase.isPassive] at passive

/-- Nobody has left a trace in a longer history that tells of others only. -/
theorem Traceless.append (traceless : Traceless now) {caller : Nat} {more : List Event}
    (passive : Phase.isPassive now.phases[caller]? = true)
    (noClaim : History.claimsOf caller more = []) (noCall : History.callsOf caller more = []) :
    History.claimsOf caller (now.history ++ more) = [] ∧
      History.callsOf caller (now.history ++ more) = [] := by
  obtain ⟨claims, calls⟩ := traceless caller passive
  simp [claims, calls, noClaim, noCall]

/-- Cutting short a call that owns the sweep makes nobody passive. -/
theorem Traceless.cut_short (traceless : Traceless now) {front back : List (Phase ρ)}
    {phase : Phase ρ} (split : now.phases = front ++ phase :: back)
    (result : Outcome BuildFailure Unit) :
    Traceless { now with phases := front ++ .ending result :: back } := by
  intro caller passive
  by_cases own : front.length = caller
  · subst own
    simp [Phase.isPassive] at passive
  · refine traceless caller ?_
    rw [split, ← getElem?_split phase (.ending result) own]
    exact passive

/-- Passive calls leave no trace, whatever happens. -/
theorem Traceless.move {mayAbort : Bool} (traceless : Traceless now)
    (move : Move mayAbort now next) : Traceless next := by
  cases move with
  | stay => exact traceless
  | push paths poison => exact fun caller passive => traceless.append passive rfl rfl
  | join busy =>
    intro caller passive
    by_cases new : now.phases.length = caller
    · refine traceless caller ?_
      rw [List.getElem?_eq_none (Nat.le_of_eq new)]
      rfl
    · rw [getElem?_append_singleton _ new] at passive
      exact traceless caller passive
  | claim idle =>
    intro caller passive
    by_cases new : now.phases.length = caller
    · subst new
      simp [Phase.isPassive] at passive
    · rw [getElem?_append_singleton _ new] at passive
      exact traceless.append passive (by simp [new]) (by simp)
  | @proceed name front back phase following after made split step =>
    intro caller passive
    by_cases own : front.length = caller
    · subst own
      have stays : Phase.isPassive (some following) = true := by simpa using passive
      obtain ⟨before, silent⟩ :=
        passive_of_step step stays made now.history front.length
      rw [silent, List.append_nil]
      refine traceless front.length ?_
      rw [split]
      simpa using before
    · rw [getElem?_split phase following own, ← split] at passive
      obtain ⟨noClaim, noCall⟩ := stepEvents_other made now.history own phase following
      exact traceless.append passive noClaim noCall
  | unwind message split => exact traceless.cut_short split _
  | abort message allowed split owner => exact traceless.cut_short split _

end Standing

namespace Callers

/-- After every run the books and the ledger are right, and passive calls have left no trace. -/
theorem interruption_run (name : BuildId) (projectDir : String) (factory : LauncherFactory σ ρ)
    (launchers : σ) (actions : List (Action σ)) :
    let now := ((start name projectDir factory launchers).run actions).standing
    now.Books ∧ now.Ledger ∧ now.Traceless := by
  refine run_law (P := fun now => now.Books ∧ now.Ledger ∧ now.Traceless) _ true
    (fun _ _ _ => rfl) ?_ ?_
  · rintro now next move ⟨books, ledger, traceless⟩
    exact ⟨books.move move, ledger.move move, traceless.move move⟩
  · exact ⟨.start name projectDir factory launchers, .start name projectDir factory launchers,
      fun _ _ => ⟨rfl, rfl⟩⟩

end Callers

/-! ### What stays queued -/

/-- What is pending stays pending until the next claim takes it. -/
theorem Standing.Ledger.pending_prefix {now later : Standing ρ} (ledger : Ledger now)
    (ledger' : Ledger later) (grown : now.history <+: later.history) :
    ∃ claims, History.claims later.history = History.claims now.history ++ claims ∧
      (claims = [] → now.schedule.pending <+: later.schedule.pending) ∧
      ∀ claim rest, claims = claim :: rest → now.schedule.pending <+: claim.requested := by
  obtain ⟨more, grown⟩ := grown
  refine ⟨History.claims more, ?_, ?_, ?_⟩
  · rw [← grown, History.claims_append]
  · intro none
    have queue := ledger'.queue
    rw [← grown, History.pushed_append, History.claimed_append, ledger.queue,
      show History.claimed more = [] by rw [History.claimed, none]; rfl, List.append_nil,
      List.append_assoc] at queue
    exact ⟨_, List.append_cancel_left queue⟩
  · intro claim rest first
    obtain ⟨before, event, after, split, earlier, here, -⟩ := List.filterMap_eq_cons_iff.mp first
    have nothing : History.claims before = [] := List.filterMap_eq_nil_iff.mpr earlier
    obtain ⟨caller, rfl⟩ : ∃ caller, event = .claimed caller claim := by
      cases event <;> simp_all
    have snapshot := ledger'.snapshots (now.history ++ before) caller claim after
      (by rw [← grown, split, List.append_assoc])
    rw [History.pushed_append, History.claimed_append, ledger.queue,
      show History.claimed before = [] by rw [History.claimed, nothing]; rfl, List.append_nil,
      List.append_assoc] at snapshot
    exact ⟨_, List.append_cancel_left snapshot⟩

namespace Callers

/-! ### The law -/

/-- **Calls are interrupted exactly when a wait ends on a poisoned schedule.**  In every
interleaving of the steps of any number of callers, with any number of sources that poison the
schedule:

* a call has been interrupted if and only if it found a sweep in flight when it began, and, at one
  of the times when it had been woken and took the lock again, the schedule was poisoned;
* at the first such time the call is interrupted: it leaves the build as it found it, but that it is
  counted among the waiting calls no more; nothing is entered in the history, and whatever was
  pending stays pending until the next claim, which takes it;
* an interrupted call has claimed nothing and called no launcher;
* a call that begins on an idle build is never interrupted, whatever happens later.  Had the
  schedule not been poisoned, and would no source poison it later, then the same actions would at
  any time have led the call to the same place and the same result, with the same claim and the same
  calls of launchers, on a build that differs in nothing but the poison and the calls that wait. -/
theorem interrupted_iff_rewoken_poisoned (name : BuildId) (projectDir : String)
    (factory : LauncherFactory σ ρ) (launchers : σ) (actions : List (Action σ)) (caller : Nat) :
    let new := start name projectDir factory launchers
    let callers := new.run actions
    (callers.phases[caller]? = some (.ended (.failed (.interrupted name))) ↔
      (∃ before after, actions = before ++ .enter :: after ∧
        (new.run before).calls.length = caller ∧
        (new.run before).build.schedule.executing = true) ∧
      ∃ before after, actions = before ++ .proceed caller :: after ∧
        (new.run before).Rewoken caller ∧ (new.run before).build.schedule.poisoned = true) ∧
    (callers.Rewoken caller → callers.build.schedule.poisoned = true →
      let next := callers.step (.proceed caller)
      next.phases[caller]? = some (.ended (.failed (.interrupted name))) ∧
      0 < callers.build.schedule.waiting ∧
      next.build = { callers.build with schedule := { callers.build.schedule with
        waiting := callers.build.schedule.waiting - 1 } } ∧
      next.history = callers.history ∧
      ∀ later, ∃ claims,
        History.claims (next.run later).history = History.claims next.history ++ claims ∧
        (claims = [] → next.build.pending <+: (next.run later).build.pending) ∧
        ∀ claim rest, claims = claim :: rest → next.build.pending <+: claim.requested) ∧
    (∀ build, callers.phases[caller]? = some (.ended (.failed (.interrupted build))) →
      History.claimsOf caller callers.history = [] ∧
      History.callsOf caller callers.history = []) ∧
    (callers.build.state = .idle → ∀ later,
      let number := callers.calls.length
      let inFact := (callers.step .enter).run later
      let cured := (callers.cured.step .enter).run (later.map .cured)
      cured.build.schedule.poisoned = false ∧
      inFact.phases[number]? = cured.phases[number]? ∧
      (∀ build, inFact.phases[number]? ≠ some (.ended (.failed (.interrupted build)))) ∧
      History.claimsOf number inFact.history = History.claimsOf number cured.history ∧
      History.callsOf number inFact.history = History.callsOf number cured.history ∧
      ∀ phase, inFact.phases[number]? = some phase → phase.isOver = false →
        inFact.build.core = cured.build.core) := by
  intro new callers
  obtain ⟨books, ledger, traceless⟩ := interruption_run name projectDir factory launchers actions
  change callers.standing.Books at books
  change callers.standing.Ledger at ledger
  change callers.standing.Traceless at traceless
  refine ⟨⟨fun interrupted => ?_, ?_⟩, fun rewoken poisoned => ?_, ?_, fun idle later => ?_⟩
  · exact ⟨exists_enter_of_interrupted rfl interrupted,
      exists_proceed_of_interrupted rfl interrupted⟩
  · rintro ⟨-, before, after, rfl, rewoken, poisoned⟩
    exact interrupted_of_rewoken rewoken poisoned
  · obtain ⟨ended, left, quiet⟩ := step_of_rewoken rewoken poisoned
    obtain ⟨front, back, split, -⟩ := callers.exists_split rewoken
    refine ⟨?_, books.waiting_pos split rfl, left, quiet, fun later => ?_⟩
    · rw [ended, run_name]
      rfl
    · have now := ledger.move (callers.step_move (.proceed caller))
      have then' : ((callers.step (.proceed caller)).run later).standing.Ledger :=
        run_law _ true (fun _ _ _ => rfl) (fun _ _ move ledger => ledger.move move) now
      exact now.pending_prefix then' (history_run _ later)
  · intro build interrupted
    refine traceless caller ?_
    rw [show callers.standing.phases[caller]? = _ from interrupted]
    rfl
  · have lowered := callers.build.schedule.executing_of_idle idle
    refine ⟨callers.poisoned_cured_run (.enter :: later), ?_⟩
    rcases parallel_run later (.inl (parallel_enter books lowered)) with parallel | finished
    · obtain ⟨phase, owner, found, found'⟩ := parallel.sweeping
      have here := congrArg (Option.map AwaitCall.phase) found
      have there := congrArg (Option.map AwaitCall.phase) found'
      rw [← List.getElem?_map] at here there
      refine ⟨here.trans there.symm, fun build interrupted => ?_, congrArg _ parallel.history,
        congrArg _ parallel.history, fun _ _ _ => parallel.core⟩
      obtain rfl := Option.some.inj (here.symm.trans interrupted)
      simp [Phase.ownsSweep] at owner
    · obtain ⟨result, here, there⟩ := finished.ended
      refine ⟨here.trans there.symm, fun build interrupted => ?_, finished.claims, finished.calls,
        fun phase standing goesOn => ?_⟩
      · have same := Phase.ended.inj (Option.some.inj (here.symm.trans interrupted))
        exact awaitResult_ne_interrupted result build same
      · obtain rfl := Option.some.inj (here.symm.trans standing)
        simp [Phase.isOver] at goesOn

/-- The schedule is poisoned while the second call waits: the first call returns as if nothing had
happened, and the second one is interrupted when it is woken. -/
example : ((start ⟨"app"⟩ "/app" (ScriptedLaunchers.factory (κ := Unit))
    (.ofProject "app" [])).run [.enter, .enter, .beside (.queueAndPoison []), .proceed 0,
      .proceed 0, .proceed 1]).phases.map Phase.result? =
    [some (.returned ()), some (.failed (.interrupted ⟨"app"⟩))] := by decide +kernel

end Callers

end CompositeBuild
