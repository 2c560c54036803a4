import CompositeBuild.Proofs.Await.Counterparts
import CompositeBuild.Proofs.Await.WaitSet

/-!
# Sweeps on a poisoned schedule

A schedule that has been poisoned stays so, but only callers that wait take notice of it.  The core
of a build leaves out what concerns nobody else: the poison, and how many callers wait.  A call that
owns the sweep goes on by what it finds in the core (`IncludedBuild.proceed_core`), and what other
callers do in the meantime changes neither the core nor the history (`Callers.bystander`).

So a call that finds an idle build sweeps on a poisoned schedule as it would on a sound one.  To say
this of every interleaving, `Callers.cured` takes the poison out of a build, and `Action.cured` out
of everything that happens to it later; the call takes the same steps, makes the same calls of
launchers and returns the same in both (`Callers.parallel_run`).
-/

namespace CompositeBuild

variable {σ ρ : Type}

/-! ### Cores -/

/-- A schedule without what concerns waiting callers only. -/
def Schedule.core (schedule : Schedule) : Schedule :=
  { schedule with waiting := 0, poisoned := false }

/-- A call that neither owns the sweep nor waits is over. -/
theorem Phase.isWaiting_or_ended {phase : Phase ρ} (idle : phase.ownsSweep = false) :
    phase = .waiting ∨ ∃ result, phase = .ended result := by
  cases phase with
  | waiting => exact .inl rfl
  | ended result => exact .inr ⟨result, rfl⟩
  | _ => simp [ownsSweep] at idle

/-- A call that owns the sweep owns it until it releases the schedule. -/
theorem Phase.Step.ownsSweep_of_owner {name : BuildId} {schedule after : Schedule}
    {phase next : Phase ρ} (step : Step name schedule phase next after)
    (owner : phase.ownsSweep = true) (goesOn : phase.isEnding = false) :
    next.ownsSweep = true := by
  cases step <;> simp_all [ownsSweep, isEnding]

namespace IncludedBuild

variable (build : IncludedBuild σ ρ)

/-- A build without what concerns waiting callers only. -/
def core : IncludedBuild σ ρ := { build with schedule := build.schedule.core }

/-- A launcher is taken, or made, whoever waits. -/
theorem takeLauncher_core :
    build.core.takeLauncher.value =
      (build.takeLauncher.value.1, build.takeLauncher.value.2.core) := by
  cases here : build.slot.launcher with
  | none => rw [takeLauncher_none build here, takeLauncher_none build.core here]; rfl
  | some launcher => rw [takeLauncher_held build here, takeLauncher_held build.core here]; rfl

/-- A launcher to load through is found, or made, whoever waits. -/
theorem ensureLauncher_core :
    build.core.ensureLauncher.value =
      (build.ensureLauncher.value.1, build.ensureLauncher.value.2.core) := by
  cases here : build.slot.launcher with
  | none => rw [ensureLauncher_none build here, ensureLauncher_none build.core here]; rfl
  | some launcher => rw [ensureLauncher_held build here, ensureLauncher_held build.core here]

/-- Settings are loaded whoever waits. -/
theorem loadedSettings_core :
    build.core.loadedSettings.value.2 = build.loadedSettings.value.2.core := by
  cases known : build.slot.settings with
  | some settings => rw [loadedSettings_known build known, loadedSettings_known build.core known]
  | none =>
    rw [loadedSettings_unknown build known, loadedSettings_unknown build.core known,
      ensureLauncher_core]
    rfl

/-- Models are computed whoever waits. -/
theorem configuredBuild_core :
    build.core.configuredBuild.value.2 = build.configuredBuild.value.2.core := by
  cases known : build.slot.configured with
  | some configured =>
    rw [configuredBuild_known build known, configuredBuild_known build.core known]
  | none =>
    rw [configuredBuild_unknown build known, configuredBuild_unknown build.core known,
      ensureLauncher_core]
    rfl

/-- A call that owns the sweep goes on by what it finds in the core. -/
theorem proceed_core {phase : Phase ρ} (owner : phase.ownsSweep = true) :
    (build.core.proceed phase).value =
      ((build.proceed phase).value.1, (build.proceed phase).value.2.core) := by
  cases phase with
  | claimed claim =>
    simp only [proceed]
    by_cases nothing : claim.fresh = []
    · simp only [nothing, launch_nil]
    · simp only [launch_of_ne_nil _ nothing, takeLauncher_core]
  | running launcher run =>
    simp only [proceed, endRun_value]
    rfl
  | waiting => simp [Phase.ownsSweep] at owner
  | ended result => simp [Phase.ownsSweep] at owner
  | _ => rfl

/-- A panic outside of a run does what the core says. -/
theorem abort_core (message : String) (phase : Phase ρ) :
    build.core.abort message phase =
      ((build.abort message phase).1, (build.abort message phase).2.core) := by
  cases phase with
  | claimed claim =>
    by_cases needless : claim.fresh = [] ∨ build.slot.launcher.isSome = true <;>
      simp [abort, core, needless]
  | _ => rfl

end IncludedBuild

/-! ### Cures -/

/-- The same step with a source that does not panic. -/
def SideStep.cured : SideStep σ → SideStep σ
  | .queueAndPoison paths => .queue paths
  | side => side

/-- The same action with a source that does not panic. -/
def Action.cured : Action σ → Action σ
  | .beside side => .beside side.cured
  | action => action

/-- The call whose action it is, if it is one of a call that has begun. -/
def Action.caller? : Action σ → Option Nat
  | .proceed caller | .wake caller | .unwind caller _ | .abort caller _ => some caller
  | .enter | .beside _ => none

/-- The same callers of a build whose schedule is not poisoned. -/
def Callers.cured (callers : Callers σ ρ) : Callers σ ρ :=
  { callers with build := { callers.build with
      schedule := { callers.build.schedule with poisoned := false } } }

/-- A cured action poisons nothing. -/
theorem Action.poisons_cured (action : Action σ) : action.cured.poisons = false := by
  cases action with
  | beside side => cases side <;> rfl
  | _ => rfl

/-- A call needs no cure for its own actions. -/
theorem Action.cured_of_caller? {action : Action σ} {caller : Nat}
    (own : action.caller? = some caller) : action.cured = action := by
  cases action with
  | beside side => simp [caller?] at own
  | _ => rfl

namespace SideStep

variable (side : SideStep σ) (build : IncludedBuild σ ρ)

/-- What happens beside the calls does to the core what it does to the build. -/
theorem apply_core : (side.apply build.core).core = (side.apply build).core := by
  cases side with
  | loadSettings =>
    simp only [apply, build.loadedSettings_core]
    rfl
  | configure =>
    simp only [apply, build.configuredBuild_core]
    rfl
  | registerSubstitution action =>
    have same : build.core.substitutions = build.substitutions := rfl
    simp only [apply, IncludedBuild.registerSubstitution, same]
    cases build.substitutions.register action <;> rfl
  | resolveSubstitutions =>
    simp only [apply, IncludedBuild.resolveSubstitutions_build]
    rfl
  | _ => rfl

/-- A source that panics does to the core what it does if it does not. -/
theorem apply_cured_core : (side.cured.apply build).core = (side.apply build).core := by
  cases side <;> rfl

end SideStep

/-! ### Bystanders -/

namespace Callers

variable (callers : Callers σ ρ) {caller : Nat} {phase : Phase ρ}

/-- Beside the call that owns the sweep, all calls wait or are over. -/
theorem waiting_or_ended_of_ne (books : callers.standing.Books)
    (found : callers.calls[caller]? = some { phase, asleep := false })
    (owner : phase.ownsSweep = true) {number : Nat} (foreign : number ≠ caller)
    {call : AwaitCall ρ} (there : callers.calls[number]? = some call) :
    call.phase = .waiting ∨ ∃ result, call.phase = .ended result := by
  obtain ⟨front, back, split, rfl⟩ := callers.exists_split found
  have elsewhere : (front ++ phase :: back)[number]? = some call.phase := by
    rw [← split]
    simp [phases, there]
  exact Phase.isWaiting_or_ended
    (books.sole_owner split owner _ (mem_of_getElem?_split foreign.symm elsewhere))

/-- What other callers do while a call owns the sweep changes neither the core of the build, nor the
history, nor that call. -/
theorem bystander (books : callers.standing.Books)
    (found : callers.calls[caller]? = some { phase, asleep := false })
    (owner : phase.ownsSweep = true) {action : Action σ} (foreign : action.caller? ≠ some caller)
    (inside : ∀ side, action ≠ .beside side) :
    (callers.step action).build.core = callers.build.core ∧
      (callers.step action).history = callers.history ∧
      (callers.step action).calls[caller]? = callers.calls[caller]? := by
  obtain ⟨front, back, split, -⟩ := callers.exists_split found
  have busy : callers.build.schedule.executing = true := books.executing_of_owner split owner
  have elsewhere (number : Nat) (different : number ≠ caller) (call : AwaitCall ρ) :
      (callers.setCall number call).calls[caller]? = callers.calls[caller]? :=
    List.getElem?_set_ne different
  cases action with
  | enter =>
    have within : caller < callers.calls.length := (List.getElem?_eq_some_iff.mp found).1
    simp only [step, enter, IncludedBuild.enter_of_executing _ busy]
    exact ⟨rfl, List.append_nil _, List.getElem?_append_left within⟩
  | proceed number =>
    have different : number ≠ caller := fun same => foreign (congrArg some same)
    simp only [step]
    split
    · next other there =>
      rcases callers.waiting_or_ended_of_ne books found owner different there with
        rfl | ⟨result, rfl⟩
      · simp only [proceed, IncludedBuild.proceed, IncludedBuild.wake, busy, Phase.isEnding]
        cases callers.build.schedule.poisoned <;>
          exact ⟨rfl, List.append_nil _, elsewhere number different _⟩
      · exact ⟨rfl, List.append_nil _, elsewhere number different _⟩
    · exact ⟨rfl, rfl, rfl⟩
  | wake number =>
    have different : number ≠ caller := fun same => foreign (congrArg some same)
    simp only [step]
    split
    · exact ⟨rfl, rfl, elsewhere number different _⟩
    · exact ⟨rfl, rfl, rfl⟩
  | unwind number message =>
    have different : number ≠ caller := fun same => foreign (congrArg some same)
    simp only [step]
    split
    · exact ⟨rfl, rfl, elsewhere number different _⟩
    · exact ⟨rfl, rfl, rfl⟩
  | abort number message =>
    have different : number ≠ caller := fun same => foreign (congrArg some same)
    simp only [step]
    split
    · next call there =>
      have unmoved : (callers.build.abort message call.phase).2 = callers.build := by
        rcases callers.waiting_or_ended_of_ne books found owner different there with
          waits | ⟨result, isOver⟩
        · rw [waits]; rfl
        · rw [isOver]; rfl
      refine ⟨congrArg IncludedBuild.core unmoved, rfl, elsewhere number different _⟩
    · exact ⟨rfl, rfl, rfl⟩
  | beside side => exact absurd rfl (inside side)

end Callers

/-! ### Two executions of one sweep -/

namespace Callers

/-- A call owns the sweep in two executions and stands at the same phase in both; the builds have
the same core and the same history. -/
structure Parallel (caller : Nat) (one other : Callers σ ρ) : Prop where
  books : one.standing.Books ∧ other.standing.Books
  core : one.build.core = other.build.core
  history : one.history = other.history
  sweeping : ∃ phase : Phase ρ, phase.ownsSweep = true ∧
    one.calls[caller]? = some { phase, asleep := false } ∧
    other.calls[caller]? = some { phase, asleep := false }

/-- A call is over in two executions, has returned the same in both, which is not that it was
interrupted, and has left the same behind. -/
structure Finished (caller : Nat) (one other : Callers σ ρ) : Prop where
  ended : ∃ result : Outcome BuildFailure Unit,
    one.phases[caller]? = some (.ended (awaitResult result)) ∧
      other.phases[caller]? = some (.ended (awaitResult result))
  claims : History.claimsOf caller one.history = History.claimsOf caller other.history
  calls : History.callsOf caller one.history = History.callsOf caller other.history

variable {caller : Nat} {one other : Callers σ ρ}

/-- A call that is replaced is found at its number. -/
theorem getElem?_setCall_self {callers : Callers σ ρ} {call : AwaitCall ρ}
    (found : callers.calls[caller]? = some call) (next : AwaitCall ρ) :
    (callers.setCall caller next).calls[caller]? = some next :=
  List.getElem?_set_self (List.getElem?_eq_some_iff.mp found).1

/-- A call that is over in both stays so, whatever happens to either. -/
theorem Finished.step (finished : Finished caller one other) (action action' : Action σ) :
    Finished caller (one.step action) (other.step action') := by
  obtain ⟨result, here, there⟩ := finished.ended
  obtain ⟨here, claims, calls⟩ := (one.step_move action).of_ended here
  obtain ⟨there, claims', calls'⟩ := (other.step_move action').of_ended there
  exact ⟨⟨result, here, there⟩, claims.trans (finished.claims.trans claims'.symm),
    calls.trans (finished.calls.trans calls'.symm)⟩

namespace Parallel

/-- The same slot is seen in both. -/
theorem slot (parallel : Parallel caller one other) : one.build.slot = other.build.slot :=
  (congrArg IncludedBuild.slot parallel.core : one.build.core.slot = other.build.core.slot)

/-- The books stay right in both. -/
theorem moved (parallel : Parallel caller one other) (action action' : Action σ) :
    (one.step action).standing.Books ∧ (other.step action').standing.Books :=
  ⟨parallel.books.1.move (one.step_move action), parallel.books.2.move (other.step_move action')⟩

/-- Both calls take the same step. -/
theorem proceed (parallel : Parallel caller one other) :
    Parallel caller (one.step (.proceed caller)) (other.step (.proceed caller)) ∨
      Finished caller (one.step (.proceed caller)) (other.step (.proceed caller)) := by
  obtain ⟨phase, owner, found, found'⟩ := parallel.sweeping
  have books := parallel.moved (.proceed caller) (.proceed caller)
  have steps : ((one.build.proceed phase).value.1, (one.build.proceed phase).value.2.core) =
      ((other.build.proceed phase).value.1, (other.build.proceed phase).value.2.core) := by
    rw [← one.build.proceed_core owner, parallel.core, other.build.proceed_core owner]
  obtain ⟨same, core⟩ := Prod.mk.inj steps
  simp only [step, found, found'] at books ⊢
  cases ending : phase.isEnding with
  | true =>
    cases phase with
    | ending result =>
      have finished (callers : Callers σ ρ)
          (there : callers.calls[caller]? = some { phase := .ending result, asleep := false }) :
          (callers.proceed caller (.ending result)).phases[caller]? =
            some (.ended (awaitResult result)) := by
        have within : caller < callers.phases.length := by
          simpa [phases] using (List.getElem?_eq_some_iff.mp there).1
        rw [phases_proceed, List.getElem?_set_self within]
        rfl
      have quiet (callers : Callers σ ρ) :
          (callers.proceed caller (.ending result)).history = callers.history :=
        List.append_nil _
      refine .inr ⟨⟨result, finished one found, finished other found'⟩, ?_, ?_⟩
      · rw [quiet, quiet, parallel.history]
      · rw [quiet, quiet, parallel.history]
    | _ => simp [Phase.isEnding] at ending
  | false =>
    have owns := (one.build.proceed_step phase).ownsSweep_of_owner owner ending
    have settled (callers : Callers σ ρ)
        (there : callers.calls[caller]? = some { phase, asleep := false })
        (still : (callers.build.proceed phase).value.1.ownsSweep = true) :
        (callers.proceed caller phase).calls[caller]? =
          some { phase := (callers.build.proceed phase).value.1, asleep := false } := by
      have within : caller < callers.calls.length := (List.getElem?_eq_some_iff.mp there).1
      have awake : (callers.build.proceed phase).value.1.isWaiting = false := by
        cases standing : (callers.build.proceed phase).value.1 <;>
          simp_all [Phase.ownsSweep, Phase.isWaiting]
      simp only [Callers.proceed, ending, Bool.false_eq_true, if_false, setCall,
        List.getElem?_set_self within, AwaitCall.settled, awake]
    refine .inl ⟨books, core, ?_, _, owns, settled one found owns, ?_⟩
    · simp only [Callers.proceed, parallel.history, parallel.slot, same]
    · rw [same]
      exact settled other found' (same ▸ owns)

/-- Both go on alike when other calls move. -/
theorem foreign (parallel : Parallel caller one other) {action : Action σ}
    (foreign : action.caller? ≠ some caller) (inside : ∀ side, action ≠ .beside side) :
    Parallel caller (one.step action) (other.step action) := by
  obtain ⟨phase, owner, found, found'⟩ := parallel.sweeping
  obtain ⟨core, history, call⟩ := one.bystander parallel.books.1 found owner foreign inside
  obtain ⟨core', history', call'⟩ := other.bystander parallel.books.2 found' owner foreign inside
  exact ⟨parallel.moved action action, core.trans (parallel.core.trans core'.symm),
    history.trans (parallel.history.trans history'.symm),
    phase, owner, call.trans found, call'.trans found'⟩

/-- Both go on alike when the same happens beside the calls, also if a source panics in one of them
only. -/
theorem beside (parallel : Parallel caller one other) (side : SideStep σ) :
    Parallel caller (one.step (.beside side)) (other.step (.beside side.cured)) where
  books := parallel.moved (.beside side) (.beside side.cured)
  core := by
    simp only [Callers.step, side.apply_cured_core]
    rw [← side.apply_core one.build, parallel.core, side.apply_core]
  history := by
    cases side <;> simp only [Callers.step, SideStep.cured, parallel.history]
  sweeping := parallel.sweeping

/-- Both go on alike, or end alike, when the call itself moves. -/
theorem own (parallel : Parallel caller one other) {action : Action σ}
    (own : action.caller? = some caller) :
    Parallel caller (one.step action) (other.step action) ∨
      Finished caller (one.step action) (other.step action) := by
  obtain ⟨phase, owner, found, found'⟩ := parallel.sweeping
  have books := parallel.moved action action
  cases action with
  | enter => simp [Action.caller?] at own
  | beside side => simp [Action.caller?] at own
  | proceed number =>
    obtain rfl := Option.some.inj own
    exact parallel.proceed
  | wake number =>
    obtain rfl := Option.some.inj own
    simp only [Callers.step, found, found'] at books ⊢
    exact .inl ⟨books, parallel.core, parallel.history, phase, owner,
      getElem?_setCall_self found _, getElem?_setCall_self found' _⟩
  | unwind number message =>
    obtain rfl := Option.some.inj own
    simp only [Callers.step, found, found'] at books ⊢
    refine .inl ⟨books, parallel.core, parallel.history, IncludedBuild.unwind message phase, ?_,
      getElem?_setCall_self found _, getElem?_setCall_self found' _⟩
    cases phase <;> simp_all [IncludedBuild.unwind, Phase.ownsSweep]
  | abort number message =>
    obtain rfl := Option.some.inj own
    have aborts : ((one.build.abort message phase).1, (one.build.abort message phase).2.core) =
        ((other.build.abort message phase).1, (other.build.abort message phase).2.core) := by
      rw [← one.build.abort_core, parallel.core, other.build.abort_core]
    obtain ⟨same, core⟩ := Prod.mk.inj aborts
    simp only [Callers.step, found, found'] at books ⊢
    refine .inl ⟨books, core, parallel.history, (one.build.abort message phase).1, ?_,
      getElem?_setCall_self found _, ?_⟩
    · rcases (abort_cases one.build message phase).2 with unmoved | ⟨-, ended⟩
      · rw [unmoved, owner]
      · rw [ended]
        rfl
    · rw [same]
      exact getElem?_setCall_self found' _

/-- Both go on alike, or end alike, whatever happens, also if a source panics in one of them
only. -/
theorem step (parallel : Parallel caller one other) (action : Action σ) :
    Parallel caller (one.step action) (other.step action.cured) ∨
      Finished caller (one.step action) (other.step action.cured) := by
  by_cases own : action.caller? = some caller
  · rw [Action.cured_of_caller? own]
    exact parallel.own own
  · cases action with
    | beside side => exact .inl (parallel.beside side)
    | _ => exact .inl (parallel.foreign own (by simp))

end Parallel

/-- A call that finds an idle build owns the sweep, and so it does if the schedule is cured. -/
theorem parallel_enter {callers : Callers σ ρ} (books : callers.standing.Books)
    (idle : callers.build.schedule.executing = false) :
    Parallel callers.calls.length (callers.step .enter) (callers.cured.step .enter) := by
  have cured : callers.cured.standing.Books := ⟨books.owners, books.waiters⟩
  have entered (later : Callers σ ρ) (same : later.calls = callers.calls)
      (idle : later.build.schedule.executing = false) :
      (later.step .enter).calls[callers.calls.length]? =
        some { phase := .claimed later.build.schedule.claim.1, asleep := false } := by
    simp [step, enter, IncludedBuild.enter_of_idle _ idle, same, AwaitCall.settled,
      Phase.isWaiting]
  refine ⟨⟨books.move (callers.step_move .enter), cured.move (callers.cured.step_move .enter)⟩,
    ?_, ?_, _, rfl, entered callers rfl idle, entered callers.cured rfl idle⟩
  · have idle' : callers.cured.build.schedule.executing = false := idle
    simp only [step, enter, IncludedBuild.enter_of_idle _ idle, IncludedBuild.enter_of_idle _ idle']
    rfl
  · have idle' : callers.cured.build.schedule.executing = false := idle
    simp only [step, enter, IncludedBuild.enter_of_idle _ idle, IncludedBuild.enter_of_idle _ idle']
    rfl

/-- Two executions of one sweep go on alike, or have ended alike, after the same actions, also if
sources panic in one of them only. -/
theorem parallel_run (actions : List (Action σ))
    (alike : Parallel caller one other ∨ Finished caller one other) :
    Parallel caller (one.run actions) (other.run (actions.map .cured)) ∨
      Finished caller (one.run actions) (other.run (actions.map .cured)) := by
  induction actions generalizing one other with
  | nil => exact alike
  | cons action actions ih =>
    change Parallel caller ((one.step action).run actions) _ ∨
      Finished caller ((one.step action).run actions) _
    refine ih ?_
    rcases alike with parallel | finished
    · exact parallel.step action
    · exact .inr (finished.step action action.cured)

/-- A cured schedule stays sound. -/
theorem poisoned_cured_run (callers : Callers σ ρ) (actions : List (Action σ)) :
    (callers.cured.run (actions.map .cured)).build.schedule.poisoned = false := by
  by_contra poisoned
  rcases (poisoned_run _ _).mp (by simpa using poisoned) with before | ⟨paths, member⟩
  · simp [cured] at before
  · obtain ⟨action, -, same⟩ := List.mem_map.mp member
    have harmless := action.poisons_cured
    rw [same] at harmless
    simp [Action.poisons, SideStep.poisons] at harmless

end Callers

end CompositeBuild
