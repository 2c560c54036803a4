import CompositeBuild.Proofs.Await.Sweeps

/-!
# How sweeps end

A sweep with fresh paths ends when the run of its launcher does, or before that, when making the
launcher or asking it for tasks panics.  A sweep without fresh paths comes near no launcher.
`Chronicle` is a build with its callers that also notes how sweeps ended, with the outcome that the
launcher itself gave.

`Standing.Advance` lists what one action can do to how things stand together with the sweep that it
ends: either no sweep ends, and every run goes on, or one call comes to its end and nothing else
happens (`Callers.step_advance`).
-/

namespace CompositeBuild

variable {σ ρ : Type}

/-! ### Endings -/

/-- How a sweep with fresh paths ended. -/
inductive SweepEnd where
  /-- The run of its launcher ended. -/
  | ran (launcher : LauncherId) (outcome : Outcome BuildFailure BuildOutcome)
  /-- Making its launcher, or asking it for tasks, panicked, and so there was no run. -/
  | aborted (message : String)
  deriving DecidableEq, Repr

/-- Calls return different results for sweeps that came to different ones. -/
theorem awaitResult_inj (one other : Outcome BuildFailure Unit) :
    awaitResult one = awaitResult other ↔ one = other := by
  cases one <;> cases other <;> simp [awaitResult]

/-- A call that has come to the end of its sweep has not been interrupted. -/
theorem awaitResult_ne_interrupted (result : Outcome BuildFailure Unit) (build : BuildId) :
    awaitResult result ≠ .failed (.interrupted build) := by
  cases result <;> simp [awaitResult]

namespace IncludedBuild

variable (build : IncludedBuild σ ρ)

/-- Whether the next thing that a call does is to have a launcher made or to ask it for tasks. -/
def mayAbort : Phase ρ → Bool
  | .claimed claim => decide (claim.fresh ≠ []) && build.slot.launcher.isNone
  | .launching _ _ => true
  | _ => false

/-- A panic outside of a run ends the sweep of a call that may be aborted, and is no matter for any
other call. -/
theorem abort_phase (message : String) (phase : Phase ρ) :
    (build.abort message phase).1 =
      if build.mayAbort phase then .ending (.panicked message) else phase := by
  cases phase with
  | claimed claim =>
    by_cases nothing : claim.fresh = []
    · simp [abort, mayAbort, nothing]
    · cases taken : build.slot.launcher <;> simp [abort, mayAbort, nothing, taken]
  | _ => rfl

end IncludedBuild

/-- The sweep that an action ends, given by the number of its call. -/
def Callers.sweepEnd? (callers : Callers σ ρ) : Action σ → Option (Nat × SweepEnd)
  | .proceed caller =>
    match callers.calls[caller]? with
    | some { phase := .running launcher run, asleep := false } =>
      let outcome := (callers.build.factory.endRun launcher run callers.build.launchers).value.1
      some (caller, .ran launcher outcome)
    | _ => none
  | .unwind caller message =>
    match callers.calls[caller]? with
    | some { phase := .running launcher _, .. } => some (caller, .ran launcher (.panicked message))
    | _ => none
  | .abort caller message =>
    match callers.calls[caller]? with
    | some call =>
      if callers.build.mayAbort call.phase then some (caller, .aborted message) else none
    | none => none
  | _ => none

/-- A build with its callers, and how their sweeps have ended, each with the number of its call. -/
structure Chronicle (σ ρ : Type) where
  callers : Callers σ ρ
  endings : List (Nat × SweepEnd) := []

namespace Chronicle

/-- A new build without callers. -/
def start (name : BuildId) (projectDir : String) (factory : LauncherFactory σ ρ)
    (launchers : σ) : Chronicle σ ρ where
  callers := .start name projectDir factory launchers

/-- Let something happen, and note which sweep it ends. -/
def step (chronicle : Chronicle σ ρ) (action : Action σ) : Chronicle σ ρ where
  callers := chronicle.callers.step action
  endings := chronicle.endings ++ (chronicle.callers.sweepEnd? action).toList

/-- Let things happen one after the other. -/
def run (chronicle : Chronicle σ ρ) (actions : List (Action σ)) : Chronicle σ ρ :=
  actions.foldl step chronicle

/-- Noting how sweeps end changes nothing for the callers. -/
@[simp] theorem callers_run (chronicle : Chronicle σ ρ) (actions : List (Action σ)) :
    (chronicle.run actions).callers = chronicle.callers.run actions :=
  (actions.foldl_hom Chronicle.callers fun _ _ => rfl).symm

end Chronicle

/-! ### Moves and endings -/

/-- A call whose launcher still has to be asked for tasks. -/
def Phase.isPreparing : Phase ρ → Bool
  | .claimed claim => decide (claim.fresh ≠ [])
  | .launching _ _ => true
  | _ => false

/-- A call on the way to its run owns the sweep in flight. -/
theorem Phase.ownsSweep_of_isPreparing {phase : Phase ρ} (preparing : phase.isPreparing = true) :
    phase.ownsSweep = true := by
  cases phase <;> simp_all [isPreparing, ownsSweep]

/-- A call that may be aborted is preparing its run. -/
theorem IncludedBuild.isPreparing_of_mayAbort {build : IncludedBuild σ ρ} {phase : Phase ρ}
    (may : build.mayAbort phase = true) : phase.isPreparing = true := by
  cases phase <;> simp_all [IncludedBuild.mayAbort, Phase.isPreparing]

namespace Standing

variable {now next : Standing ρ}

/-- What one action does to how things stand, and which sweep it ends. -/
inductive Advance (now : Standing ρ) : Standing ρ → Option (Nat × SweepEnd) → Prop
  /-- No sweep is ended, and so every run goes on. -/
  | move {next : Standing ρ} (move : Move false now next)
      (goesOn : ∀ (caller : Nat) (phase : Phase ρ), phase.isRunning = true →
        now.phases[caller]? = some phase → next.phases[caller]? = some phase) :
      Advance now next none
  /-- The run of a call ends. -/
  | ran {front back : List (Phase ρ)} {launcher : LauncherId} {run : ρ}
      (split : now.phases = front ++ .running launcher run :: back)
      (outcome : Outcome BuildFailure BuildOutcome) :
      Advance now { now with phases := front ++ .ending (runResult outcome) :: back }
        (some (front.length, .ran launcher outcome))
  /-- A call is aborted before its run. -/
  | aborted {front back : List (Phase ρ)} {phase : Phase ρ}
      (split : now.phases = front ++ phase :: back) (preparing : phase.isPreparing = true)
      (message : String) :
      Advance now { now with phases := front ++ .ending (.panicked message) :: back }
        (some (front.length, .aborted message))

/-- Whatever ends a sweep is a move, and so keeps what every move keeps. -/
theorem Advance.isMove {ended : Option (Nat × SweepEnd)} (advance : Advance now next ended) :
    Move true now next := by
  cases advance with
  | move move goesOn => exact move.mono (by simp)
  | @ran front back launcher run split outcome =>
    have step : Phase.Step ⟨""⟩ now.schedule (.running launcher run)
        (.ending (runResult outcome)) now.schedule := .endRun
    have moved : Move true now _ := .proceed false split step
    simpa [stepEvents] using moved
  | aborted split preparing message =>
    exact .abort message rfl split (Phase.ownsSweep_of_isPreparing preparing)

end Standing

/-- Runs go on if a call that moves does not run. -/
theorem goesOn_set {phases : List (Phase ρ)} {caller : Nat} {phase : Phase ρ}
    (found : phases[caller]? = some phase) (idle : phase.isRunning = false) (next : Phase ρ)
    (other : Nat) (running : Phase ρ) (runs : running.isRunning = true)
    (there : phases[other]? = some running) : (phases.set caller next)[other]? = some running := by
  have different : caller ≠ other := by
    rintro rfl
    obtain rfl : phase = running := by simpa [found] using there
    simp [runs] at idle
  rw [List.getElem?_set_ne different, there]

namespace Callers

variable (callers : Callers σ ρ)

/-- A step of a call ends its sweep if the run of the call ends, and no sweep otherwise. -/
theorem proceed_advance {caller : Nat} {phase : Phase ρ}
    (found : callers.calls[caller]? = some { phase, asleep := false }) :
    Standing.Advance callers.standing (callers.step (.proceed caller)).standing
      (callers.sweepEnd? (.proceed caller)) := by
  have standing : callers.standing.phases[caller]? = some phase := by
    simp [Callers.standing, phases, found]
  have after : (callers.step (.proceed caller)).standing.phases =
      callers.standing.phases.set caller (callers.build.proceed phase).value.1 := by
    simp only [step, found]
    exact callers.phases_proceed caller phase
  cases running : phase.isRunning with
  | false =>
    have quiet : callers.sweepEnd? (.proceed caller) = none := by
      simp only [sweepEnd?, found]
      cases phase <;> simp_all [Phase.isRunning]
    rw [quiet]
    refine .move (callers.step_move (.proceed caller)) ?_
    rw [after]
    exact goesOn_set standing running _
  | true =>
    cases phase with
    | running launcher run =>
      obtain ⟨front, back, split, rfl⟩ := callers.exists_split found
      have outcome := callers.standing_proceed split
      simp only [IncludedBuild.proceed, callers.build.endRun_value] at outcome
      simp only [step, found, outcome]
      simp only [stepEvents, List.append_nil]
      simp only [sweepEnd?, found]
      exact .ran split _
    | _ => simp [Phase.isRunning] at running

/-- A panic in the run of a call ends its sweep. -/
theorem unwind_advance {caller : Nat} {call : AwaitCall ρ}
    (found : callers.calls[caller]? = some call) (message : String) :
    Standing.Advance callers.standing (callers.step (.unwind caller message)).standing
      (callers.sweepEnd? (.unwind caller message)) := by
  obtain ⟨front, back, split, rfl⟩ := callers.exists_split found
  rw [callers.standing_unwind found split]
  obtain ⟨phase, asleep⟩ := call
  cases phase with
  | running launcher run =>
    simp only [sweepEnd?, found]
    exact .ran split (.panicked message)
  | _ =>
    simp only [sweepEnd?, found, IncludedBuild.unwind, ← split]
    exact .move .stay fun _ _ _ there => there

/-- A panic while a launcher is made or asked for tasks ends the sweep of the call. -/
theorem abort_advance {caller : Nat} {call : AwaitCall ρ}
    (found : callers.calls[caller]? = some call) (message : String) :
    Standing.Advance callers.standing (callers.step (.abort caller message)).standing
      (callers.sweepEnd? (.abort caller message)) := by
  obtain ⟨front, back, split, rfl⟩ := callers.exists_split found
  rw [callers.standing_abort found split, callers.build.abort_phase]
  cases may : callers.build.mayAbort call.phase with
  | true =>
    simp only [sweepEnd?, found, may, if_true]
    exact .aborted split (IncludedBuild.isPreparing_of_mayAbort may) message
  | false =>
    simp only [sweepEnd?, found, may, Bool.false_eq_true, if_false, ← split]
    exact .move .stay fun _ _ _ there => there

/-- Every action advances things as the list says. -/
theorem step_advance (action : Action σ) :
    Standing.Advance callers.standing (callers.step action).standing
      (callers.sweepEnd? action) := by
  cases action with
  | enter =>
    refine .move (callers.step_move .enter) fun caller phase _ there => ?_
    have longer : (callers.step .enter).standing.phases =
        callers.standing.phases ++ [callers.build.enter.value.1] := by
      simp [step, enter, standing, phases, AwaitCall.settled]
    rw [longer]
    rw [List.getElem?_append_left (List.getElem?_eq_some_iff.mp there).1]
    exact there
  | proceed caller =>
    cases found : callers.calls[caller]? with
    | none =>
      simp only [step, sweepEnd?, found]
      exact .move .stay fun _ _ _ there => there
    | some call =>
      obtain ⟨phase, asleep⟩ := call
      cases asleep with
      | false => exact callers.proceed_advance found
      | true =>
        simp only [step, sweepEnd?, found]
        exact .move .stay fun _ _ _ there => there
  | wake caller =>
    rw [standing_wake]
    exact .move .stay fun _ _ _ there => there
  | unwind caller message =>
    cases found : callers.calls[caller]? with
    | some call => exact callers.unwind_advance found message
    | none =>
      simp only [step, sweepEnd?, found]
      exact .move .stay fun _ _ _ there => there
  | abort caller message =>
    cases found : callers.calls[caller]? with
    | some call => exact callers.abort_advance found message
    | none =>
      simp only [step, sweepEnd?, found]
      exact .move .stay fun _ _ _ there => there
  | beside side => exact .move (callers.beside_move false side) fun _ _ _ there => there

end Callers

namespace Chronicle

/-- What every action keeps holds after all of them, of how things stand and of the sweeps that have
ended. -/
theorem run_law {P : Standing ρ → List (Nat × SweepEnd) → Prop} {chronicle : Chronicle σ ρ}
    (keeps : ∀ now endings next ended, Standing.Advance now next ended → P now endings →
      P next (endings ++ ended.toList))
    (holds : P chronicle.callers.standing chronicle.endings) (actions : List (Action σ)) :
    P (chronicle.run actions).callers.standing (chronicle.run actions).endings := by
  refine actions.foldlRecOn step
    (motive := fun chronicle => P chronicle.callers.standing chronicle.endings) holds ?_
  intro chronicle before action _
  exact keeps _ _ _ _ (chronicle.callers.step_advance action) before

end Chronicle

end CompositeBuild
