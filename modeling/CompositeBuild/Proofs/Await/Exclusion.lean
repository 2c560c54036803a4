import CompositeBuild.Proofs.Await.Standing

/-!
# One sweep at a time

The books of a schedule are right if the flag says how many calls own a sweep, and the count how
many calls wait.  Every move keeps them right (`Standing.Books.move`), because a call changes the
flag and the count exactly as it takes up or gives up what they stand for.  As the flag is one bit,
at most one call owns a sweep.
-/

namespace CompositeBuild

variable {σ ρ : Type}

namespace Standing

/-- The flag of the schedule says how many calls own a sweep, and its count how many wait. -/
structure Books (now : Standing ρ) : Prop where
  owners : now.phases.countP Phase.ownsSweep = now.schedule.executing.toNat
  waiters : now.phases.countP Phase.isWaiting = now.schedule.waiting

variable {now next : Standing ρ}

/-- What is counted over the calls of a split list. -/
theorem countP_split (p : Phase ρ → Bool) (front back : List (Phase ρ)) (phase : Phase ρ) :
    (front ++ phase :: back).countP p =
      front.countP p + back.countP p + (p phase).toNat := by
  rw [List.countP_append, List.countP_cons]
  cases p phase <;> simp +arith

namespace Books

variable {front back : List (Phase ρ)} {phase : Phase ρ}

/-- A call that owns a sweep keeps the flag up. -/
theorem executing_of_owner (books : Books now) (split : now.phases = front ++ phase :: back)
    (owner : phase.ownsSweep = true) : now.schedule.executing = true := by
  have counted := books.owners
  rw [split, countP_split, owner] at counted
  cases flag : now.schedule.executing with
  | true => rfl
  | false => simp [flag] at counted

/-- A call that waits is counted. -/
theorem waiting_pos (books : Books now) (split : now.phases = front ++ phase :: back)
    (waits : phase.isWaiting = true) : 0 < now.schedule.waiting := by
  have counted := books.waiters
  rw [split, countP_split, waits] at counted
  simp only [Bool.toNat_true] at counted
  omega

/-- Nobody owns a sweep on an idle schedule. -/
theorem not_owner_of_idle (books : Books now) (idle : now.schedule.executing = false) :
    ∀ phase ∈ now.phases, phase.ownsSweep = false := by
  have counted := books.owners
  rw [idle] at counted
  simpa using List.countP_eq_zero.mp counted

/-- Beside a call that owns a sweep there is no other. -/
theorem sole_owner (books : Books now) (split : now.phases = front ++ phase :: back)
    (owner : phase.ownsSweep = true) : ∀ other ∈ front ++ back, other.ownsSweep = false := by
  have counted := books.owners
  rw [split, countP_split, owner, books.executing_of_owner split owner] at counted
  have others : (front ++ back).countP Phase.ownsSweep = 0 := by
    rw [List.countP_append]
    simp only [Bool.toNat_true] at counted
    omega
  simpa using List.countP_eq_zero.mp others

/-- The books of a new build are right. -/
theorem start (name : BuildId) (projectDir : String) (factory : LauncherFactory σ ρ)
    (launchers : σ) : Books (Callers.start name projectDir factory launchers).standing where
  owners := rfl
  waiters := rfl

/-- Cutting short a call that owns the sweep keeps the books right. -/
theorem cut_short (books : Books now) (split : now.phases = front ++ phase :: back)
    (owner : phase.ownsSweep = true) (result : Outcome BuildFailure Unit) :
    Books { now with phases := front ++ .ending result :: back } where
  owners := by
    have counted := books.owners
    rw [split, countP_split, owner] at counted
    rw [countP_split]
    exact counted
  waiters := by
    have counted := books.waiters
    have waits : phase.isWaiting = false := by cases phase <;> simp_all [Phase.isWaiting,
      Phase.ownsSweep]
    rw [split, countP_split, waits] at counted
    rw [countP_split]
    exact counted

/-- Every move keeps the books right. -/
theorem move {mayAbort : Bool} (books : Books now) (move : Move mayAbort now next) :
    Books next := by
  cases move with
  | stay => exact books
  | push paths poison => exact ⟨books.owners, books.waiters⟩
  | join busy =>
    constructor
    · simp [List.countP_append, books.owners, Phase.ownsSweep, Schedule.join]
    · simp [List.countP_append, books.waiters, Phase.isWaiting, Schedule.join]
  | claim idle =>
    constructor
    · simp [List.countP_append, books.owners, idle, Phase.ownsSweep, Schedule.claim]
    · simp [List.countP_append, books.waiters, Phase.isWaiting, Schedule.claim]
  | @proceed name front back phase next after made split step =>
    have flag := step.executing_add (books.executing_of_owner split)
    have count := step.waiting_add (books.waiting_pos split)
    have owners := books.owners
    have waiters := books.waiters
    rw [split, countP_split] at owners waiters
    constructor
    · rw [countP_split]
      simp only
      omega
    · rw [countP_split]
      simp only
      omega
  | unwind message split => exact books.cut_short split rfl _
  | abort message allowed split owner => exact books.cut_short split owner _

end Books

end Standing

namespace Callers

variable (callers : Callers σ ρ)

/-- The flag of the schedule is cleared by nobody but a call that owns the sweep and has come to
its end. -/
theorem ending_of_cleared {action : Action σ} (busy : callers.build.schedule.executing = true)
    (cleared : (callers.step action).build.schedule.executing = false) :
    ∃ caller result, action = .proceed caller ∧
      callers.phases[caller]? = some (.ending result) := by
  cases action with
  | proceed caller =>
    simp only [step] at cleared
    split at cleared
    · next phase found =>
      have step := callers.build.proceed_step phase
      have ending : phase.isEnding = true := step.isEnding_of_cleared busy cleared
      cases phase with
      | ending result => exact ⟨caller, result, rfl, by simp [phases, found]⟩
      | _ => simp [Phase.isEnding] at ending
    · simp [busy] at cleared
  | enter =>
    simp [step, enter, IncludedBuild.enter_of_executing _ busy, Schedule.join, busy] at cleared
  | beside side =>
    simp [step, side.apply_schedule, busy] at cleared
  | wake caller =>
    simp only [step] at cleared
    split at cleared <;> simp [setCall, busy] at cleared
  | unwind caller message =>
    simp only [step] at cleared
    split at cleared <;> simp [setCall, busy] at cleared
  | abort caller message =>
    simp only [step] at cleared
    split at cleared
    · next call found => simp [(abort_cases callers.build message call.phase).1, busy] at cleared
    · simp [busy] at cleared

/-- A waiting call that is interrupted leaves the flag of the schedule as it is. -/
theorem executing_of_interrupted {caller : Nat} {build : BuildId}
    (waits : callers.phases[caller]? = some .waiting)
    (interrupted : (callers.step (.proceed caller)).phases[caller]? =
      some (.ended (.failed (.interrupted build)))) :
    (callers.step (.proceed caller)).build.schedule.executing =
      callers.build.schedule.executing := by
  simp only [step] at interrupted ⊢
  split at interrupted
  · next phase found =>
    have waiting : phase = .waiting := by simpa [phases, found] using waits
    have inside : caller < callers.phases.length := (List.getElem?_eq_some_iff.mp waits).1
    subst waiting
    rw [phases_proceed, List.getElem?_set_self inside, Option.some.injEq] at interrupted
    have step := callers.build.proceed_step .waiting
    rw [interrupted] at step
    exact step.executing_of_ended
  · rfl

/-- The books are right after every run. -/
theorem books_run (name : BuildId) (projectDir : String) (factory : LauncherFactory σ ρ)
    (launchers : σ) (actions : List (Action σ)) :
    ((start name projectDir factory launchers).run actions).standing.Books :=
  run_law _ true (fun _ _ _ => rfl) (fun _ _ move books => books.move move)
    (.start name projectDir factory launchers)

/-- **One sweep at a time.**  After every interleaving of the steps of any number of callers, with
runs that succeed, fail or panic, sources that poison the schedule, and launchers whose making
panics: at most one call is between its claim and its release; the flag of the schedule is up
exactly when there is one; the count of the schedule is the number of waiting calls, so that a call
that ends to wait never takes from nothing; nobody but the call that owns the sweep clears the flag,
an interrupted call in particular leaves it alone; no two runs overlap; and once all calls are over,
the build is idle and nobody is counted as waiting. -/
theorem sweeps_exclude_each_other (name : BuildId) (projectDir : String)
    (factory : LauncherFactory σ ρ) (launchers : σ) (actions : List (Action σ)) :
    let callers := (start name projectDir factory launchers).run actions
    let schedule := callers.build.schedule
    callers.phases.countP Phase.ownsSweep ≤ 1 ∧
    (schedule.executing = true ↔ callers.phases.countP Phase.ownsSweep = 1) ∧
    schedule.waiting = callers.phases.countP Phase.isWaiting ∧
    (.waiting ∈ callers.phases → 0 < schedule.waiting) ∧
    (∀ action, schedule.executing = true →
      (callers.step action).build.schedule.executing = false →
      ∃ caller result, action = .proceed caller ∧
        callers.phases[caller]? = some (.ending result)) ∧
    (∀ caller build, callers.phases[caller]? = some .waiting →
      (callers.step (.proceed caller)).phases[caller]? =
        some (.ended (.failed (.interrupted build))) →
      (callers.step (.proceed caller)).build.schedule.executing = schedule.executing) ∧
    callers.phases.countP Phase.isRunning ≤ 1 ∧
    ((∀ phase ∈ callers.phases, phase.isOver = true) →
      callers.build.state = .idle ∧ schedule.waiting = 0) := by
  intro callers schedule
  have books : callers.standing.Books := books_run name projectDir factory launchers actions
  have owners : callers.phases.countP Phase.ownsSweep = schedule.executing.toNat := books.owners
  have waiters : callers.phases.countP Phase.isWaiting = schedule.waiting := books.waiters
  have flag : schedule.executing.toNat ≤ 1 := Bool.toNat_le _
  refine ⟨by omega, ?_, waiters.symm, ?_, fun action => callers.ending_of_cleared, ?_, ?_, ?_⟩
  · rw [owners]
    cases schedule.executing <;> simp
  · intro waits
    rw [← waiters]
    exact List.countP_pos_iff.mpr ⟨.waiting, waits, rfl⟩
  · exact fun caller build => callers.executing_of_interrupted
  · have runners : callers.phases.countP Phase.isRunning ≤
        callers.phases.countP Phase.ownsSweep :=
      List.countP_mono_left fun phase _ => Phase.ownsSweep_of_isRunning
    omega
  · intro finished
    have noOwner : callers.phases.countP Phase.ownsSweep = 0 := by
      refine List.countP_eq_zero.mpr fun phase member => ?_
      have := finished phase member
      cases phase <;> simp_all [Phase.isOver, Phase.ownsSweep]
    have noWaiter : callers.phases.countP Phase.isWaiting = 0 := by
      refine List.countP_eq_zero.mpr fun phase member => ?_
      have := finished phase member
      cases phase <;> simp_all [Phase.isOver, Phase.isWaiting]
    have idle : schedule.executing = false := by
      cases up : schedule.executing with
      | false => rfl
      | true => simp [up] at owners; omega
    refine ⟨?_, by omega⟩
    show Schedule.state schedule = .idle
    simp [Schedule.state, idle]

end Callers

end CompositeBuild
