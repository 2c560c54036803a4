import CompositeBuild.Proofs.Await.Dealings

/-!
# What a call that returns has seen to

A call that returns from await without having been interrupted has claimed once, and its claim took
everything that was queued and not claimed before.  What was queued before the call began was so
either claimed by the call itself or by a sweep before its own; and sweeps come one after the other,
so those sweeps are over (`Standing.InTurn`).  It does not matter who swept, nor how often the call
was overtaken by others while it waited (`Chronicle.covered`).
-/

namespace CompositeBuild

variable {σ ρ : Type}

/-! ### Sweeps in order -/

namespace History

/-- All claims in order, each with the number of its call. -/
def sweeps (history : List Event) : List (Nat × Claim) :=
  history.filterMap fun
    | .claimed caller claim => some (caller, claim)
    | _ => none

@[simp] theorem sweeps_append (history more : List Event) :
    sweeps (history ++ more) = sweeps history ++ sweeps more :=
  List.filterMap_append

/-- The claims are those of the sweeps. -/
theorem claims_eq_sweeps (history : List Event) : claims history = (sweeps history).map (·.2) := by
  rw [claims, sweeps, List.map_filterMap]
  congr 1
  funext event
  cases event <;> rfl

/-- The claimed paths are those of the sweeps. -/
theorem claimed_eq_sweeps (history : List Event) :
    claimed history = (sweeps history).flatMap (·.2.requested) := by
  rw [claimed, claims_eq_sweeps, List.flatMap_map]

/-- Where nothing is claimed, no sweep begins. -/
theorem sweeps_eq_nil {history : List Event} (none : claims history = []) :
    sweeps history = [] := by
  rw [claims_eq_sweeps] at none
  exact List.map_eq_nil_iff.mp none

/-- The claims of a call are its sweeps. -/
theorem mem_claimsOf {history : List Event} {caller : Nat} {claim : Claim} :
    claim ∈ claimsOf caller history ↔ (caller, claim) ∈ sweeps history := by
  simp only [claimsOf, sweeps, List.mem_filterMap]
  refine exists_congr fun event => and_congr_right fun _ => ?_
  cases event with
  | claimed number taken => by_cases own : number = caller <;> simp [own]
  | _ => simp

/-- A sweep splits the history where it begins. -/
theorem exists_split_of_mem_sweeps {history : List Event} {caller : Nat} {claim : Claim}
    (member : (caller, claim) ∈ sweeps history) :
    ∃ before after, history = before ++ .claimed caller claim :: after := by
  obtain ⟨event, listed, selected⟩ := List.mem_filterMap.mp member
  cases event with
  | claimed number taken =>
    obtain ⟨rfl, rfl⟩ : number = caller ∧ taken = claim := by simpa using selected
    exact List.append_of_mem listed
  | _ => simp at selected

/-- A history from before the first claim of a call ends before that claim. -/
theorem prefix_of_new {history front back : List Event} {caller : Nat} {claim : Claim}
    (new : claimsOf caller history = [])
    (grown : history <+: front ++ .claimed caller claim :: back) : history <+: front := by
  have absent (known : .claimed caller claim ∈ history) : False := by
    have mine : claim ∈ claimsOf caller history :=
      mem_claimsOf.mpr (List.mem_filterMap.mpr ⟨_, known, rfl⟩)
    simp [new] at mine
  have inside : front ++ [.claimed caller claim] <+: front ++ .claimed caller claim :: back :=
    ⟨back, by simp⟩
  rcases List.prefix_or_prefix_of_prefix grown inside with shorter | longer
  · rcases List.prefix_concat_iff.mp shorter with rfl | before
    · exact (absent (by simp)).elim
    · exact before
  · exact (absent (longer.subset (by simp))).elim

end History

/-! ### Calls that are over -/

namespace Standing

/-- The call with the given number is over. -/
def IsOver (now : Standing ρ) (caller : Nat) : Prop :=
  ∃ result, now.phases[caller]? = some (.ended result)

variable {now next : Standing ρ} {endings : List (Nat × SweepEnd)} {caller : Nat}

/-- A call that is over stays over. -/
theorem IsOver.move {mayAbort : Bool} (isOver : now.IsOver caller) (move : Move mayAbort now next) :
    next.IsOver caller := by
  obtain ⟨result, ended⟩ := isOver
  exact ⟨result, (move.of_ended ended).1⟩

/-- While no sweep is in flight, all calls that have claimed are over. -/
theorem Accounts.isOver_of_idle (accounts : Accounts now endings) (books : Books now)
    (idle : now.schedule.executing = false) :
    ∀ sweep ∈ History.sweeps now.history, now.IsOver sweep.1 := by
  rintro ⟨caller, claim⟩ member
  have account := accounts caller
  have claimed : claim ∈ (Dealings.of now.history endings caller).claims :=
    History.mem_claimsOf.mpr member
  have some (none : Dealings.of now.history endings caller = {}) : False := by
    simp [none] at claimed
  cases found : now.phases[caller]? with
  | none =>
    rw [found] at account
    exact (some account).elim
  | some phase =>
    have quiet := books.not_owner_of_idle idle phase (List.mem_of_getElem? found)
    rw [found] at account
    cases phase with
    | waiting => exact (some account).elim
    | ended result => exact ⟨result, found⟩
    | _ => simp [Phase.ownsSweep] at quiet

/-- A call that has returned without having been interrupted has claimed. -/
theorem Accounts.exists_sweep (accounts : Accounts now endings) {result : Outcome AwaitError Unit}
    (ended : now.phases[caller]? = some (.ended result))
    (sound : ∀ build, result ≠ .failed (.interrupted build)) :
    ∃ claim, (caller, claim) ∈ History.sweeps now.history := by
  have account := accounts caller
  rw [ended] at account
  rcases account with ⟨-, build, interrupted⟩ | ⟨_, settled, -⟩
  · exact absurd interrupted (sound build)
  · obtain ⟨claim, mine⟩ := List.exists_mem_of_ne_nil _ settled.claims_ne_nil
    exact ⟨claim, History.mem_claimsOf.mp mine⟩

/-! ### One sweep after the other -/

/-- Sweeps come one after the other: the calls of all sweeps but the last are over. -/
def InTurn (now : Standing ρ) : Prop :=
  ∀ sweep ∈ (History.sweeps now.history).dropLast, now.IsOver sweep.1

namespace InTurn

/-- Sweeps are in turn as long as no other begins. -/
theorem extend (inTurn : InTurn now) {more : List Event}
    (history : next.history = now.history ++ more) (none : History.claims more = [])
    (lasting : ∀ caller, now.IsOver caller → next.IsOver caller) : InTurn next := by
  intro sweep member
  rw [history, History.sweeps_append, History.sweeps_eq_nil none, List.append_nil] at member
  exact lasting sweep.1 (inTurn sweep member)

/-- Sweeps are in turn when one begins after all others. -/
theorem claim {claim : Claim} (history : next.history = now.history ++ [.claimed caller claim])
    (isOver : ∀ sweep ∈ History.sweeps now.history, next.IsOver sweep.1) : InTurn next := by
  intro sweep member
  rw [history, History.sweeps_append] at member
  have last : History.sweeps [.claimed caller claim] = [(caller, claim)] := rfl
  rw [last, List.dropLast_concat] at member
  exact isOver sweep member

/-- Sweeps stay in turn, whatever happens. -/
theorem move {mayAbort : Bool} (inTurn : InTurn now) (books : Books now)
    (accounts : Accounts now endings) (move : Move mayAbort now next) : InTurn next := by
  have lasting : ∀ caller, now.IsOver caller → next.IsOver caller :=
    fun _ isOver => isOver.move move
  have begun (idle : now.schedule.executing = false) :
      ∀ sweep ∈ History.sweeps now.history, next.IsOver sweep.1 := fun sweep member =>
    lasting sweep.1 (accounts.isOver_of_idle books idle sweep member)
  have quiet (same : next.history = now.history) : InTurn next :=
    inTurn.extend (same.trans (List.append_nil _).symm) rfl lasting
  cases move with
  | stay => exact inTurn
  | push paths poison => exact inTurn.extend rfl rfl lasting
  | join busy => exact quiet rfl
  | claim idle => exact .claim rfl (begun idle)
  | @proceed name front back phase next after made split step =>
    cases step with
    | claim sound idle => exact .claim rfl (begun idle)
    | _ => exact inTurn.extend rfl (by simp [stepEvents, History.claims]) lasting
  | unwind message split => exact quiet rfl
  | abort message allowed split owner => exact quiet rfl

end InTurn

end Standing

/-! ### Finished sweeps -/

namespace Dealings

variable {history : List Event} {endings : List (Nat × SweepEnd)} {caller : Nat} {claim : Claim}

/-- A sweep that is over has found nothing fresh, or its run has ended, or it was aborted. -/
theorem Settled.finished {dealings : Dealings} {result : Outcome BuildFailure Unit}
    (settled : dealings.Settled result) (claimed : claim ∈ dealings.claims) :
    claim.fresh = [] ∨ (∃ launcher outcome, .ran launcher outcome ∈ dealings.ends) ∨
      ∃ message, .aborted message ∈ dealings.ends := by
  cases settled with
  | nothing nothing =>
    obtain rfl : claim = _ := by simpa using claimed
    exact .inl nothing
  | @ran _ launcher something outcome => exact .inr (.inl ⟨launcher, outcome, by simp⟩)
  | aborted something message => exact .inr (.inr ⟨message, by simp⟩)

/-- When a call is over, so is its sweep. -/
theorem Account.finished {result : Outcome AwaitError Unit}
    (account : Account (ρ := ρ) history (of history endings caller) (some (.ended result)))
    (claimed : (caller, claim) ∈ History.sweeps history) :
    claim.fresh = [] ∨ (∃ launcher outcome, (caller, .ran launcher outcome) ∈ endings) ∨
      ∃ message, (caller, .aborted message) ∈ endings := by
  have mine : claim ∈ (of history endings caller).claims := History.mem_claimsOf.mpr claimed
  simp only [← mem_ends history]
  rcases account with ⟨untouched, -⟩ | ⟨_, settled, -⟩
  · simp [untouched] at mine
  · exact settled.finished mine

end Dealings

/-! ### Longer histories -/

namespace Callers

/-- Nothing that happened is forgotten. -/
theorem history_step (callers : Callers σ ρ) (action : Action σ) :
    callers.history <+: (callers.step action).history := by
  cases action with
  | enter => exact List.prefix_append _ _
  | proceed caller =>
    simp only [step]
    split
    · exact List.prefix_append _ _
    · exact List.prefix_rfl
  | beside side => exact List.prefix_append _ _
  | _ =>
    simp only [step]
    split <;> exact List.prefix_rfl

/-- Nothing that happened is ever forgotten. -/
theorem history_run (callers : Callers σ ρ) (actions : List (Action σ)) :
    callers.history <+: (callers.run actions).history :=
  run_preserves (P := fun later => callers.history <+: later.history)
    (fun action _ later before => before.trans (later.history_step action)) List.prefix_rfl

/-- A sweep is aborted by the action that says so. -/
theorem eq_abort_of_sweepEnd? {callers : Callers σ ρ} {action : Action σ} {caller : Nat}
    {message : String} (ended : callers.sweepEnd? action = some (caller, .aborted message)) :
    action = .abort caller message := by
  cases action with
  | abort number reason =>
    simp only [sweepEnd?] at ended
    split at ended
    · split at ended
      · simp_all
      · simp at ended
    · simp at ended
  | _ =>
    simp only [sweepEnd?] at ended
    try split at ended
    all_goals simp at ended

end Callers

namespace Chronicle

/-- Sweeps that were aborted have been aborted by an action. -/
theorem mem_of_aborted {chronicle : Chronicle σ ρ} {actions : List (Action σ)} {caller : Nat}
    {message : String} (noted : (caller, .aborted message) ∈ (chronicle.run actions).endings) :
    (caller, .aborted message) ∈ chronicle.endings ∨ .abort caller message ∈ actions := by
  induction actions generalizing chronicle with
  | nil => exact .inl noted
  | cons action actions ih =>
    rcases ih noted with before | later
    · rcases List.mem_append.mp before with earlier | now
      · exact .inl earlier
      · have ended := Option.mem_toList.mp now
        exact .inr (List.mem_cons.mpr (.inl (Callers.eq_abort_of_sweepEnd? ended).symm))
    · exact .inr (List.mem_cons_of_mem action later)

/-- After every run the books and the ledger are right, the dealings of every call account for its
phase, and sweeps are in turn. -/
theorem coverage_run (name : BuildId) (projectDir : String) (factory : LauncherFactory σ ρ)
    (launchers : σ) (actions : List (Action σ)) :
    let chronicle := (start name projectDir factory launchers).run actions
    let now := chronicle.callers.standing
    now.Books ∧ now.Accounts chronicle.endings ∧ now.Ledger ∧ now.InTurn := by
  refine run_law (P := fun now endings =>
    now.Books ∧ now.Accounts endings ∧ now.Ledger ∧ now.InTurn) ?_ ?_ actions
  · rintro now endings next ended advance ⟨books, accounts, ledger, inTurn⟩
    exact ⟨books.move advance.isMove, accounts.advance books advance, ledger.move advance.isMove,
      inTurn.move books accounts advance.isMove⟩
  · refine ⟨.start name projectDir factory launchers, .start name projectDir factory launchers,
      .start name projectDir factory launchers, fun sweep member => ?_⟩
    simp [start, Callers.start, Callers.standing, History.sweeps] at member

/-- A call that has returned without having been interrupted has seen to everything that was queued
before it began: some sweeps, the own one of the call the last of them, have claimed it, and all of
them are over. -/
theorem covered (name : BuildId) (projectDir : String) (factory : LauncherFactory σ ρ)
    (launchers : σ) (earlier later : List (Action σ)) {result : Outcome AwaitError Unit}
    (sound : ∀ build, result ≠ .failed (.interrupted build)) :
    let before := (start name projectDir factory launchers).run earlier
    let after := before.run later
    let caller := before.callers.calls.length
    after.callers.phases[caller]? = some (.ended result) →
    ∃ covering claim, covering ++ [(caller, claim)] <+: History.sweeps after.callers.history ∧
      History.pushed before.callers.history <+:
        (covering ++ [(caller, claim)]).flatMap (·.2.requested) ∧
      ∀ sweep ∈ covering ++ [(caller, claim)], after.callers.standing.IsOver sweep.1 ∧
        (sweep.2.fresh = [] ∨
          (∃ launcher outcome, (sweep.1, .ran launcher outcome) ∈ after.endings) ∨
          ∃ message, (sweep.1, .aborted message) ∈ after.endings) := by
  intro before after caller isOver
  obtain ⟨-, unknown, -, -⟩ := coverage_run name projectDir factory launchers earlier
  have whole : after = (start name projectDir factory launchers).run (earlier ++ later) :=
    List.foldl_append.symm
  obtain ⟨-, accounts, ledger, inTurn⟩ :=
    coverage_run name projectDir factory launchers (earlier ++ later)
  rw [← whole] at accounts ledger inTurn
  -- The call has claimed, and it had not before it began.
  obtain ⟨claim, claimed⟩ : ∃ claim, (caller, claim) ∈ History.sweeps after.callers.history :=
    accounts.exists_sweep isOver sound
  have new : History.claimsOf caller before.callers.history = [] := by
    have count : before.callers.standing.phases.length = caller := List.length_map _
    have none := unknown.of_new
    rw [count] at none
    exact congrArg Dealings.claims none
  obtain ⟨front, back, split⟩ := History.exists_split_of_mem_sweeps claimed
  have listed : History.sweeps after.callers.history =
      History.sweeps front ++ (caller, claim) :: History.sweeps back := by
    rw [split, History.sweeps_append]
    rfl
  have longer : before.callers.history <+: front := by
    have grown := before.callers.history_run later
    rw [← callers_run, show (before.run later).callers.history = _ from split] at grown
    exact History.prefix_of_new new grown
  have first : History.sweeps front ++ [(caller, claim)] <+:
      History.sweeps after.callers.history := ⟨History.sweeps back, by rw [listed]; simp⟩
  refine ⟨History.sweeps front, claim, first, ?_, fun sweep member => ?_⟩
  · have taken := ledger.snapshots front caller claim back split
    rw [List.flatMap_append, ← History.claimed_eq_sweeps]
    simp only [List.flatMap_cons, List.flatMap_nil, List.append_nil, ← taken]
    obtain ⟨more, rfl⟩ := longer
    rw [History.pushed_append]
    exact List.prefix_append _ _
  · have ended : after.callers.standing.IsOver sweep.1 := by
      rcases List.mem_append.mp member with before | own
      · refine inTurn sweep ?_
        rw [show History.sweeps after.callers.standing.history = _ from listed,
          List.dropLast_append_of_ne_nil (List.cons_ne_nil _ _)]
        exact List.mem_append_left _ before
      · obtain rfl := List.mem_singleton.mp own
        exact ⟨result, isOver⟩
    refine ⟨ended, ?_⟩
    obtain ⟨other, there⟩ := ended
    have account := accounts sweep.1
    rw [there] at account
    exact account.finished (first.subset member)

end Chronicle

end CompositeBuild
