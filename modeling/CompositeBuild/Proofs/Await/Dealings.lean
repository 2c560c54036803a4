import CompositeBuild.Proofs.Await.Endings
import Mathlib.Data.List.Nodup

/-!
# What a call has done

What a call has claimed, the runs that were made for it, and the ends of its sweep are its
`Dealings`.  They account for the phase of the call (`Dealings.Account`): a call has at most one
claim, one run and one end, in this order, and once it is over it returns what its own sweep came to
(`Dealings.Settled`).  This is so after every action, whatever other calls do
(`Standing.Accounts.advance`).
-/

namespace CompositeBuild

variable {σ ρ : Type}

/-! ### Dealings and phases -/

/-- A call that runs a launcher. -/
def LauncherCall.isRun : LauncherCall → Bool
  | .run _ _ => true
  | _ => false

/-- The runs that were made for a call of await. -/
def History.runsOf (caller : Nat) (history : List Event) : List LauncherCall :=
  (callsOf caller history).filter LauncherCall.isRun

/-- What a call of await has claimed, the runs that were made for it, and the ends of its sweep. -/
structure Dealings where
  claims : List Claim := []
  runs : List LauncherCall := []
  ends : List SweepEnd := []
  deriving DecidableEq, Repr

namespace Dealings

/-- The dealings of the call with the given number. -/
def of (history : List Event) (endings : List (Nat × SweepEnd)) (caller : Nat) : Dealings where
  claims := History.claimsOf caller history
  runs := History.runsOf caller history
  ends := endings.filterMap fun (number, ending) => if number = caller then some ending else none

/-- The dealings of a call whose sweep is over, and what the sweep came to. -/
inductive Settled : Dealings → Outcome BuildFailure Unit → Prop
  /-- Nothing was fresh, and so nothing was run. -/
  | nothing {claim : Claim} (nothing : claim.fresh = []) :
      Settled { claims := [claim] } (.returned ())
  /-- The fresh paths were run once, and the run ended. -/
  | ran {claim : Claim} {launcher : LauncherId} (something : claim.fresh ≠ [])
      (outcome : Outcome BuildFailure BuildOutcome) :
      Settled
        { claims := [claim]
          runs := [.run launcher claim.fresh]
          ends := [.ran launcher outcome] }
        (runResult outcome)
  /-- There were fresh paths, but the sweep was aborted before its run. -/
  | aborted {claim : Claim} (something : claim.fresh ≠ []) (message : String) :
      Settled { claims := [claim], ends := [.aborted message] } (.panicked message)

/-- The dealings of a call account for its phase. -/
def Account (history : List Event) (dealings : Dealings) : Option (Phase ρ) → Prop
  | none | some .waiting => dealings = {}
  | some (.claimed claim) => dealings = { claims := [claim] }
  | some (.launching _ tasks) =>
    ∃ claim, dealings = { claims := [claim] } ∧ claim.fresh = tasks ∧ tasks ≠ []
  | some (.requested launcher) =>
    ∃ claim, dealings = { claims := [claim] } ∧ claim.fresh ≠ [] ∧
      History.lastRequested history launcher = claim.fresh
  | some (.running launcher _) =>
    ∃ claim, dealings = { claims := [claim], runs := [.run launcher claim.fresh] } ∧
      claim.fresh ≠ []
  | some (.ending result) => dealings.Settled result
  | some (.ended result) =>
    dealings = {} ∧ (∃ build, result = .failed (.interrupted build)) ∨
      ∃ settled, dealings.Settled settled ∧ result = awaitResult settled

variable {history more : List Event} {endings : List (Nat × SweepEnd)} {caller : Nat}

/-- Dealings in a longer history. -/
theorem of_append (history more : List Event) (endings : List (Nat × SweepEnd)) (caller : Nat) :
    of (history ++ more) endings caller =
      { of history endings caller with
        claims := (of history endings caller).claims ++ History.claimsOf caller more
        runs := (of history endings caller).runs ++ History.runsOf caller more } := by
  simp [of, History.runsOf]

/-- Dealings after one more sweep has ended. -/
theorem of_ended (history : List Event) (endings : List (Nat × SweepEnd))
    (caller number : Nat) (ending : SweepEnd) :
    of history (endings ++ [(number, ending)]) caller =
      { of history endings caller with
        ends := (of history endings caller).ends ++ if number = caller then [ending] else [] } := by
  by_cases own : number = caller <;> simp [of, own]

namespace Account

/-- A step that does not end a run leaves the dealings of a call in accord with its phase. -/
theorem step {name : BuildId} {schedule after : Schedule} {phase next : Phase ρ} (made : Bool)
    (account : Account history (of history endings caller) (some phase))
    (step : Phase.Step name schedule phase next after) (idle : phase.isRunning = false) :
    Account (history ++ stepEvents made history caller phase next)
      (of (history ++ stepEvents made history caller phase next) endings caller) (some next) := by
  rw [of_append]
  cases step with
  | interrupt poisoned =>
    have untouched : of history endings caller = {} := account
    refine .inl ⟨?_, _, rfl⟩
    rw [untouched]
    rfl
  | waitOn sound busy =>
    have untouched : of history endings caller = {} := account
    rw [untouched]
    rfl
  | claim sound idle =>
    have untouched : of history endings caller = {} := account
    rw [untouched]
    simp [Account, stepEvents, History.runsOf]
  | @skip claim nothing =>
    have claimed : of history endings caller = { claims := [claim] } := account
    rw [claimed]
    exact .nothing nothing
  | @launch claim launcher something =>
    have claimed : of history endings caller = { claims := [claim] } := account
    rw [claimed]
    refine ⟨claim, ?_, rfl, something⟩
    cases made <;> simp [stepEvents, History.runsOf, LauncherCall.isRun]
  | @request launcher tasks =>
    obtain ⟨claim, claimed, rfl, something⟩ := account
    rw [claimed]
    refine ⟨claim, ?_, something, History.lastRequested_request history caller launcher _⟩
    simp [stepEvents, History.runsOf, LauncherCall.isRun]
  | @beginRun launcher run =>
    obtain ⟨claim, claimed, something, asked⟩ := account
    rw [claimed]
    refine ⟨claim, ?_, something⟩
    simp [stepEvents, History.runsOf, LauncherCall.isRun, asked]
  | endRun => simp [Phase.isRunning] at idle
  | @release result =>
    refine .inr ⟨result, ?_, rfl⟩
    have settled : (of history endings caller).Settled result := account
    simpa [stepEvents, History.runsOf] using settled
  | @rest result =>
    simpa [stepEvents, History.runsOf] using account

/-- What happens to others is no dealing of a call. -/
theorem frame {phase : Option (Phase ρ)}
    (account : Account history (of history endings caller) phase)
    (noClaim : History.claimsOf caller more = []) (noCall : History.callsOf caller more = [])
    (asked : ∀ launcher, phase = some (.requested launcher) →
      History.lastRequested (history ++ more) launcher = History.lastRequested history launcher) :
    Account (history ++ more) (of (history ++ more) endings caller) phase := by
  have same : of (history ++ more) endings caller = of history endings caller := by
    simp [of_append, noClaim, noCall, History.runsOf]
  rw [same]
  cases phase with
  | none => exact account
  | some phase =>
    cases phase with
    | requested launcher => simpa only [Account, asked launcher rfl] using account
    | _ => exact account

/-- A call on the way to its run has claimed something fresh, and that is all. -/
theorem of_isPreparing {phase : Phase ρ}
    (account : Account history (of history endings caller) (some phase))
    (preparing : phase.isPreparing = true) :
    ∃ claim, of history endings caller = { claims := [claim] } ∧ claim.fresh ≠ [] := by
  cases phase with
  | claimed claim => exact ⟨claim, account, by simpa [Phase.isPreparing] using preparing⟩
  | launching launcher tasks =>
    obtain ⟨claim, dealings, rfl, something⟩ := account
    exact ⟨claim, dealings, something⟩
  | _ => simp [Phase.isPreparing] at preparing

/-- The end of another sweep is no dealing of a call. -/
theorem frame_ended {phase : Option (Phase ρ)} {number : Nat} {ending : SweepEnd}
    (account : Account history (of history endings caller) phase) (other : number ≠ caller) :
    Account history (of history (endings ++ [(number, ending)]) caller) phase := by
  rw [of_ended, if_neg other, List.append_nil]
  exact account

end Account

end Dealings

namespace Standing

/-- The dealings of every call account for its phase. -/
def Accounts (now : Standing ρ) (endings : List (Nat × SweepEnd)) : Prop :=
  ∀ caller, (Dealings.of now.history endings caller).Account now.history now.phases[caller]?

namespace Accounts

variable {now next : Standing ρ} {endings : List (Nat × SweepEnd)}

/-- Nobody has dealt with a new build. -/
theorem start (name : BuildId) (projectDir : String) (factory : LauncherFactory σ ρ)
    (launchers : σ) :
    Accounts (Callers.start name projectDir factory launchers).standing [] :=
  fun _ => rfl

/-- A call that has just begun, and what belongs to no other call, leave the dealings of the others
in accord with their phases. -/
theorem append (accounts : Accounts now endings) (phase : Phase ρ) (more : List Event)
    (none : ∀ caller launcher tasks, .called caller (.request launcher tasks) ∉ more)
    (others : ∀ caller, now.phases.length ≠ caller →
      History.claimsOf caller more = [] ∧ History.callsOf caller more = [])
    (own : (Dealings.of (now.history ++ more) endings now.phases.length).Account
      (now.history ++ more) (some phase)) (caller : Nat) :
    (Dealings.of (now.history ++ more) endings caller).Account (now.history ++ more)
      (now.phases ++ [phase])[caller]? := by
  by_cases new : now.phases.length = caller
  · subst new
    simpa using own
  · rw [getElem?_append_singleton phase new]
    exact (accounts caller).frame (others caller new).1 (others caller new).2
      fun launcher _ => History.lastRequested_append none launcher

/-- Nothing is known of a call that has not begun. -/
theorem of_new (accounts : Accounts now endings) :
    Dealings.of now.history endings now.phases.length = {} := by
  have account := accounts now.phases.length
  rw [List.getElem?_eq_none (Nat.le_refl _)] at account
  exact account

/-- A step of a call that does not run is a dealing of that call and of no other. -/
theorem proceed (accounts : Accounts now endings) (books : Books now) {name : BuildId}
    {front back : List (Phase ρ)} {phase next : Phase ρ} {after : Schedule} (made : Bool)
    (split : now.phases = front ++ phase :: back)
    (step : Phase.Step name now.schedule phase next after) (idle : phase.isRunning = false)
    (caller : Nat) :
    let history := now.history ++ stepEvents made now.history front.length phase next
    (Dealings.of history endings caller).Account history (front ++ next :: back)[caller]? := by
  have account := accounts caller
  rw [split] at account
  by_cases own : front.length = caller
  · subst own
    have mine : (Dealings.of now.history endings front.length).Account now.history
        (some phase) := by simpa using account
    simpa using mine.step made step idle
  · rw [getElem?_split phase next own]
    obtain ⟨noClaim, noCall⟩ := stepEvents_other made now.history own phase next
    exact account.frame noClaim noCall fun launcher requested =>
      books.lastRequested_step split made next own requested launcher

/-- The end of a sweep is a dealing of its call and of no other. -/
theorem ended (accounts : Accounts now endings) {front back : List (Phase ρ)} {phase : Phase ρ}
    (split : now.phases = front ++ phase :: back) {ending : SweepEnd}
    {result : Outcome BuildFailure Unit}
    (settled : (Dealings.of now.history endings front.length).Account now.history (some phase) →
      (Dealings.of now.history (endings ++ [(front.length, ending)]) front.length).Settled result) :
    Accounts { now with phases := front ++ .ending result :: back }
      (endings ++ [(front.length, ending)]) := by
  intro caller
  have account := accounts caller
  rw [split] at account
  by_cases own : front.length = caller
  · subst own
    have mine := settled (by simpa using account)
    simpa [Dealings.Account] using mine
  · simp only [getElem?_split phase _ own]
    exact account.frame_ended own

/-- A move that ends no run leaves the dealings of every call in accord with its phase. -/
theorem move (accounts : Accounts now endings) (books : Books now) (move : Move false now next)
    (goesOn : ∀ (caller : Nat) (phase : Phase ρ), phase.isRunning = true →
      now.phases[caller]? = some phase → next.phases[caller]? = some phase) :
    Accounts next endings := by
  cases move with
  | stay => exact accounts
  | push paths poison =>
    have none : ∀ caller launcher tasks,
        Event.called caller (.request launcher tasks) ∉ [Event.pushed paths] := by simp
    exact fun caller => (accounts caller).frame rfl rfl
      fun launcher _ => History.lastRequested_append none launcher
  | join busy =>
    intro caller
    have joined := accounts.append .waiting [] (by simp) (fun _ _ => ⟨rfl, rfl⟩)
      (by simpa [Dealings.Account] using accounts.of_new) caller
    simpa using joined
  | claim idle =>
    refine accounts.append _ _ (by simp) (fun caller other => by simp [other]) ?_
    simp [Dealings.of_append, accounts.of_new, Dealings.Account, History.runsOf]
  | @proceed name front back phase next after made split step =>
    refine accounts.proceed books made split step ?_
    by_contra running
    have still := goesOn front.length phase (by simpa using running) (by simp [split])
    obtain rfl : next = phase := by simpa using still
    cases step <;> simp [Phase.isRunning] at running
  | @unwind front back launcher run message split =>
    have still := goesOn front.length (.running launcher run) rfl (by simp [split])
    simp at still
  | abort message allowed split owner => exact absurd allowed (by simp)

/-- Whatever happens, the dealings of every call account for its phase. -/
theorem advance {ended : Option (Nat × SweepEnd)} (accounts : Accounts now endings)
    (books : Books now) (advance : Advance now next ended) :
    Accounts next (endings ++ ended.toList) := by
  cases advance with
  | move move goesOn =>
    rw [Option.toList_none, List.append_nil]
    exact accounts.move books move goesOn
  | @ran front back launcher run split outcome =>
    refine accounts.ended split fun account => ?_
    obtain ⟨claim, dealings, something⟩ := account
    rw [Dealings.of_ended, dealings, if_pos rfl]
    exact .ran something outcome
  | aborted split preparing message =>
    refine accounts.ended split fun account => ?_
    obtain ⟨claim, dealings, something⟩ := account.of_isPreparing preparing
    rw [Dealings.of_ended, dealings, if_pos rfl]
    exact .aborted something message

end Accounts

end Standing

namespace Chronicle

/-- After every run the books are right, and the dealings of every call account for its phase. -/
theorem accounts_run (name : BuildId) (projectDir : String) (factory : LauncherFactory σ ρ)
    (launchers : σ) (actions : List (Action σ)) :
    let chronicle := (start name projectDir factory launchers).run actions
    chronicle.callers.standing.Books ∧ chronicle.callers.standing.Accounts chronicle.endings := by
  refine run_law (P := fun now endings => now.Books ∧ now.Accounts endings) ?_ ?_ actions
  · rintro now endings next ended advance ⟨books, accounts⟩
    exact ⟨books.move advance.isMove, accounts.advance books advance⟩
  · exact ⟨.start name projectDir factory launchers, .start name projectDir factory launchers⟩

end Chronicle

/-! ### What sweeps come to -/

namespace Dealings

variable {history : List Event} {endings : List (Nat × SweepEnd)} {caller : Nat}

/-- The ends of a sweep are those that were noted for its call. -/
theorem mem_ends (history : List Event) {ending : SweepEnd} :
    ending ∈ (of history endings caller).ends ↔ (caller, ending) ∈ endings := by
  simp [of]

/-- Once a sweep has ended, its call has come to the end as well. -/
theorem Account.settled_of_mem {dealings : Dealings} {phase : Option (Phase ρ)}
    (account : dealings.Account history phase) {ending : SweepEnd}
    (ended : ending ∈ dealings.ends) :
    ∃ result, dealings.Settled result ∧
      (phase = some (.ending result) ∨ phase = some (.ended (awaitResult result))) := by
  have notYet (none : dealings.ends = []) : False := by simp [none] at ended
  cases phase with
  | none => exact (notYet (congrArg ends account)).elim
  | some phase =>
    cases phase with
    | waiting => exact (notYet (congrArg ends account)).elim
    | claimed claim => exact (notYet (congrArg ends account)).elim
    | launching launcher tasks =>
      obtain ⟨claim, same, -⟩ := account
      exact (notYet (congrArg ends same)).elim
    | requested launcher =>
      obtain ⟨claim, same, -⟩ := account
      exact (notYet (congrArg ends same)).elim
    | running launcher run =>
      obtain ⟨claim, same, -⟩ := account
      exact (notYet (congrArg ends same)).elim
    | ending result => exact ⟨result, account, .inl rfl⟩
    | ended result =>
      rcases account with ⟨same, -⟩ | ⟨settled, swept, rfl⟩
      · exact (notYet (congrArg ends same)).elim
      · exact ⟨settled, swept, .inr rfl⟩

/-- No sweep ends twice. -/
theorem Account.length_ends_le {dealings : Dealings} {phase : Option (Phase ρ)}
    (account : dealings.Account history phase) : dealings.ends.length ≤ 1 := by
  rcases List.eq_nil_or_concat dealings.ends with none | ⟨_, ending, some⟩
  · simp [none]
  · have ended : ending ∈ dealings.ends := by simp [some]
    obtain ⟨result, settled, -⟩ := account.settled_of_mem ended
    cases settled <;> simp

namespace Settled

variable {dealings : Dealings} {result : Outcome BuildFailure Unit}

/-- A sweep that has run has run what its call had claimed. -/
theorem of_ran (settled : dealings.Settled result) {launcher : LauncherId}
    {outcome : Outcome BuildFailure BuildOutcome} (ran : .ran launcher outcome ∈ dealings.ends) :
    ∃ claim, dealings.claims = [claim] ∧ dealings.runs = [.run launcher claim.fresh] := by
  cases settled with
  | nothing nothing => simp at ran
  | @ran claim _ something _ =>
    obtain ⟨rfl, rfl⟩ := by simpa using ran
    exact ⟨claim, rfl, rfl⟩
  | aborted something message => simp at ran

/-- A sweep that is over has had a claim. -/
theorem claims_ne_nil (settled : dealings.Settled result) : dealings.claims ≠ [] := by
  cases settled <;> simp

/-- A sweep comes to nothing wrong if nothing was fresh or its run succeeded. -/
theorem returned_iff (settled : dealings.Settled result) :
    result = .returned () ↔ ∃ claim, dealings.claims = [claim] ∧
      (claim.fresh = [] ∨
        ∃ launcher outcome, .ran launcher (.returned outcome) ∈ dealings.ends) := by
  cases settled with
  | nothing nothing => simp [nothing]
  | ran something outcome => cases outcome <;> simp [runResult, something]
  | aborted something message => simp [something]

/-- A sweep comes to a failure if its run failed with it. -/
theorem failed_iff (settled : dealings.Settled result) {failure : BuildFailure} :
    result = .failed failure ↔ ∃ launcher, .ran launcher (.failed failure) ∈ dealings.ends := by
  cases settled with
  | nothing nothing => simp
  | ran something outcome => cases outcome <;> simp [runResult, eq_comm]
  | aborted something message => simp

/-- A sweep comes to a panic if its run panicked, or making or asking its launcher did. -/
theorem panicked_iff (settled : dealings.Settled result) {message : String} :
    result = .panicked message ↔
      (∃ launcher, .ran launcher (.panicked message) ∈ dealings.ends) ∨
        .aborted message ∈ dealings.ends := by
  cases settled with
  | nothing nothing => simp
  | ran something outcome => cases outcome <;> simp [runResult, eq_comm]
  | aborted something message => simp [eq_comm]

end Settled

end Dealings

namespace Standing

/-- No sweep is noted to have ended twice. -/
theorem Accounts.nodup {now : Standing ρ} {endings : List (Nat × SweepEnd)}
    (accounts : now.Accounts endings) : (endings.map (·.1)).Nodup := by
  refine List.nodup_iff_count_le_one.mpr fun caller => ?_
  have counted : (endings.map (·.1)).count caller =
      (Dealings.of now.history endings caller).ends.length := by
    rw [List.count_eq_countP, List.countP_map, Dealings.of, List.length_filterMap_eq_countP]
    refine List.countP_congr fun noted _ => ?_
    by_cases own : noted.1 = caller <;> simp [own]
  rw [counted]
  exact (accounts caller).length_ends_le

end Standing

end CompositeBuild
