import CompositeBuild.Proofs.Await.Exclusion
import CompositeBuild.Proofs.Await.Ledger

/-!
# Every path is run once, in order

A sweep asks its launcher for the fresh paths of its claim and runs it; a sweep without fresh paths
comes near no launcher.  As sweeps follow one another, what launchers are run on is, claim after
claim, what the claims found fresh, up to the sweep in flight, which may still be on its way to its
run (`Standing.Sweeps`).  Together with the ledger this says which paths launchers are run on, and
in which order (`Standing.Sweeps.flatten_runs`, `Callers.laws_run`).

All of this is about steady launchers, which can be made and asked for tasks without a panic.
Their runs may fail and panic.
-/

namespace CompositeBuild

variable {σ ρ : Type}

/-! ### The calls of a sweep -/

/-- The call that makes a launcher for a sweep, if one has to be made. -/
def makingCalls (made : Bool) (launcher : LauncherId) : List LauncherCall :=
  if made then [.create launcher] else []

/-- The calls that a whole sweep over some tasks makes, none if there are no tasks. -/
def sweepCalls (made : Bool) (launcher : LauncherId) : List TaskPath → List LauncherCall
  | [] => []
  | task :: tasks =>
    makingCalls made launcher ++ [.request launcher (task :: tasks), .run launcher (task :: tasks)]

/-- A sweep over some tasks asks a launcher for them and runs it. -/
theorem sweepCalls_of_ne_nil (made : Bool) (launcher : LauncherId) {tasks : List TaskPath}
    (something : tasks ≠ []) :
    sweepCalls made launcher tasks =
      makingCalls made launcher ++ [.request launcher tasks, .run launcher tasks] := by
  cases tasks with
  | nil => exact absurd rfl something
  | cons task tasks => rfl

namespace History

/-- What a launcher was asked for last is what it has just been asked for. -/
theorem lastRequested_request (history : List Event) (caller : Nat) (launcher : LauncherId)
    (tasks : List TaskPath) :
    lastRequested (history ++ [.called caller (.request launcher tasks)]) launcher = tasks := by
  simp [lastRequested, Event.requested?]

/-- What a launcher was asked for last does not change unless it, or another, is asked again. -/
theorem lastRequested_append {history more : List Event}
    (none : ∀ caller launcher tasks, .called caller (.request launcher tasks) ∉ more)
    (launcher : LauncherId) :
    lastRequested (history ++ more) launcher = lastRequested history launcher := by
  have silent : more.reverse.findSome? (Event.requested? launcher) = Option.none := by
    refine List.findSome?_eq_none_iff.mpr fun event member => ?_
    have present : event ∈ more := List.mem_reverse.mp member
    cases event with
    | called number call =>
      cases call with
      | request asked tasks => exact absurd present (none number asked tasks)
      | _ => rfl
    | _ => rfl
  simp [lastRequested, List.findSome?_append, silent]

/-- The fresh paths of every claim that found any, in the order of the claims. -/
def wanted (history : List Event) : List (List TaskPath) :=
  ((claims history).map (·.fresh)).filter (· ≠ [])

@[simp] theorem wanted_append (history more : List Event) :
    wanted (history ++ more) = wanted history ++ wanted more := by
  simp [wanted]

/-- Leaving out claims without fresh paths leaves out no paths. -/
theorem flatten_wanted (history : List Event) : (wanted history).flatten = fresh history := by
  unfold wanted
  rw [List.flatten_filter_ne_nil]
  rfl

/-- A history of one call whose sweep has come as far as its run. -/
def Swept (history : List Event) (caller : Nat) : Prop :=
  ∃ claim made launcher, claimsOf caller history = [claim] ∧
    callsOf caller history = sweepCalls made launcher claim.fresh

/-- What the history has of a call, which is nothing at all if the call has not begun. -/
def Records (history : List Event) (caller : Nat) : Option (Phase ρ) → Prop
  | none | some .waiting => claimsOf caller history = [] ∧ callsOf caller history = []
  | some (.claimed claim) => claimsOf caller history = [claim] ∧ callsOf caller history = []
  | some (.launching launcher tasks) =>
    ∃ claim made, claimsOf caller history = [claim] ∧ claim.fresh = tasks ∧ tasks ≠ [] ∧
      callsOf caller history = makingCalls made launcher
  | some (.requested launcher) =>
    ∃ claim made, claimsOf caller history = [claim] ∧ claim.fresh ≠ [] ∧
      lastRequested history launcher = claim.fresh ∧
      callsOf caller history = makingCalls made launcher ++ [.request launcher claim.fresh]
  | some (.running _ _) | some (.ending _) => Swept history caller
  | some (.ended _) =>
    claimsOf caller history = [] ∧ callsOf caller history = [] ∨ Swept history caller

namespace Records

variable {history : List Event} {caller : Nat}

/-- A step of a call is entered into the history of the call. -/
theorem step {name : BuildId} {schedule after : Schedule} {phase next : Phase ρ} (made : Bool)
    (records : Records history caller (some phase))
    (step : Phase.Step name schedule phase next after) :
    Records (history ++ stepEvents made history caller phase next) caller (some next) := by
  cases step with
  | interrupt poisoned =>
    obtain ⟨noClaim, noCall⟩ := records
    exact .inl ⟨by simpa [stepEvents] using noClaim, by simpa [stepEvents] using noCall⟩
  | waitOn sound busy =>
    rw [show stepEvents made history caller (.waiting : Phase ρ) .waiting = [] from rfl,
      List.append_nil]
    exact records
  | claim sound idle =>
    obtain ⟨noClaim, noCall⟩ := records
    constructor
    · simp [stepEvents, noClaim]
    · simp [stepEvents, noCall]
  | @skip claim nothing =>
    obtain ⟨claimed, noCall⟩ := records
    refine ⟨claim, false, 0, ?_, ?_⟩
    · simpa [stepEvents] using claimed
    · simpa [stepEvents, nothing, sweepCalls] using noCall
  | launch something =>
    obtain ⟨claimed, noCall⟩ := records
    refine ⟨_, made, ?_, rfl, something, ?_⟩
    · cases made <;> simp [stepEvents, claimed]
    · cases made <;> simp [stepEvents, noCall, makingCalls]
  | @request launcher tasks =>
    obtain ⟨claim, made, claimed, rfl, something, calls⟩ := records
    refine ⟨claim, made, ?_, something, ?_, ?_⟩
    · simp [stepEvents, claimed]
    · exact lastRequested_request history caller launcher claim.fresh
    · simp [stepEvents, calls]
  | @beginRun launcher run =>
    obtain ⟨claim, made, claimed, something, asked, calls⟩ := records
    refine ⟨claim, made, launcher, ?_, ?_⟩
    · simp [stepEvents, claimed]
    · simp [stepEvents, calls, asked, sweepCalls_of_ne_nil made _ something]
  | @endRun launcher run result =>
    rw [show stepEvents made history caller (.running launcher run) (.ending result) = [] from rfl,
      List.append_nil]
    exact records
  | release =>
    have swept : Swept history caller := records
    exact .inr (by simpa [stepEvents] using swept)
  | @rest result =>
    rw [show stepEvents made history caller (.ended result : Phase ρ) (.ended result) = [] from rfl,
      List.append_nil]
    exact records

/-- A call that has claimed has made the calls of one sweep so far, and all of them once it is
over. -/
theorem calls_of_claimed {phase : Option (Phase ρ)} (records : Records history caller phase)
    {claim : Claim} (happened : .claimed caller claim ∈ history) :
    ∃ made launcher, callsOf caller history <+: sweepCalls made launcher claim.fresh ∧
      ∀ result, phase = some (.ended result) →
        callsOf caller history = sweepCalls made launcher claim.fresh := by
  have mine : claim ∈ claimsOf caller history :=
    List.mem_filterMap.mpr ⟨_, happened, if_pos rfl⟩
  have absurdity (noClaim : claimsOf caller history = []) : False := by simp [noClaim] at mine
  have swept (swept : Swept history caller) :
      ∃ made launcher, callsOf caller history <+: sweepCalls made launcher claim.fresh ∧
        ∀ result, phase = some (.ended result) →
          callsOf caller history = sweepCalls made launcher claim.fresh := by
    obtain ⟨own, made, launcher, claimed, calls⟩ := swept
    rw [claimed, List.mem_singleton] at mine
    subst mine
    exact ⟨made, launcher, ⟨[], by rw [calls, List.append_nil]⟩, fun _ _ => calls⟩
  cases phase with
  | none => exact (absurdity records.1).elim
  | some phase =>
    cases phase with
    | waiting => exact (absurdity records.1).elim
    | claimed own =>
      refine ⟨false, 0, ?_, by simp⟩
      rw [records.2]
      exact List.nil_prefix
    | launching launcher tasks =>
      obtain ⟨own, made, claimed, rfl, something, calls⟩ := records
      rw [claimed, List.mem_singleton] at mine
      subst mine
      refine ⟨made, launcher, ?_, by simp⟩
      rw [calls, sweepCalls_of_ne_nil made launcher something]
      exact List.prefix_append _ _
    | requested launcher =>
      obtain ⟨own, made, claimed, something, -, calls⟩ := records
      rw [claimed, List.mem_singleton] at mine
      subst mine
      refine ⟨made, launcher, ?_, by simp⟩
      rw [calls, sweepCalls_of_ne_nil made launcher something, List.prefix_append_right_inj]
      exact ⟨[.run launcher claim.fresh], rfl⟩
    | running launcher run => exact swept records
    | ending result => exact swept records
    | ended result =>
      rcases records with ⟨noClaim, -⟩ | whole
      · exact (absurdity noClaim).elim
      · exact swept whole

/-- What happens to others does not enter the history of a call. -/
theorem frame {phase : Option (Phase ρ)} {more : List Event}
    (records : Records history caller phase) (noClaim : claimsOf caller more = [])
    (noCall : callsOf caller more = [])
    (asked : ∀ launcher, phase = some (.requested launcher) →
      lastRequested (history ++ more) launcher = lastRequested history launcher) :
    Records (history ++ more) caller phase := by
  have claims : claimsOf caller (history ++ more) = claimsOf caller history := by simp [noClaim]
  have calls : callsOf caller (history ++ more) = callsOf caller history := by simp [noCall]
  cases phase with
  | none => simpa only [Records, claims, calls] using records
  | some phase =>
    cases phase with
    | requested launcher =>
      simpa only [Records, claims, calls, asked launcher rfl] using records
    | _ => simpa only [Records, Swept, claims, calls] using records

end Records

end History

/-- A step of one call is no business of another. -/
theorem stepEvents_other (made : Bool) (history : List Event) {caller other : Nat}
    (different : caller ≠ other) (phase next : Phase ρ) :
    History.claimsOf other (stepEvents made history caller phase next) = [] ∧
      History.callsOf other (stepEvents made history caller phase next) = [] := by
  cases made <;> cases phase <;> cases next <;> simp [stepEvents, different]

/-- Only a call that has taken a launcher asks it for tasks. -/
theorem not_request_of_stepEvents {made : Bool} {history : List Event} {caller : Nat}
    {phase : Phase ρ} (next : Phase ρ)
    (other : ∀ launcher tasks, phase ≠ .launching launcher tasks) :
    ∀ number launcher tasks,
      .called number (.request launcher tasks) ∉ stepEvents made history caller phase next := by
  intro number launcher tasks member
  cases phase <;> cases next <;> simp_all [stepEvents]

/-! ### Calls that are over -/

namespace Standing

variable {now next : Standing ρ} {caller : Nat} {result : Outcome AwaitError Unit}

/-- A call that is over is none of those that move, and stays where it is. -/
theorem ended_of_split {front back : List (Phase ρ)} {phase : Phase ρ}
    (ended : now.phases[caller]? = some (.ended result))
    (split : now.phases = front ++ phase :: back) (moves : phase.isOver = false)
    (moved : Phase ρ) :
    front.length ≠ caller ∧ (front ++ moved :: back)[caller]? = some (.ended result) := by
  have different : front.length ≠ caller := by
    rintro rfl
    rw [split] at ended
    obtain rfl : phase = .ended result := by simpa using ended
    simp [Phase.isOver] at moves
  exact ⟨different, by rw [getElem?_split phase moved different, ← split, ended]⟩

/-- Nothing more is heard of a call that is over. -/
theorem Move.of_ended {mayAbort : Bool} (move : Move mayAbort now next)
    (ended : now.phases[caller]? = some (.ended result)) :
    next.phases[caller]? = some (.ended result) ∧
      History.claimsOf caller next.history = History.claimsOf caller now.history ∧
      History.callsOf caller next.history = History.callsOf caller now.history := by
  have within : caller < now.phases.length := (List.getElem?_eq_some_iff.mp ended).1
  cases move with
  | stay => exact ⟨ended, rfl, rfl⟩
  | push paths poison =>
    refine ⟨ended, ?_, ?_⟩
    · rw [History.claimsOf_append]
      exact List.append_nil _
    · rw [History.callsOf_append]
      exact List.append_nil _
  | join busy => exact ⟨(List.getElem?_append_left within).trans ended, rfl, rfl⟩
  | claim idle =>
    refine ⟨(List.getElem?_append_left within).trans ended, ?_, ?_⟩
    · simp [Nat.ne_of_gt within]
    · simp
  | @proceed name front back phase following after made split step =>
    cases done : phase.isOver with
    | true =>
      cases phase with
      | ended known =>
        cases step
        have silent : stepEvents made now.history front.length (.ended known : Phase ρ)
            (.ended known) = [] := rfl
        simp only [silent, List.append_nil]
        exact ⟨split ▸ ended, trivial, trivial⟩
      | _ => simp [Phase.isOver] at done
    | false =>
      obtain ⟨different, still⟩ := ended_of_split ended split done following
      obtain ⟨noClaim, noCall⟩ := stepEvents_other made now.history different phase following
      exact ⟨still, by simp [noClaim], by simp [noCall]⟩
  | unwind message split => exact ⟨(ended_of_split ended split rfl _).2, rfl, rfl⟩
  | abort message allowed split owner =>
    exact ⟨(ended_of_split ended split (Phase.isOver_of_ownsSweep owner) _).2, rfl, rfl⟩

end Standing

/-! ### What is still to be run -/

/-- What a call has still to run its launcher on. -/
def Phase.due (history : List Event) : Phase ρ → List (List TaskPath)
  | .claimed claim => [claim.fresh].filter (· ≠ [])
  | .launching _ tasks => [tasks]
  | .requested launcher => [History.lastRequested history launcher]
  | _ => []

/-- Only a call that owns the sweep has something to run, and no more than one list of tasks. -/
theorem Phase.length_due_le (history : List Event) (phase : Phase ρ) :
    (phase.due history).length ≤ phase.ownsSweep.toNat := by
  cases phase with
  | claimed claim => exact List.length_filter_le _ _
  | _ => simp [due, ownsSweep]

/-- A call that does not own the sweep has nothing to run. -/
theorem Phase.due_of_not_owner {phase : Phase ρ} (idle : phase.ownsSweep = false)
    (history : List Event) : phase.due history = [] := by
  have bound := phase.length_due_le history
  rw [idle] at bound
  exact List.eq_nil_of_length_eq_zero (Nat.le_zero.mp bound)

namespace Standing

/-- What the calls have still to run launchers on. -/
def due (now : Standing ρ) : List (List TaskPath) := now.phases.flatMap (·.due now.history)

/-- What launchers were run on and what they have still to be run on is what the claims found
fresh, and every call has its history. -/
structure Sweeps (now : Standing ρ) : Prop where
  runs : History.runs now.history ++ now.due = History.wanted now.history
  records : ∀ caller, History.Records now.history caller now.phases[caller]?

variable {now next : Standing ρ}

/-- No more is due than there are calls that own a sweep. -/
theorem length_due_le (now : Standing ρ) :
    now.due.length ≤ now.phases.countP Phase.ownsSweep := by
  unfold due
  induction now.phases with
  | nil => simp
  | cons phase rest ih =>
    have first := phase.length_due_le now.history
    have counted : (if phase.ownsSweep = true then 1 else 0) = phase.ownsSweep.toNat := by
      cases phase.ownsSweep <;> rfl
    rw [List.flatMap_cons, List.length_append, List.countP_cons, counted]
    omega

/-- What is due of calls that do not own a sweep is nothing. -/
theorem flatMap_due_of_not_owner {phases : List (Phase ρ)} (history : List Event)
    (idle : ∀ phase ∈ phases, phase.ownsSweep = false) : phases.flatMap (·.due history) = [] :=
  List.flatMap_eq_nil_iff.mpr fun phase member =>
    Phase.due_of_not_owner (idle phase member) history

/-- Nothing is due on an idle schedule. -/
theorem Books.due_eq_nil (books : Books now) (idle : now.schedule.executing = false) :
    now.due = [] :=
  flatMap_due_of_not_owner now.history (books.not_owner_of_idle idle)

/-- At most one claim is due, that of the sweep in flight. -/
theorem Books.length_due_le_one (books : Books now) : now.due.length ≤ 1 := by
  have owners : now.phases.countP Phase.ownsSweep = now.schedule.executing.toNat := books.owners
  have flag : now.schedule.executing.toNat ≤ 1 := Bool.toNat_le _
  have bound := now.length_due_le
  omega

/-- If nobody beside a call owns a sweep, what is due is what is due of that call. -/
theorem flatMap_due_split {front back : List (Phase ρ)} (phase : Phase ρ) (history : List Event)
    (idle : ∀ other ∈ front ++ back, other.ownsSweep = false) :
    (front ++ phase :: back).flatMap (·.due history) = phase.due history := by
  have before := flatMap_due_of_not_owner history fun other member =>
    idle other (List.mem_append_left back member)
  have behind := flatMap_due_of_not_owner history fun other member =>
    idle other (List.mem_append_right front member)
  rw [List.flatMap_append, List.flatMap_cons, before, behind, List.nil_append, List.append_nil]

/-- Replacing a phase by one that has the same due keeps what is due. -/
theorem flatMap_due_congr {front back : List (Phase ρ)} {phase other : Phase ρ}
    {history : List Event} (same : phase.due history = other.due history) :
    (front ++ phase :: back).flatMap (·.due history) =
      (front ++ other :: back).flatMap (·.due history) := by
  simp only [List.flatMap_append, List.flatMap_cons, same]

/-- What is due depends only on what launchers were asked for last. -/
theorem flatMap_due_history {phases : List (Phase ρ)} {history more : List Event}
    (none : ∀ caller launcher tasks, .called caller (.request launcher tasks) ∉ more) :
    phases.flatMap (·.due (history ++ more)) = phases.flatMap (·.due history) := by
  have same : ∀ phase : Phase ρ, phase.due (history ++ more) = phase.due history := by
    intro phase
    cases phase <;> simp only [Phase.due, History.lastRequested_append none]
  simp only [same]

/-- While another call is about to run its launcher, a step asks no launcher for tasks: its call
would own the sweep in flight, and only one does. -/
theorem Books.lastRequested_step (books : Books now) {front back : List (Phase ρ)}
    {phase : Phase ρ} (split : now.phases = front ++ phase :: back) (made : Bool) (next : Phase ρ)
    {other : Nat} (different : front.length ≠ other) {asked : LauncherId}
    (requested : (front ++ phase :: back)[other]? = some (.requested asked))
    (launcher : LauncherId) :
    History.lastRequested (now.history ++ stepEvents made now.history front.length phase next)
      launcher = History.lastRequested now.history launcher := by
  refine History.lastRequested_append (not_request_of_stepEvents next ?_) launcher
  rintro taken tasks rfl
  have sole := books.sole_owner split rfl
  exact absurd (sole _ (mem_of_getElem?_split different requested)) (by simp [Phase.ownsSweep])

namespace Sweeps

/-- A new build has run nothing and owes nothing. -/
theorem start (name : BuildId) (projectDir : String) (factory : LauncherFactory σ ρ)
    (launchers : σ) : Sweeps (Callers.start name projectDir factory launchers).standing where
  runs := rfl
  records := fun caller => by
    simp [Callers.standing, Callers.start, Callers.phases, History.Records]

/-- Events of no call, and a call that has just begun, change nothing for the others. -/
theorem records_append (sweeps : Sweeps now) (phase : Phase ρ) (more : List Event)
    (none : ∀ caller launcher tasks, .called caller (.request launcher tasks) ∉ more)
    (others : ∀ caller, now.phases.length ≠ caller →
      History.claimsOf caller more = [] ∧ History.callsOf caller more = [])
    (own : History.Records (now.history ++ more) now.phases.length (some phase)) :
    ∀ caller, History.Records (now.history ++ more) caller (now.phases ++ [phase])[caller]? := by
  intro caller
  by_cases new : now.phases.length = caller
  · subst new
    simpa using own
  · rw [getElem?_append_singleton phase new]
    exact (sweeps.records caller).frame (others caller new).1 (others caller new).2
      fun launcher _ => History.lastRequested_append none launcher

/-- The history of a call that has not begun is empty. -/
theorem of_new (sweeps : Sweeps now) :
    History.claimsOf now.phases.length now.history = [] ∧
      History.callsOf now.phases.length now.history = [] := by
  have record := sweeps.records now.phases.length
  rw [List.getElem?_eq_none (Nat.le_refl _)] at record
  exact record

/-- A step of a call enters the history of that call and no other. -/
theorem records_proceed (sweeps : Sweeps now) (books : Books now) {name : BuildId}
    {front back : List (Phase ρ)} {phase next : Phase ρ} {after : Schedule} (made : Bool)
    (split : now.phases = front ++ phase :: back)
    (step : Phase.Step name now.schedule phase next after) :
    ∀ caller, History.Records
      (now.history ++ stepEvents made now.history front.length phase next) caller
      (front ++ next :: back)[caller]? := by
  intro caller
  have record := sweeps.records caller
  rw [split] at record
  by_cases own : front.length = caller
  · subst own
    have mine : History.Records now.history front.length (some phase) := by simpa using record
    simpa using mine.step made step
  · rw [getElem?_split phase next own]
    obtain ⟨noClaim, noCall⟩ := stepEvents_other made now.history own phase next
    exact record.frame noClaim noCall fun launcher requested =>
      books.lastRequested_step split made next own requested launcher

/-- What happens without a run and without a claim keeps what is run in order, as long as the same
is due. -/
theorem runs_extend (sweeps : Sweeps now) {more : List Event} (noRun : History.runs more = [])
    (noClaim : History.claims more = []) (same : next.due = now.due)
    (history : next.history = now.history ++ more) :
    History.runs next.history ++ next.due = History.wanted next.history := by
  have nothing : History.wanted more = [] := by simp [History.wanted, noClaim]
  rw [history, same, History.runs_append, History.wanted_append, noRun, nothing, List.append_nil,
    List.append_nil, sweeps.runs]

/-- A claim makes due what it finds fresh. -/
theorem runs_claim (sweeps : Sweeps now) {claim : Claim} (caller : Nat)
    (nothingDue : now.due = []) (due : next.due = Phase.due now.history (.claimed claim : Phase ρ))
    (history : next.history = now.history ++ [.claimed caller claim]) :
    History.runs next.history ++ next.due = History.wanted next.history := by
  have before := sweeps.runs
  rw [nothingDue, List.append_nil] at before
  have wanted : History.wanted [.claimed caller claim] = [claim.fresh].filter (· ≠ []) := rfl
  rw [history, due, History.runs_append, History.wanted_append, before, wanted]
  simp [History.runs, Phase.due]

/-- A step of a call keeps what is run in order. -/
theorem runs_proceed (sweeps : Sweeps now) (books : Books now) {name : BuildId}
    {front back : List (Phase ρ)} {phase next : Phase ρ} {after : Schedule} (made : Bool)
    (split : now.phases = front ++ phase :: back)
    (step : Phase.Step name now.schedule phase next after) (standing : Standing ρ)
    (phases : standing.phases = front ++ next :: back)
    (history : standing.history =
      now.history ++ stepEvents made now.history front.length phase next) :
    History.runs standing.history ++ standing.due = History.wanted standing.history := by
  have due : now.due = (front ++ phase :: back).flatMap (·.due now.history) := by
    rw [Standing.due, split]
  have dueAfter : standing.due = (front ++ next :: back).flatMap (·.due
      (now.history ++ stepEvents made now.history front.length phase next)) := by
    rw [Standing.due, phases, history]
  -- A step without events keeps what is due of its own call, and of the others anyway.
  have quiet (silent : stepEvents made now.history front.length phase next = [])
      (same : next.due now.history = phase.due now.history) :
      History.runs standing.history ++ standing.due = History.wanted standing.history := by
    rw [silent] at history dueAfter
    refine sweeps.runs_extend rfl rfl ?_ history
    rw [dueAfter, due, List.append_nil, flatMap_due_congr same]
  cases step with
  | interrupt poisoned => exact quiet rfl rfl
  | waitOn sound busy => exact quiet rfl rfl
  | claim sound idle =>
    have nobody := books.not_owner_of_idle idle
    rw [split] at nobody
    have others : ∀ other ∈ front ++ back, other.ownsSweep = false := by
      intro other member
      refine nobody other ?_
      simp only [List.mem_append, List.mem_cons] at member ⊢
      tauto
    refine sweeps.runs_claim front.length (books.due_eq_nil idle) ?_ history
    rw [dueAfter, flatMap_due_split _ _ others]
    rfl
  | skip nothing => exact quiet rfl (by simp [Phase.due, nothing])
  | @launch claim launcher something =>
    have none : ∀ caller asked tasks, .called caller (.request asked tasks) ∉
        stepEvents made now.history front.length (.claimed claim)
          (.launching launcher claim.fresh : Phase ρ) :=
      not_request_of_stepEvents _ (by simp)
    refine sweeps.runs_extend ?_ ?_ ?_ history
    · cases made <;> rfl
    · cases made <;> rfl
    · rw [dueAfter, due, flatMap_due_history none]
      refine flatMap_due_congr ?_
      simp [Phase.due, something]
  | @request launcher tasks =>
    have others := books.sole_owner split rfl
    refine sweeps.runs_extend rfl rfl ?_ history
    rw [dueAfter, due, flatMap_due_split _ _ others, flatMap_due_split _ _ others]
    exact congrArg (fun asked => [asked]) (History.lastRequested_request _ _ _ _)
  | @beginRun launcher run =>
    have others := books.sole_owner split rfl
    have before := sweeps.runs
    rw [due, flatMap_due_split _ _ others] at before
    rw [dueAfter, flatMap_due_split _ _ others, history, History.runs_append,
      History.wanted_append, ← before]
    simp [stepEvents, History.runs, History.wanted, History.claims, Phase.due]
  | endRun => exact quiet rfl rfl
  | release => exact quiet rfl rfl
  | rest => exact quiet rfl rfl

/-- A run that is cut short has run its launcher already. -/
theorem unwind (sweeps : Sweeps now) {front back : List (Phase ρ)} {launcher : LauncherId}
    {run : ρ} (message : String) (split : now.phases = front ++ .running launcher run :: back) :
    Sweeps { now with phases := front ++ .ending (.panicked message) :: back } := by
  constructor
  · refine sweeps.runs_extend rfl rfl ?_ (List.append_nil _).symm
    rw [Standing.due, Standing.due, split]
    exact flatMap_due_congr rfl
  · intro caller
    have record := sweeps.records caller
    rw [split] at record
    by_cases own : front.length = caller
    · subst own
      have mine : History.Swept now.history front.length := by
        simpa [History.Records] using record
      simpa [History.Records] using mine
    · rw [getElem?_split (.running launcher run) _ own]
      exact record

/-- Every move of steady launchers keeps the histories right and what is run in order. -/
theorem move (sweeps : Sweeps now) (books : Books now) (move : Move false now next) :
    Sweeps next := by
  cases move with
  | stay => exact sweeps
  | push paths poison =>
    have none : ∀ caller launcher tasks,
        Event.called caller (.request launcher tasks) ∉ [Event.pushed paths] := by simp
    refine ⟨sweeps.runs_extend rfl rfl (flatMap_due_history none) rfl, fun caller => ?_⟩
    exact (sweeps.records caller).frame rfl rfl
      fun launcher _ => History.lastRequested_append none launcher
  | join busy =>
    obtain ⟨noClaim, noCall⟩ := sweeps.of_new
    have same : now.history = now.history ++ [] := (List.append_nil _).symm
    constructor
    · refine sweeps.runs_extend rfl rfl ?_ same
      simp [due, Phase.due]
    · have records := sweeps.records_append .waiting [] (by simp)
        (fun _ _ => ⟨rfl, rfl⟩) (by simpa [History.Records] using sweeps.of_new)
      simpa using records
  | claim idle =>
    obtain ⟨noClaim, noCall⟩ := sweeps.of_new
    constructor
    · refine sweeps.runs_claim now.phases.length (books.due_eq_nil idle) ?_ rfl
      rw [Standing.due, List.flatMap_append,
        flatMap_due_of_not_owner _ (books.not_owner_of_idle idle), List.nil_append,
        List.flatMap_singleton]
      rfl
    · refine sweeps.records_append _ _ (by simp) ?_ ?_
      · intro caller different
        simp [different]
      · simp [History.Records, noClaim, noCall]
  | @proceed name front back phase next after made split step =>
    exact ⟨sweeps.runs_proceed books made split step _ rfl rfl,
      sweeps.records_proceed books made split step⟩
  | unwind message split => exact sweeps.unwind message split
  | abort message allowed split owner => exact absurd allowed (by simp)

/-- The paths of the runs so far and those that are due are the first occurrences of all claimed
paths. -/
theorem flatten_runs (sweeps : Sweeps now) (ledger : Ledger now) :
    (History.runs now.history).flatten ++ now.due.flatten =
      (History.claimed now.history).eraseDups := by
  rw [← List.flatten_append, sweeps.runs, History.flatten_wanted, ledger.firsts]

/-- No path is run twice, and paths are run in the order in which they were pushed. -/
theorem runs_nodup_sublist (sweeps : Sweeps now) (ledger : Ledger now) :
    (History.runs now.history).flatten.Nodup ∧
      (History.runs now.history).flatten.Sublist (History.pushed now.history) := by
  obtain ⟨inOrder, once⟩ := eraseDups_sublist_nodup (History.claimed now.history)
  have first : (History.runs now.history).flatten.Sublist
      (History.claimed now.history).eraseDups :=
    sweeps.flatten_runs ledger ▸ List.sublist_append_left _ _
  refine ⟨once.sublist first, ?_⟩
  rw [ledger.queue]
  exact (first.trans inOrder).trans (List.sublist_append_left _ _)

/-- No path that was pushed is lost: it was run, it is due, or it is pending. -/
theorem mem_of_pushed (sweeps : Sweeps now) (ledger : Ledger now) {path : TaskPath}
    (pushed : path ∈ History.pushed now.history) :
    path ∈ (History.runs now.history).flatten ∨ path ∈ now.due.flatten ∨
      path ∈ now.schedule.pending := by
  rw [ledger.queue, List.mem_append] at pushed
  rcases pushed with claimed | waits
  · have listed : path ∈ (History.runs now.history).flatten ++ now.due.flatten := by
      rw [sweeps.flatten_runs ledger]
      exact List.mem_eraseDups.mpr claimed
    rcases List.mem_append.mp listed with ran | owed
    · exact .inl ran
    · exact .inr (.inl owed)
  · exact .inr (.inr waits)

end Sweeps

end Standing

/-! ### Whole runs -/

/-- No sweep is in flight on an idle schedule. -/
theorem Schedule.executing_of_idle (schedule : Schedule) (idle : schedule.state = .idle) :
    schedule.executing = false := by
  by_contra raised
  simp [state, raised] at idle

namespace Callers

variable (callers : Callers σ ρ)

/-- After every run of steady launchers the books and the ledger are right, every call has its
history, and launchers have been run on what the claims found fresh. -/
theorem laws_run (name : BuildId) (projectDir : String) (factory : LauncherFactory σ ρ)
    (launchers : σ) (actions : List (Action σ))
    (steady : ∀ action ∈ actions, action.isAbort = false) :
    let now := ((start name projectDir factory launchers).run actions).standing
    now.Books ∧ now.Ledger ∧ now.Sweeps := by
  refine run_law (P := fun now => now.Books ∧ now.Ledger ∧ now.Sweeps) _ false ?_ ?_ ?_
  · intro action member abort
    rw [steady action member] at abort
    exact abort
  · rintro now next move ⟨books, ledger, sweeps⟩
    exact ⟨books.move move, ledger.move move, sweeps.move books move⟩
  · exact ⟨.start name projectDir factory launchers, .start name projectDir factory launchers,
      .start name projectDir factory launchers⟩

end Callers

end CompositeBuild
