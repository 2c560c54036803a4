import CompositeBuild.Proofs.Await.Sweeps
import CompositeBuild.Proofs.Launchers.Tracing

/-!
# What launchers record

The history of a build notes calls of launchers as the phases of the callers pass by.  Launchers
that are watched record the calls that they get, and so can tell whether the history is right: every
step of a call of await records the calls that it enters in the history, and no others
(`IncludedBuild.Records.proceed_calls`).  Loading models calls launchers as well, but neither asks
them for tasks nor runs them.  So whatever happens to a build, its launchers are asked for tasks and
run exactly as the history says (`Callers.recorded_run`).

With this the law of whole runs is about the launchers themselves
(`Callers.runs_are_first_occurrences`): no path is run twice, none is lost, and none overtakes
another.
-/

namespace CompositeBuild

variable {σ ρ : Type}

/-! ### Calls of sweeps -/

namespace LauncherCall

/-- The calls that ask a launcher for tasks or run it. -/
def isOfSweep : LauncherCall → Bool
  | .request _ _ | .run _ _ => true
  | _ => false

/-- The tasks that a call runs a launcher on. -/
def ran? : LauncherCall → Option (List TaskPath)
  | .run _ tasks => some tasks
  | _ => none

/-- Only calls of sweeps ask a launcher for tasks. -/
theorem findSome?_asked (launcher : LauncherId) (calls : List LauncherCall) :
    (calls.filter isOfSweep).findSome? (asked? launcher) = calls.findSome? (asked? launcher) := by
  rw [← List.head?_filterMap, ← List.head?_filterMap, List.filterMap_filter]
  congr 2
  funext call
  cases call <;> rfl

/-- Only calls of sweeps run a launcher. -/
theorem filterMap_ran (calls : List LauncherCall) :
    (calls.filter isOfSweep).filterMap ran? = calls.filterMap ran? := by
  rw [List.filterMap_filter]
  congr 1
  funext call
  cases call <;> rfl

end LauncherCall

/-- The call of a launcher that an event tells of. -/
def Event.call? : Event → Option LauncherCall
  | .called _ call => some call
  | _ => none

namespace History

/-- All calls of launchers for sweeps, in order. -/
def calls (history : List Event) : List LauncherCall := history.filterMap Event.call?

@[simp] theorem calls_append (history more : List Event) :
    calls (history ++ more) = calls history ++ calls more :=
  List.filterMap_append

/-- What a launcher was asked for last is in the calls. -/
theorem lastRequested_eq (history : List Event) (launcher : LauncherId) :
    lastRequested history launcher =
      ((calls history).reverse.findSome? (LauncherCall.asked? launcher)).getD [] := by
  have asks : Event.requested? launcher =
      fun event => event.call?.bind (LauncherCall.asked? launcher) := by
    funext event
    cases event with
    | called caller call => cases call <;> rfl
    | _ => rfl
  rw [lastRequested, calls, ← List.filterMap_reverse, ← List.head?_filterMap,
    ← List.head?_filterMap, List.filterMap_filterMap, asks]

/-- What launchers were run on is in the calls. -/
theorem runs_eq (history : List Event) :
    runs history = (calls history).filterMap LauncherCall.ran? := by
  rw [runs, calls, List.filterMap_filterMap]
  congr 1
  funext event
  cases event with
  | called caller call => cases call <;> rfl
  | _ => rfl

end History

/-! ### Right records -/

namespace Watched

/-- The launchers were asked for tasks and run as the history says. -/
def Recorded (launchers : Watched σ) (history : List Event) : Prop :=
  launchers.calls.filter LauncherCall.isOfSweep =
    (History.calls history).filter LauncherCall.isOfSweep

namespace Recorded

variable {launchers later : Watched σ} {history more : List Event}

/-- A launcher was last asked for what the history says. -/
theorem asked_eq (recorded : Recorded launchers history) (launcher : LauncherId) :
    launchers.asked launcher = History.lastRequested history launcher := by
  have same : launchers.calls.reverse.findSome? (LauncherCall.asked? launcher) =
      (History.calls history).reverse.findSome? (LauncherCall.asked? launcher) := by
    rw [← LauncherCall.findSome?_asked, List.filter_reverse, recorded, ← List.filter_reverse,
      LauncherCall.findSome?_asked]
  rw [History.lastRequested_eq, ← same, asked]

/-- The runs of the launchers are those of the history. -/
theorem runs_eq (recorded : Recorded launchers history) :
    launchers.calls.filterMap LauncherCall.ran? = History.runs history := by
  rw [History.runs_eq, ← LauncherCall.filterMap_ran, recorded, LauncherCall.filterMap_ran]

/-- Records go on with the same calls on both sides. -/
theorem extend (recorded : Recorded launchers history)
    (same : later.calls = launchers.calls ++ History.calls more) :
    Recorded later (history ++ more) := by
  unfold Recorded
  rw [same, History.calls_append, List.filter_append, List.filter_append, recorded]

/-- A call that is not of a sweep leaves records right. -/
theorem note (recorded : Recorded launchers history) {call : LauncherCall}
    (idle : call.isOfSweep = false) (state : σ) : Recorded (launchers.note call state) history := by
  unfold Recorded
  rw [Watched.note, List.filter_append, List.filter_cons_of_neg (by simp [idle]), List.filter_nil,
    List.append_nil, recorded]

end Recorded

end Watched

/-! ### Steps of a build with watched launchers -/

namespace IncludedBuild

/-- The records of a build are right if its launchers are watched and recorded what the history
says. -/
def Records (inner : LauncherFactory σ ρ) (build : IncludedBuild (Watched σ) ρ)
    (history : List Event) : Prop :=
  build.factory = inner.watched ∧ build.launchers.Recorded history

namespace Records

variable {inner : LauncherFactory σ ρ} {build : IncludedBuild (Watched σ) ρ}
  {history : List Event}

/-- Loading is no call of a sweep. -/
theorem loadingKeeps (records : Records inner build history) :
    build.factory.LoadingKeeps fun launchers => launchers.Recorded history := by
  rw [records.1]
  exact
    { create := fun recorded => recorded.note rfl _
      loadSettings := fun launcher recorded => recorded.note rfl _
      configure := fun launcher recorded => recorded.note rfl _ }

/-- What happens beside the calls of await leaves records right, if a change of the launchers
leaves the record alone. -/
theorem apply (records : Records inner build history) (side : SideStep σ) :
    Records inner ((side.map build.launchers.withState).apply build) history := by
  refine ⟨(SideStep.apply_factory build _).trans records.1,
    SideStep.apply_keeps records.loadingKeeps records.2 fun launchers outside => ?_⟩
  cases side with
  | changeLaunchers state =>
    obtain rfl : build.launchers.withState state = launchers :=
      SideStep.changeLaunchers.inj outside
    exact records.2
  | _ => cases outside

/-- A step of a call records the calls that it enters in the history, and no others. -/
theorem proceed_calls (records : Records inner build history) (caller : Nat) (phase : Phase ρ) :
    (build.proceed phase).value.2.launchers.calls = build.launchers.calls ++
      History.calls (stepEvents build.slot.launcher.isNone history caller phase
        (build.proceed phase).value.1) := by
  obtain ⟨watched, recorded⟩ := records
  cases phase with
  | waiting =>
    obtain ⟨schedule, same⟩ := build.wake_changes
    have silent (made : Bool) (next : Phase ρ) :
        History.calls (stepEvents made history caller .waiting next) = [] := by
      cases next <;> rfl
    rw [silent, List.append_nil]
    exact congrArg (·.launchers.calls) same
  | claimed claim =>
    simp only [proceed]
    by_cases nothing : claim.fresh = []
    · simp [nothing, launch_nil, stepEvents, History.calls]
    · cases held : build.slot.launcher with
      | some launcher =>
        simp [launch_of_ne_nil build nothing, takeLauncher_held build held, stepEvents,
          History.calls]
      | none =>
        rw [launch_of_ne_nil build nothing, takeLauncher_none build held, watched]
        rfl
  | launching launcher tasks =>
    simp only [proceed, watched]
    rfl
  | requested launcher =>
    simp only [proceed, watched, stepEvents, ← recorded.asked_eq]
    rfl
  | running launcher run =>
    simp only [proceed, endRun_value, watched]
    exact (List.append_nil _).symm
  | _ => exact (List.append_nil _).symm

/-- A step of a call leaves records right. -/
theorem proceed (records : Records inner build history) (caller : Nat) (phase : Phase ρ) :
    Records inner (build.proceed phase).value.2 (history ++ stepEvents build.slot.launcher.isNone
      history caller phase (build.proceed phase).value.1) := by
  refine ⟨?_, records.2.extend (records.proceed_calls caller phase)⟩
  obtain ⟨schedule, slot, launchers, same⟩ := build.proceed_changes phase
  rw [same]
  exact records.1

end Records

end IncludedBuild

/-! ### Runs with watched launchers -/

namespace Callers

variable {inner : LauncherFactory σ ρ} {callers : Callers (Watched σ) ρ}

/-- Every action leaves records right. -/
theorem records_step (records : callers.build.Records inner callers.history) (action : Action σ) :
    (callers.stepWatched action).build.Records inner (callers.stepWatched action).history := by
  cases action with
  | enter =>
    obtain ⟨schedule, same⟩ := callers.build.enter_changes
    simp only [stepWatched, Action.map, step, enter, same]
    refine ⟨records.1, records.2.extend ?_⟩
    cases callers.build.enter.value.1 <;> simp [stepEvents, History.calls, Event.call?]
  | proceed caller =>
    simp only [stepWatched, Action.map, step]
    split
    · next phase found => exact records.proceed caller phase
    · exact records
  | abort caller message =>
    simp only [stepWatched, Action.map, step]
    split
    · next call found =>
      obtain ⟨slot, same⟩ := callers.build.abort_changes message call.phase
      simp only [same]
      exact records
    · exact records
  | beside side =>
    obtain ⟨watched, recorded⟩ := records.apply side
    refine ⟨watched, recorded.extend ?_⟩
    cases side <;> exact (List.append_nil _).symm
  | _ =>
    simp only [stepWatched, Action.map, step]
    split <;> exact records

/-- **Launchers are called as the history says.**  Whatever happens to a build over watched
launchers, they record exactly the requests and the runs of the history, in the same order. -/
theorem recorded_run (name : BuildId) (projectDir : String) (factory : LauncherFactory σ ρ)
    (launchers : σ) (actions : List (Action σ)) :
    let callers :=
      (start name projectDir factory.watched { state := launchers }).runWatched actions
    callers.build.Records factory callers.history := by
  have new : (start name projectDir factory.watched { state := launchers }).build.Records
      factory [] := ⟨rfl, rfl⟩
  exact actions.foldlRecOn stepWatched
    (motive := fun callers => callers.build.Records factory callers.history) new
    fun _ records action _ => records_step records action

/-- A step of a call enters in the history what its watched launchers record. -/
theorem step_recorded (records : callers.build.Records inner callers.history) (caller : Nat) :
    ∃ events,
      ((callers.seen Watched.state inner).step (.proceed caller)).history =
        callers.history ++ events ∧
      (callers.stepWatched (.proceed caller)).build.launchers.calls =
        callers.build.launchers.calls ++ History.calls events := by
  -- Seen without the record, the step is the one over the factory that is watched.
  have shows : callers.build.factory.Shows Watched.state inner :=
    records.1 ▸ inner.watched_shows
  have seen : ((callers.seen Watched.state inner).step (.proceed caller)).history =
      (callers.stepWatched (.proceed caller)).history :=
    congrArg Callers.history (step_seen shows (.proceed caller))
  rw [seen]
  simp only [stepWatched, Action.map, step]
  split
  · next phase found => exact ⟨_, rfl, records.proceed_calls caller phase⟩
  · exact ⟨[], (List.append_nil _).symm, (List.append_nil _).symm⟩

/-- Watching changes nothing, the record is that of the history, and the next step of any call
records what it enters there. -/
theorem watched_run (name : BuildId) (projectDir : String) (factory : LauncherFactory σ ρ)
    (launchers : σ) (actions : List (Action σ)) :
    let callers := (start name projectDir factory launchers).run actions
    let history := callers.history
    let watched :=
      (start name projectDir factory.watched { state := launchers }).runWatched actions
    let recorded := watched.build.launchers.calls
    watched.seen Watched.state factory = callers ∧
    recorded.filter LauncherCall.isOfSweep =
      (History.calls history).filter LauncherCall.isOfSweep ∧
    recorded.filterMap LauncherCall.ran? = History.runs history ∧
    ∀ caller, ∃ events,
      (callers.step (.proceed caller)).history = history ++ events ∧
      (watched.stepWatched (.proceed caller)).build.launchers.calls =
        recorded ++ History.calls events := by
  intro callers history watched recorded
  have records : watched.build.Records factory watched.history :=
    recorded_run name projectDir factory launchers actions
  have same : watched.seen Watched.state factory = callers :=
    runWatched_seen_state _ factory.watched_shows actions
  have noted : watched.history = history := congrArg Callers.history same
  have next := step_recorded records
  rw [same, noted] at next
  exact ⟨same, noted ▸ records.2, noted ▸ records.2.runs_eq, next⟩

/-! ### The law of whole runs -/

/-- **Every path is run once, in order.**  After every interleaving of pushes, also from sources
that panic after some paths, and of the steps of any number of callers, with runs that succeed, fail
or panic, but with launchers that can be made and asked without a panic:

* what was pushed is what was claimed followed by what is pending, in the same order;
* the executed paths are those that were claimed;
* what the claims found fresh, claim after claim, is the first occurrence of every claimed path;
* launchers were run on the fresh paths of every claim that found some, claim after claim, but for
  the claim of the sweep in flight, which may still be due; so no path that was pushed is lost;
* for every claim the calls of launchers are the beginning of one sweep over its fresh paths, none
  at all if there are none, and the whole of it once the call is over;
* no path is run twice, and paths are run in the order in which they were pushed;
* every claim took exactly what had been pushed and not been claimed before it, so a path that is
  pushed later never joins its sweep;
* launchers that are watched, which changes nothing else, record exactly the requests and the runs
  of the history, in the same order, and the next step of any call makes exactly the calls that it
  enters there. -/
theorem runs_are_first_occurrences (name : BuildId) (projectDir : String)
    (factory : LauncherFactory σ ρ) (launchers : σ) (actions : List (Action σ))
    (steady : ∀ action ∈ actions, action.isAbort = false) :
    let callers := (start name projectDir factory launchers).run actions
    let history := callers.history
    let pending := callers.build.pending
    History.pushed history = History.claimed history ++ pending ∧
    (∀ path, callers.build.hasExecuted path = true ↔ path ∈ History.claimed history) ∧
    History.fresh history = (History.claimed history).eraseDups ∧
    (∃ due : List (List TaskPath), due.length ≤ 1 ∧
      (callers.build.state = .idle → due = []) ∧
      History.runs history ++ due =
        ((History.claims history).map (·.fresh)).filter (· ≠ []) ∧
      ∀ path ∈ History.pushed history,
        path ∈ (History.runs history).flatten ∨ path ∈ due.flatten ∨ path ∈ pending) ∧
    (∀ caller claim, .claimed caller claim ∈ history →
      ∃ made launcher,
        History.callsOf caller history <+: sweepCalls made launcher claim.fresh ∧
        ∀ result, callers.phases[caller]? = some (.ended result) →
          History.callsOf caller history = sweepCalls made launcher claim.fresh) ∧
    (History.runs history).flatten.Nodup ∧
    (History.runs history).flatten.Sublist (History.pushed history) ∧
    (∀ before caller claim after, history = before ++ .claimed caller claim :: after →
      History.pushed before = History.claimed before ++ claim.requested) ∧
    (let watched :=
        (start name projectDir factory.watched { state := launchers }).runWatched actions
      let recorded := watched.build.launchers.calls
      watched.seen Watched.state factory = callers ∧
      recorded.filter LauncherCall.isOfSweep =
        (History.calls history).filter LauncherCall.isOfSweep ∧
      recorded.filterMap LauncherCall.ran? = History.runs history ∧
      ∀ caller, ∃ events,
        (callers.step (.proceed caller)).history = history ++ events ∧
        (watched.stepWatched (.proceed caller)).build.launchers.calls =
          recorded ++ History.calls events) := by
  intro callers history pending
  obtain ⟨books, ledger, sweeps⟩ := laws_run name projectDir factory launchers actions steady
  change callers.standing.Books at books
  change callers.standing.Ledger at ledger
  change callers.standing.Sweeps at sweeps
  obtain ⟨once, ordered⟩ := sweeps.runs_nodup_sublist ledger
  refine ⟨ledger.queue, fun path => ?_, ledger.firsts,
    ⟨callers.standing.due, books.length_due_le_one, fun idle => ?_, sweeps.runs,
      fun path => sweeps.mem_of_pushed ledger⟩,
    fun caller claim happened => (sweeps.records caller).calls_of_claimed happened,
    once, ordered, ledger.snapshots, watched_run name projectDir factory launchers actions⟩
  · have executed : callers.build.schedule.executed = History.fresh history := ledger.executed
    have firsts : History.fresh history = (History.claimed history).eraseDups := ledger.firsts
    rw [IncludedBuild.hasExecuted, executed, firsts, List.contains_iff_mem, List.mem_eraseDups]
  · exact books.due_eq_nil (callers.build.schedule.executing_of_idle idle)

/-- Two callers of one build: the first sweeps a queue with a repetition, and the second waits for
it.  During the first run, which then panics, one known path and one new path are queued. -/
def twoSweeps : List (Action (ScriptedLaunchers Unit)) :=
  let compile : TaskPath := { text := ":compile", qualified := by decide }
  let test : TaskPath := { text := ":test", qualified := by decide }
  let publish : TaskPath := { text := ":publish", qualified := by decide }
  [.beside (.queue [compile, test, compile]), .enter, .enter, .proceed 0, .proceed 0, .proceed 0,
    .beside (.queue [test, publish]), .unwind 0 "out of memory", .proceed 0, .proceed 1,
    .proceed 1, .proceed 1, .proceed 1, .proceed 1, .proceed 1]

/-- The two sweeps of `twoSweeps` run every path once, and the launchers say so too. -/
theorem runs_are_first_occurrences_twoSweeps :
    let script : ScriptedLaunchers Unit := .ofProject "app" []
    let history :=
      ((start ⟨"app"⟩ "/app" ScriptedLaunchers.factory script).run twoSweeps).history
    let watched := (start ⟨"app"⟩ "/app" ScriptedLaunchers.factory.watched
      { state := script }).runWatched twoSweeps
    (∀ action ∈ twoSweeps, action.isAbort = false) ∧
    (History.runs history).map (·.map (·.text)) = [[":compile", ":test"], [":publish"]] ∧
    History.fresh history = (History.claimed history).eraseDups ∧
    (History.runs history).flatten.Nodup ∧
    (History.runs history).flatten.Sublist (History.pushed history) ∧
    watched.build.launchers.calls.filterMap LauncherCall.ran? = History.runs history := by
  have steady : ∀ action ∈ twoSweeps, action.isAbort = false := by decide +kernel
  obtain ⟨-, -, firsts, -, -, once, ordered, -, -, -, recorded, -⟩ :=
    runs_are_first_occurrences ⟨"app"⟩ "/app" ScriptedLaunchers.factory
      (.ofProject "app" []) twoSweeps steady
  exact ⟨steady, by decide +kernel, firsts, once, ordered, recorded⟩

end Callers

end CompositeBuild
