import CompositeBuild.Proofs.Await.Dealings

/-!
# What calls report

A call returns what its own sweep came to, and a sweep fails only if its run does.  So the failures
of runs and the failures that calls report are the same, call by call, but for the failure that the
owner of the sweep in flight may still have to report (`Chronicle.failures_reach_their_calls`).  A
call that waited out a sweep never sees its failure.
-/

namespace CompositeBuild

variable {σ ρ : Type}

namespace Phase

/-- The failure that a call has reported. -/
def reported? : Phase ρ → Option BuildFailure
  | .ended (.failed (.execution failure)) => some failure
  | _ => none

/-- The failure that a call will report, once it has released the schedule. -/
def owed? : Phase ρ → Option BuildFailure
  | .ending (.failed failure) => some failure
  | _ => none

/-- Only a call that owns the sweep in flight owes a report. -/
theorem ownsSweep_of_owed {phase : Phase ρ} (owes : phase.owed?.isSome = true) :
    phase.ownsSweep = true := by
  cases phase <;> simp_all [owed?, ownsSweep]

end Phase

/-- The failures that calls have according to their phases, each with the number of the call. -/
def numbered (failure? : Phase ρ → Option BuildFailure) (phases : List (Phase ρ)) :
    List (Nat × BuildFailure) :=
  phases.zipIdx.filterMap fun (phase, caller) => (failure? phase).map (caller, ·)

/-- A call is listed with what its phase says. -/
theorem mem_numbered {failure? : Phase ρ → Option BuildFailure} {phases : List (Phase ρ)}
    {caller : Nat} {failure : BuildFailure} :
    (caller, failure) ∈ numbered failure? phases ↔
      ∃ phase, phases[caller]? = some phase ∧ failure? phase = some failure := by
  simp only [numbered, List.mem_filterMap, Option.map_eq_some_iff, Prod.exists, Prod.mk.injEq]
  constructor
  · rintro ⟨phase, number, listed, _, failed, rfl, rfl⟩
    exact ⟨phase, List.mem_zipIdx_iff_getElem?.mp listed, failed⟩
  · rintro ⟨phase, found, failed⟩
    exact ⟨phase, caller, List.mem_zipIdx_iff_getElem?.mpr found, failure, failed, rfl, rfl⟩

/-- No call is listed twice. -/
theorem nodup_numbered (failure? : Phase ρ → Option BuildFailure) (phases : List (Phase ρ)) :
    (numbered failure? phases).Nodup := by
  have apart : phases.zipIdx.Pairwise fun one other => one.2 ≠ other.2 := by
    refine List.pairwise_map.mp ?_
    rw [List.zipIdx_map_snd]
    exact List.nodup_range'
  refine apart.filterMap _ fun one other different first listed second listed' => ?_
  obtain ⟨_, -, rfl⟩ := Option.map_eq_some_iff.mp listed
  obtain ⟨_, -, rfl⟩ := Option.map_eq_some_iff.mp listed'
  exact fun same => different (congrArg Prod.fst same)

/-- There are as many entries as calls that have a failure. -/
theorem length_numbered (failure? : Phase ρ → Option BuildFailure) (phases : List (Phase ρ)) :
    (numbered failure? phases).length = phases.countP fun phase => (failure? phase).isSome := by
  have firsts : phases = phases.zipIdx.map (·.1) := (List.zipIdx_map_fst 0 phases).symm
  conv_rhs => rw [firsts, List.countP_map]
  rw [numbered, List.length_filterMap_eq_countP]
  refine List.countP_congr fun entry _ => ?_
  simp

namespace Chronicle

variable (chronicle : Chronicle σ ρ)

/-- The failures of runs, each with the number of the call that the run was made for. -/
def failedRuns : List (Nat × BuildFailure) :=
  chronicle.endings.filterMap fun
    | (caller, .ran _ (.failed failure)) => some (caller, failure)
    | _ => none

/-- The failures that calls have reported, each with the number of the call. -/
def reports : List (Nat × BuildFailure) := numbered Phase.reported? chronicle.callers.phases

/-- The failures that calls will report once they have released the schedule. -/
def owedReports : List (Nat × BuildFailure) := numbered Phase.owed? chronicle.callers.phases

variable {chronicle}

/-- A failed run is listed with its call. -/
theorem mem_failedRuns {caller : Nat} {failure : BuildFailure} :
    (caller, failure) ∈ chronicle.failedRuns ↔
      ∃ launcher, (caller, .ran launcher (.failed failure)) ∈ chronicle.endings := by
  simp only [failedRuns, List.mem_filterMap]
  constructor
  · rintro ⟨⟨number, ending⟩, noted, selected⟩
    split at selected
    · next same =>
      obtain ⟨rfl, rfl⟩ := Prod.mk.inj same
      obtain ⟨rfl, rfl⟩ := Prod.mk.inj (Option.some.inj selected)
      exact ⟨_, noted⟩
    · simp at selected
  · rintro ⟨launcher, noted⟩
    exact ⟨_, noted, rfl⟩

/-- No failed run is listed twice. -/
theorem nodup_failedRuns (once : (chronicle.endings.map (·.1)).Nodup) :
    chronicle.failedRuns.Nodup := by
  refine (List.pairwise_map.mp once).filterMap _ fun one other different first listed second
    listed' => ?_
  split at listed
  · split at listed'
    · obtain rfl := Option.some.inj listed
      obtain rfl := Option.some.inj listed'
      intro same
      have number := congrArg Prod.fst same
      exact different number
    · simp at listed'
  · simp at listed

/-- No failure is both reported and owed, and none is listed twice. -/
theorem nodup_reports (chronicle : Chronicle σ ρ) :
    (chronicle.reports ++ chronicle.owedReports).Nodup := by
  refine List.nodup_append.mpr ⟨nodup_numbered _ _, nodup_numbered _ _, ?_⟩
  rintro ⟨caller, failure⟩ reported _ owed rfl
  obtain ⟨phase, found, failed⟩ := mem_numbered.mp reported
  obtain ⟨same, found', owes⟩ := mem_numbered.mp owed
  obtain rfl : phase = same := by simpa [found] using found'
  cases phase <;> simp_all [Phase.reported?, Phase.owed?]

/-- Only a sweep in flight leaves something to report, and at most one failure. -/
theorem length_owedReports_le (books : chronicle.callers.standing.Books) :
    chronicle.owedReports.length ≤ chronicle.callers.build.schedule.executing.toNat := by
  have counted : chronicle.callers.phases.countP Phase.ownsSweep =
      chronicle.callers.build.schedule.executing.toNat := books.owners
  rw [← counted, owedReports, length_numbered]
  exact List.countP_mono_left fun phase _ => Phase.ownsSweep_of_owed

/-- The run of a call has failed with a failure exactly if the call reports it, or is going to. -/
theorem mem_failedRuns_iff (accounts : chronicle.callers.standing.Accounts chronicle.endings)
    {caller : Nat} {failure : BuildFailure} :
    (caller, failure) ∈ chronicle.failedRuns ↔
      (caller, failure) ∈ chronicle.reports ∨ (caller, failure) ∈ chronicle.owedReports := by
  have account := accounts caller
  rw [mem_failedRuns, reports, owedReports, mem_numbered, mem_numbered]
  simp only [← Dealings.mem_ends chronicle.callers.history]
  constructor
  · rintro ⟨launcher, noted⟩
    obtain ⟨result, settled, standing⟩ := account.settled_of_mem noted
    obtain rfl : result = .failed failure := settled.failed_iff.mpr ⟨launcher, noted⟩
    rcases standing with ending | ended
    · exact .inr ⟨_, ending, rfl⟩
    · exact .inl ⟨_, ended, rfl⟩
  · rintro (⟨phase, found, failed⟩ | ⟨phase, found, failed⟩)
    · change Dealings.Account _ _ chronicle.callers.phases[caller]? at account
      rw [found] at account
      cases phase with
      | ended result =>
        rcases account with ⟨-, build, rfl⟩ | ⟨settled, swept, rfl⟩
        · simp [Phase.reported?] at failed
        · have same : settled = .failed failure := by
            cases settled <;> simp_all [Phase.reported?, awaitResult]
          exact swept.failed_iff.mp same
      | _ => simp [Phase.reported?] at failed
    · change Dealings.Account _ _ chronicle.callers.phases[caller]? at account
      rw [found] at account
      cases phase with
      | ending result =>
        have swept : Dealings.Settled _ result := account
        have same : result = .failed failure := by
          cases result <;> simp_all [Phase.owed?]
        exact swept.failed_iff.mp same
      | _ => simp [Phase.owed?] at failed

/-- **Every failure of a run is reported by one call, and unchanged.**  After every interleaving of
the steps of any number of callers, with runs that succeed, fail or panic, sources that poison the
schedule, and launchers whose making panics:

* every run that ended was the one run of its call, and it ran what the claim of that call had
  found fresh; no two runs belong to one call;
* the failures of runs are, call by call, the failures that calls have reported, but for one that a
  call may still owe while it owns the sweep in flight;
* a call that is over returned success exactly if its own claim had nothing fresh or its own run
  succeeded, a failure exactly if its own run failed with that failure, and was interrupted exactly
  if it had claimed nothing.  It panicked exactly if its own run did, or making or asking the
  launcher for its own sweep. -/
theorem failures_reach_their_calls (name : BuildId) (projectDir : String)
    (factory : LauncherFactory σ ρ) (launchers : σ) (actions : List (Action σ)) :
    let chronicle := (start name projectDir factory launchers).run actions
    let callers := chronicle.callers
    let endings := chronicle.endings
    (endings.map (·.1)).Nodup ∧
    (∀ caller launcher outcome, (caller, .ran launcher outcome) ∈ endings →
      ∃ claim, History.claimsOf caller callers.history = [claim] ∧
        History.runsOf caller callers.history = [.run launcher claim.fresh]) ∧
    chronicle.failedRuns.Perm (chronicle.reports ++ chronicle.owedReports) ∧
    chronicle.owedReports.length ≤ 1 ∧
    (callers.build.state = .idle → chronicle.owedReports = []) ∧
    ∀ caller result, callers.phases[caller]? = some (.ended result) →
      (result = .returned () ↔ ∃ claim, History.claimsOf caller callers.history = [claim] ∧
        (claim.fresh = [] ∨
          ∃ launcher outcome, (caller, .ran launcher (.returned outcome)) ∈ endings)) ∧
      (∀ failure, result = .failed (.execution failure) ↔
        ∃ launcher, (caller, .ran launcher (.failed failure)) ∈ endings) ∧
      ((∃ build, result = .failed (.interrupted build)) ↔
        History.claimsOf caller callers.history = []) ∧
      ∀ message, result = .panicked message ↔
        (∃ launcher, (caller, .ran launcher (.panicked message)) ∈ endings) ∨
          (caller, .aborted message) ∈ endings := by
  intro chronicle callers endings
  obtain ⟨books, accounts⟩ := accounts_run name projectDir factory launchers actions
  change chronicle.callers.standing.Books at books
  change chronicle.callers.standing.Accounts chronicle.endings at accounts
  have once : (endings.map (·.1)).Nodup := accounts.nodup
  have owed : chronicle.owedReports.length ≤ callers.build.schedule.executing.toNat :=
    length_owedReports_le books
  refine ⟨once, ?_, ?_, Nat.le_trans owed (Bool.toNat_le _), ?_, ?_⟩
  · intro caller launcher outcome noted
    have ran := (Dealings.mem_ends callers.history).mpr noted
    obtain ⟨result, settled, -⟩ := (accounts caller).settled_of_mem ran
    exact settled.of_ran ran
  · refine (List.perm_ext_iff_of_nodup (nodup_failedRuns once) (nodup_reports chronicle)).mpr
      fun entry => ?_
    rw [List.mem_append]
    exact mem_failedRuns_iff accounts
  · intro idle
    rw [callers.build.schedule.executing_of_idle idle, Bool.toNat_false] at owed
    exact List.eq_nil_of_length_eq_zero (Nat.le_zero.mp owed)
  · intro caller result ended
    have account : (Dealings.of callers.history endings caller).Account callers.history
        callers.phases[caller]? := accounts caller
    rw [ended] at account
    simp only [← Dealings.mem_ends callers.history]
    rcases account with ⟨untouched, build, rfl⟩ | ⟨settled, swept, rfl⟩
    · have noClaim : History.claimsOf caller callers.history = [] :=
        congrArg Dealings.claims untouched
      simp [untouched, noClaim]
    · have returned : awaitResult settled = .returned () ↔ settled = .returned () :=
        awaitResult_inj settled (.returned ())
      have failed (failure : BuildFailure) :
          awaitResult settled = .failed (.execution failure) ↔ settled = .failed failure :=
        awaitResult_inj settled (.failed failure)
      have panicked (message : String) :
          awaitResult settled = .panicked message ↔ settled = .panicked message :=
        awaitResult_inj settled (.panicked message)
      refine ⟨returned.trans swept.returned_iff, fun failure => (failed failure).trans
        swept.failed_iff, ?_, fun message => (panicked message).trans swept.panicked_iff⟩
      constructor
      · rintro ⟨build, interrupted⟩
        exact absurd interrupted (awaitResult_ne_interrupted settled build)
      · exact fun none => absurd none swept.claims_ne_nil

/-- Two callers of one build: the second waits while the run of the first fails, and then sweeps
the path that was queued meanwhile. -/
def failedFirst : List (Action (ScriptedLaunchers Unit)) :=
  let lint : TaskPath := { text := ":lint", qualified := by decide }
  let package : TaskPath := { text := ":package", qualified := by decide }
  [.beside (.queue [lint]), .enter, .enter, .proceed 0, .proceed 0, .proceed 0,
    .beside (.queue [package]), .proceed 0, .proceed 0, .proceed 1, .proceed 1, .proceed 1,
    .proceed 1, .proceed 1, .proceed 1]

/-- The first caller gets the failure, and the second one sees nothing of it. -/
theorem failures_reach_their_calls_failedFirst :
    let failure : BuildFailure := .ofMessage "no space left"
    let chronicle := (start ⟨"app"⟩ "/app" ScriptedLaunchers.factory
      ((ScriptedLaunchers.ofProject "app" []).failNextRun failure)).run failedFirst
    chronicle.callers.phases.map Phase.result? =
      [some (.failed (.execution failure)), some (.returned ())] ∧
    chronicle.failedRuns = [(0, failure)] ∧ chronicle.failedRuns.Perm chronicle.reports ∧
    ∃ claim, History.claimsOf 1 chronicle.callers.history = [claim] ∧
      (claim.fresh = [] ∨
        ∃ launcher outcome, (1, .ran launcher (.returned outcome)) ∈ chronicle.endings) := by
  intro failure chronicle
  have results : chronicle.callers.phases.map Phase.result? =
      [some (.failed (.execution failure)), some (.returned ())] := by decide +kernel
  have idle : chronicle.callers.build.state = .idle := by decide +kernel
  obtain ⟨-, -, reported, -, nothingOwed, ends⟩ := failures_reach_their_calls ⟨"app"⟩ "/app"
    ScriptedLaunchers.factory ((ScriptedLaunchers.ofProject "app" []).failNextRun failure)
    failedFirst
  have second : chronicle.callers.phases[1]? = some (.ended (.returned ())) := by
    have there := congrArg (·[1]?) results
    obtain ⟨phase, found, returned⟩ : ∃ phase, chronicle.callers.phases[1]? = some phase ∧
        phase.result? = some (.returned ()) := by simpa using there
    rw [found, Phase.result?_eq_some.mp returned]
  refine ⟨results, by decide +kernel, ?_, (ends 1 _ second).1.mp rfl⟩
  rw [nothingOwed idle, List.append_nil] at reported
  exact reported

end Chronicle

end CompositeBuild
