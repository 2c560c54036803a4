import CompositeBuild.Proofs.Await.Dealings
import CompositeBuild.Proofs.Await.Poison
import CompositeBuild.Proofs.Launchers.Custody
import CompositeBuild.Proofs.Launchers.Life

/-!
# Launchers are used once

A factory with a `LauncherFactory.Recorder` tells from its state which calls it and its launchers
got.  Every move on the bench of a build makes one of the calls that may come next in the life of a
launcher (`Bench.Orderly.move`), so nobody calls a launcher after its run, no two sweeps share one,
and a launcher that no sweep has taken is the one in the slot (`Callers.launchers_are_used_once`).
-/

namespace CompositeBuild

variable {σ ρ κ : Type}

/-! ### Recorded calls -/

/-- How to tell from the state of a factory which calls it and its launchers got.  Launchers are
numbered in the order in which they are made, and run on what they were asked for last. -/
structure LauncherFactory.Recorder (factory : LauncherFactory σ ρ) where
  /-- The calls, oldest first. -/
  calls : σ → List LauncherCall
  number (state : σ) :
    (factory.create state).value.1 = (LauncherCall.made (calls state)).length + 1
  create (state : σ) :
    calls (factory.create state).value.2 =
      calls state ++ [.create (factory.create state).value.1]
  loadSettings (launcher : LauncherId) (state : σ) :
    calls (factory.loadSettings launcher state).value.2 = calls state ++ [.loadSettings launcher]
  configure (launcher : LauncherId) (state : σ) :
    calls (factory.configure launcher state).value.2 = calls state ++ [.configure launcher]
  request (launcher : LauncherId) (tasks : List TaskPath) (state : σ) :
    calls (factory.request launcher tasks state).value = calls state ++ [.request launcher tasks]
  beginRun (launcher : LauncherId) (state : σ) :
    calls (factory.beginRun launcher state).value.2 =
      calls state ++ [.run launcher (LauncherCall.lastAsked (calls state) launcher)]
  /-- The end of a run is no call. -/
  endRun (launcher : LauncherId) (run : ρ) (state : σ) :
    calls (factory.endRun launcher run state).value.2 = calls state

namespace ScriptedLaunchers

/-- Scripted launchers are numbered in the order in which they are made. -/
theorem created_eq (state : ScriptedLaunchers κ) :
    state.created = (LauncherCall.made state.calls).length := by
  rw [created, LauncherCall.made, List.length_filterMap_eq_countP]
  refine List.countP_congr fun call _ => ?_
  cases call <;> simp [LauncherCall.made?]

/-- Scripted launchers record their calls. -/
def recorder : (factory (κ := κ)).Recorder where
  calls := ScriptedLaunchers.calls
  number state := congrArg (· + 1) state.created_eq
  create _ := rfl
  loadSettings _ _ := rfl
  configure _ _ := rfl
  request _ _ _ := rfl
  beginRun _ _ := rfl
  endRun _ _ _ := rfl

end ScriptedLaunchers

/-! ### Moves and lives -/

/-- The calls of the launchers of a build are in order with its bench. -/
def Bench.Orderly {factory : LauncherFactory σ ρ} (recorder : factory.Recorder)
    (now : Bench σ) : Prop :=
  LauncherCall.Orderly (recorder.calls now.launchers) now.slot.launcher now.hand now.taken

/-- Every move keeps the calls in order. -/
theorem Bench.Orderly.move {factory : LauncherFactory σ ρ} {recorder : factory.Recorder}
    {now next : Bench σ} (orderly : now.Orderly recorder)
    (move : Bench.Move factory recorder.calls now next) : next.Orderly recorder := by
  unfold Bench.Orderly at orderly ⊢
  cases move with
  | make none =>
    rw [none] at orderly
    simp only [recorder.create]
    exact orderly.make (recorder.number now.launchers)
  | loadSettings held unknown =>
    rw [held] at orderly
    simp only [recorder.loadSettings, LauncherSlot.withSettings_launcher, held]
    exact orderly.load rfl rfl
  | configure held unknown =>
    rw [held] at orderly
    simp only [recorder.configure, LauncherSlot.withConfigured_launcher, held]
    exact orderly.load rfl rfl
  | take held something once =>
    rw [held] at orderly
    exact orderly.take something once
  | request inHand =>
    rw [inHand] at orderly
    simp only [recorder.request]
    exact orderly.request
  | beginRun inHand =>
    rw [inHand] at orderly
    simp only [recorder.beginRun]
    exact orderly.run
  | endRun launcher run =>
    simp only [recorder.endRun]
    exact orderly
  | drop => exact orderly.drop
  | forget none =>
    rw [none] at orderly
    exact orderly
  | change launchers kept =>
    simp only [kept]
    exact orderly

/-! ### What a sweep does with launchers -/

namespace IncludedBuild

variable (build : IncludedBuild σ ρ)

/-- A step of a call makes a launcher only for fresh paths, and only if there is none in the
slot. -/
theorem proceed_made (recorder : build.factory.Recorder) (phase : Phase ρ) :
    LauncherCall.made (recorder.calls (build.proceed phase).value.2.launchers) =
      LauncherCall.made (recorder.calls build.launchers) ∨
    build.slot.launcher = none ∧ ∃ claim, phase = .claimed claim ∧ claim.fresh ≠ [] := by
  cases phase with
  | claimed claim =>
    by_cases nothing : claim.fresh = []
    · simp [proceed, nothing, launch_nil]
    · cases here : build.slot.launcher with
      | none => exact .inr ⟨rfl, claim, rfl, nothing⟩
      | some launcher =>
        simp [proceed, launch_of_ne_nil build nothing, takeLauncher_held build here]
  | launching launcher tasks =>
    simp only [proceed, Logged.within_value, Logged.bind_value, Logged.pure_value,
      recorder.request]
    exact .inl (LauncherCall.made_concat _ rfl)
  | requested launcher =>
    simp only [proceed, Logged.within_value, Logged.bind_value, Logged.pure_value,
      recorder.beginRun]
    exact .inl (LauncherCall.made_concat _ rfl)
  | running launcher run => simp [proceed, endRun_value, recorder.endRun]
  | waiting =>
    obtain ⟨schedule, same⟩ := build.wake_changes
    exact .inl (congrArg (fun now => LauncherCall.made (recorder.calls now.launchers)) same)
  | _ => exact .inl rfl

end IncludedBuild

/-- A call that has claimed nothing fresh does not come near launchers. -/
theorem Dealings.Account.idle {history : List Event} {endings : List (Nat × SweepEnd)}
    {caller : Nat} {phase : Phase ρ}
    (account : (Dealings.of history endings caller).Account history (some phase))
    (nothing : ∀ claim ∈ History.claimsOf caller history, claim.fresh = []) :
    phase = .waiting ∨ (∃ claim, phase = .claimed claim ∧ claim.fresh = []) ∨
      (∃ result, phase = .ending result) ∨ ∃ result, phase = .ended result := by
  have absurdly {claim : Claim} (claimed : History.claimsOf caller history = [claim])
      (something : claim.fresh ≠ []) : False :=
    something (nothing claim (by simp [claimed]))
  cases phase with
  | waiting => exact .inl rfl
  | claimed claim =>
    have claimed := congrArg Dealings.claims account
    exact .inr (.inl ⟨claim, rfl, nothing claim (by simp_all [Dealings.of])⟩)
  | launching launcher tasks =>
    obtain ⟨claim, dealings, rfl, something⟩ := account
    exact (absurdly (congrArg Dealings.claims dealings) something).elim
  | requested launcher =>
    obtain ⟨claim, dealings, something, -⟩ := account
    exact (absurdly (congrArg Dealings.claims dealings) something).elim
  | running launcher run =>
    obtain ⟨claim, dealings, something⟩ := account
    exact (absurdly (congrArg Dealings.claims dealings) something).elim
  | ending result => exact .inr (.inr (.inl ⟨result, rfl⟩))
  | ended result => exact .inr (.inr (.inr ⟨result, rfl⟩))

namespace Callers

variable {callers : Callers σ ρ} {caller : Nat}

/-- The build after a step of a call. -/
theorem step_proceed_build {phase : Phase ρ}
    (found : callers.calls[caller]? = some { phase, asleep := false }) :
    (callers.step (.proceed caller)).build = (callers.build.proceed phase).value.2 ∧
      (callers.step (.proceed caller)).phases[caller]? =
        some (callers.build.proceed phase).value.1 := by
  have within : caller < callers.phases.length := by
    simpa [phases] using (List.getElem?_eq_some_iff.mp found).1
  simp only [step, found]
  refine ⟨rfl, ?_⟩
  rw [phases_proceed, List.getElem?_set_self within]

/-- A sweep over fresh paths takes the launcher in the slot, and leaves the models behind. -/
theorem launch_of_held {claim : Claim} {held : LauncherId}
    (found : callers.calls[caller]? = some { phase := .claimed claim, asleep := false })
    (something : claim.fresh ≠ []) (here : callers.build.slot.launcher = some held) :
    let after := callers.step (.proceed caller)
    after.phases[caller]? = some (.launching held claim.fresh) ∧
      after.build.launchers = callers.build.launchers ∧
      after.build.slot = { callers.build.slot with launcher := none } := by
  obtain ⟨build, phase⟩ := step_proceed_build found
  intro after
  simp only [IncludedBuild.proceed, IncludedBuild.launch_of_ne_nil _ something,
    IncludedBuild.takeLauncher_held _ here] at build phase
  exact ⟨phase, congrArg (·.launchers) build, congrArg (·.slot) build⟩

/-- A sweep over fresh paths makes a launcher if there is none in the slot. -/
theorem launch_of_none {claim : Claim}
    (found : callers.calls[caller]? = some { phase := .claimed claim, asleep := false })
    (something : claim.fresh ≠ []) (none : callers.build.slot.launcher = Option.none) :
    let made := (callers.build.factory.create callers.build.launchers).value
    let after := callers.step (.proceed caller)
    after.phases[caller]? = some (.launching made.1 claim.fresh) ∧
      after.build.launchers = made.2 ∧ after.build.slot = {} := by
  obtain ⟨build, phase⟩ := step_proceed_build found
  intro made after
  simp only [IncludedBuild.proceed, IncludedBuild.launch_of_ne_nil _ something,
    IncludedBuild.takeLauncher_none _ none] at build phase
  exact ⟨phase, congrArg (·.launchers) build, congrArg (·.slot) build⟩

/-- An action of a call makes a launcher only for the fresh paths of the call, and only if there is
none in the slot. -/
theorem made_step {factory : LauncherFactory σ ρ} (recorder : factory.Recorder)
    (unchanged : callers.build.factory = factory) {action : Action σ}
    (own : action.caller? = some caller) :
    LauncherCall.made (recorder.calls (callers.step action).build.launchers) =
      LauncherCall.made (recorder.calls callers.build.launchers) ∨
    callers.build.slot.launcher = none ∧ action = .proceed caller ∧
      ∃ claim, callers.phases[caller]? = some (.claimed claim) ∧ claim.fresh ≠ [] := by
  subst unchanged
  cases action with
  | proceed number =>
    obtain rfl := Option.some.inj own
    simp only [step]
    split
    · next phase found =>
      rcases callers.build.proceed_made recorder phase with same | ⟨none, claim, rfl, something⟩
      · exact .inl same
      · exact .inr ⟨none, trivial, claim, by simp [phases, found], something⟩
    · exact .inl rfl
  | abort number message =>
    simp only [step]
    split
    · next call found =>
      exact .inl (congrArg (fun launchers => LauncherCall.made (recorder.calls launchers))
        (callers.build.abort_launchers message call.phase))
    · exact .inl rfl
  | enter => simp [Action.caller?] at own
  | beside side => simp [Action.caller?] at own
  | _ =>
    simp only [step]
    split <;> exact .inl rfl

/-- A call that has claimed nothing fresh leaves the slot and the launchers alone. -/
theorem untouched_of_nothing_fresh {endings : List (Nat × SweepEnd)}
    (accounts : callers.standing.Accounts endings) {action : Action σ}
    (own : action.caller? = some caller)
    (nothing : ∀ claim ∈ History.claimsOf caller callers.history, claim.fresh = []) :
    (callers.step action).build.slot = callers.build.slot ∧
      (callers.step action).build.launchers = callers.build.launchers := by
  have idle {call : AwaitCall ρ} (found : callers.calls[caller]? = some call) := by
    have account := accounts caller
    have stands : callers.standing.phases[caller]? = some call.phase := by
      simp [standing, phases, found]
    rw [stands] at account
    exact account.idle nothing
  cases action with
  | proceed number =>
    obtain rfl := Option.some.inj own
    simp only [step]
    split
    · next phase found =>
      rcases idle found with rfl | ⟨claim, rfl, none⟩ | ⟨result, rfl⟩ | ⟨result, rfl⟩
      · obtain ⟨schedule, same⟩ := callers.build.wake_changes
        exact ⟨congrArg (·.slot) same, congrArg (·.launchers) same⟩
      · simp [proceed, IncludedBuild.proceed, none, IncludedBuild.launch_nil]
      · exact ⟨rfl, rfl⟩
      · exact ⟨rfl, rfl⟩
    · exact ⟨rfl, rfl⟩
  | abort number message =>
    obtain rfl := Option.some.inj own
    simp only [step]
    split
    · next call found =>
      rcases idle found with waits | ⟨claim, claimed, none⟩ | ⟨result, ends⟩ | ⟨result, ended⟩
      · rw [waits]; exact ⟨rfl, rfl⟩
      · rw [claimed]; simp [IncludedBuild.abort, none]
      · rw [ends]; exact ⟨rfl, rfl⟩
      · rw [ended]; exact ⟨rfl, rfl⟩
    · exact ⟨rfl, rfl⟩
  | enter => simp [Action.caller?] at own
  | beside side => simp [Action.caller?] at own
  | _ =>
    simp only [step]
    split <;> exact ⟨rfl, rfl⟩

/-! ### The law of launchers -/

/-- The calls of launchers are in order with the bench after every run that starts without calls. -/
theorem orderly_run {factory : LauncherFactory σ ρ} (recorder : factory.Recorder) (name : BuildId)
    (projectDir : String) {launchers : σ} (new : recorder.calls launchers = [])
    (actions : List (Action σ))
    (kept : (start name projectDir factory launchers).KeptAlong recorder.calls actions) :
    let custody := (Custody.start name projectDir factory launchers).run actions
    custody.Sound factory ∧ custody.bench.Orderly recorder := by
  refine Custody.run_law recorder.calls (P := fun now => now.Orderly recorder)
    (.start name projectDir factory launchers) (fun _ _ move orderly => orderly.move move) kept ?_
  have none : LauncherCall.Orderly (recorder.calls launchers) Option.none Option.none [] := by
    rw [new]
    exact .nil
  exact none

/-- **Launchers are used once.**  Take any interleaving of calls of await, loads of models and paths
that are queued, from any threads and from inside runs, where loads and runs may fail and panic, and
launchers that record their calls, which nobody tampers with.  Then every launcher is made, has
models loaded through it, is asked for some distinct tasks and run on them, in this order and no
further.  Launchers are taken by sweeps once each; the one that has been made and not been taken, if
there is one, is in the slot and is the newest.  A sweep over fresh paths takes the launcher in the
slot, or makes one if there is none, and no other action of a call makes a launcher.  A call that
has found nothing fresh leaves the slot, models included, and the launchers alone. -/
theorem launchers_are_used_once {factory : LauncherFactory σ ρ} (recorder : factory.Recorder)
    (name : BuildId) (projectDir : String) {launchers : σ} (new : recorder.calls launchers = [])
    (actions : List (Action σ))
    (kept : (start name projectDir factory launchers).KeptAlong recorder.calls actions) :
    let callers := (start name projectDir factory launchers).run actions
    let taken := ((Custody.start name projectDir factory launchers).run actions).taken
    let slot := callers.build.slot
    let calls := recorder.calls callers.build.launchers
    (∀ launcher, LauncherCall.UsedOnce launcher calls) ∧
    taken.Nodup ∧
    (∀ launcher, .create launcher ∈ calls ∧ launcher ∉ taken ↔ slot.launcher = some launcher) ∧
    (∀ launcher, slot.launcher = some launcher →
      (LauncherCall.made calls).getLast? = some launcher) ∧
    (∀ caller claim, callers.calls[caller]? = some { phase := .claimed claim, asleep := false } →
      claim.fresh ≠ [] →
      let after := callers.step (.proceed caller)
      (∀ held, slot.launcher = some held →
        after.phases[caller]? = some (.launching held claim.fresh) ∧
        recorder.calls after.build.launchers = calls ∧
        after.build.slot = { slot with launcher := none }) ∧
      (slot.launcher = none → ∃ made,
        after.phases[caller]? = some (.launching made claim.fresh) ∧
        recorder.calls after.build.launchers = calls ++ [.create made] ∧
        after.build.slot = {})) ∧
    (∀ caller action, action.caller? = some caller →
      LauncherCall.made (recorder.calls (callers.step action).build.launchers) =
        LauncherCall.made calls ∨
      slot.launcher = none ∧ action = .proceed caller ∧
        ∃ claim, callers.phases[caller]? = some (.claimed claim) ∧ claim.fresh ≠ []) ∧
    (∀ caller action, action.caller? = some caller →
      (∀ claim ∈ History.claimsOf caller callers.history, claim.fresh = []) →
      (callers.step action).build.slot = slot ∧
        (callers.step action).build.launchers = callers.build.launchers) ∧
    (callers.step .enter).build.slot = slot ∧
      (callers.step .enter).build.launchers = callers.build.launchers := by
  intro callers taken slot calls
  obtain ⟨sound, orderly⟩ := orderly_run recorder name projectDir new actions kept
  have same : ((Custody.start name projectDir factory launchers).run actions).callers = callers :=
    Custody.callers_run _ actions
  have order : LauncherCall.Orderly calls slot.launcher callers.hand taken := by
    simpa only [Bench.Orderly, Custody.bench, IncludedBuild.bench, same] using orderly
  have unchanged : callers.build.factory = factory := same ▸ sound.factory_eq
  refine ⟨fun launcher => ?_, order.nodup_taken.1, fun _ => order.untaken_iff,
    fun launcher held => ?_,
    fun caller claim found something => ⟨fun held here => ?_, fun none => ?_⟩,
    fun caller action own => ?_, fun caller action own nothing => ?_, ?_⟩
  · obtain ⟨stage, life⟩ := order.lives launcher
    exact life.usedOnce
  · rw [held] at order
    exact order.getLast?_made
  · obtain ⟨phase, launchers', left⟩ := launch_of_held found something here
    exact ⟨phase, congrArg recorder.calls launchers', left⟩
  · obtain ⟨phase, launchers', left⟩ := launch_of_none found something none
    refine ⟨_, phase, ?_, left⟩
    rw [launchers', unchanged]
    exact recorder.create callers.build.launchers
  · exact made_step recorder unchanged own
  · have accounts := (Chronicle.accounts_run name projectDir factory launchers actions).2
    rw [Chronicle.callers_run] at accounts
    exact untouched_of_nothing_fresh accounts own nothing
  · obtain ⟨schedule, same⟩ := callers.build.enter_changes
    exact ⟨congrArg (·.slot) same, congrArg (·.launchers) same⟩

/-- Settings are loaded, a sweep takes the launcher that loaded them, the build is configured while
that launcher runs, and another call finds nothing to do. -/
def loadAroundSweep : List (Action (ScriptedLaunchers Unit)) :=
  let pack : TaskPath := { text := ":pack", qualified := by decide }
  [.beside .loadSettings, .beside (.queue [pack, pack]), .enter, .proceed 0, .proceed 0,
    .proceed 0, .beside .configure, .proceed 0, .proceed 0, .enter, .proceed 1, .proceed 1]

/-- Of the two launchers of `loadAroundSweep` the first is used up, and the second is in the
slot. -/
theorem launchers_are_used_once_aroundSweep :
    let script : ScriptedLaunchers Unit := .ofProject "app" []
    let callers := start ⟨"app"⟩ "/app" ScriptedLaunchers.factory script
    let build := (callers.run loadAroundSweep).build
    let calls := ScriptedLaunchers.recorder.calls build.launchers
    let pack : TaskPath := { text := ":pack", qualified := by decide }
    script.calls = [] ∧ callers.KeptAlong ScriptedLaunchers.calls loadAroundSweep ∧
    calls = [.create 1, .loadSettings 1, .request 1 [pack], .run 1 [pack], .create 2,
      .configure 2] ∧
    build.slot.launcher = some 2 ∧ LauncherCall.UsedOnce 1 calls ∧
    LauncherCall.UsedOnce 2 calls := by
  have new : ScriptedLaunchers.recorder.calls
      (.ofProject "app" [] : ScriptedLaunchers Unit) = [] := rfl
  have kept : (start ⟨"app"⟩ "/app" ScriptedLaunchers.factory
      (.ofProject "app" [])).KeptAlong ScriptedLaunchers.recorder.calls loadAroundSweep :=
    .of_keepsLaunchers (by decide +kernel)
  obtain ⟨usedOnce, -⟩ := launchers_are_used_once ScriptedLaunchers.recorder ⟨"app"⟩
    "/app" new loadAroundSweep kept
  exact ⟨new, kept, by decide +kernel, by decide +kernel, usedOnce 1, usedOnce 2⟩

end Callers

end CompositeBuild
