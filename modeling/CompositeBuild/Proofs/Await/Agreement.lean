import CompositeBuild.Launcher.Scripted
import Mathlib.Logic.Basic

/-!
# Launchers that agree but for how runs end

Two factories agree but for how runs end if they cannot be told apart by anything else: made alike
and called alike, they make the same launchers, load the same models, and go on agreeing when a run
of either ends, however it does.  What "alike" means for their states is up to a relation, which a
run may not touch when it ends (`LauncherFactory.AgreeButEnds`).

A watched factory records the calls that it and its launchers get, in order, and otherwise does what
the factory inside it does.  Watching two factories does not tell them apart either
(`LauncherFactory.AgreeButEnds.watched`).
-/

namespace CompositeBuild

variable {σ ρ κ : Type}

/-! ### Agreement -/

/-- Two factories that, on states related by `R`, differ in nothing but how runs end. -/
structure LauncherFactory.AgreeButEnds (one other : LauncherFactory σ ρ) (R : σ → σ → Prop) :
    Prop where
  /-- They make the same launchers. -/
  create {state state' : σ} (related : R state state') :
    (one.create state).value.1 = (other.create state').value.1 ∧
      R (one.create state).value.2 (other.create state').value.2
  /-- They load the same settings, or fail to in the same way. -/
  loadSettings (launcher : LauncherId) {state state' : σ} (related : R state state') :
    (one.loadSettings launcher state).value.1 = (other.loadSettings launcher state').value.1 ∧
      R (one.loadSettings launcher state).value.2 (other.loadSettings launcher state').value.2
  /-- They compute the same models, or fail to in the same way. -/
  configure (launcher : LauncherId) {state state' : σ} (related : R state state') :
    (one.configure launcher state).value.1 = (other.configure launcher state').value.1 ∧
      R (one.configure launcher state).value.2 (other.configure launcher state').value.2
  request (launcher : LauncherId) (tasks : List TaskPath) {state state' : σ}
    (related : R state state') :
    R (one.request launcher tasks state).value (other.request launcher tasks state').value
  /-- What their runs have to remember may differ. -/
  beginRun (launcher : LauncherId) {state state' : σ} (related : R state state') :
    R (one.beginRun launcher state).value.2 (other.beginRun launcher state').value.2
  /-- Either may end a run while the run of the other is cut short, or ends in another way. -/
  endRun_left (launcher : LauncherId) (run : ρ) {state state' : σ} (related : R state state') :
    R (one.endRun launcher run state).value.2 state'
  endRun_right (launcher : LauncherId) (run : ρ) {state state' : σ} (related : R state state') :
    R state (other.endRun launcher run state').value.2

/-! ### Watched launchers -/

/-- The tasks that a call asks a launcher for. -/
def LauncherCall.asked? (launcher : LauncherId) : LauncherCall → Option (List TaskPath)
  | .request asked tasks => if asked = launcher then some tasks else none
  | _ => none

/-- The state of a factory and the calls that it and its launchers got, oldest first. -/
structure Watched (σ : Type) where
  state : σ
  calls : List LauncherCall := []

namespace Watched

/-- What a launcher was asked for last. -/
def asked (launchers : Watched σ) (launcher : LauncherId) : List TaskPath :=
  (launchers.calls.reverse.findSome? (LauncherCall.asked? launcher)).getD []

/-- One more call, and the state after it. -/
def note (launchers : Watched σ) (call : LauncherCall) (state : σ) : Watched σ where
  state
  calls := launchers.calls ++ [call]

/-- The same calls, and states that are related. -/
def Alike (R : σ → σ → Prop) (one other : Watched σ) : Prop :=
  one.calls = other.calls ∧ R one.state other.state

/-- States stay alike when the same call is made of both. -/
theorem Alike.note {R : σ → σ → Prop} {one other : Watched σ} (alike : Alike R one other)
    {call call' : LauncherCall} (same : call = call') {state state' : σ}
    (related : R state state') :
    Alike R (one.note call state) (other.note call' state') := by
  refine ⟨?_, related⟩
  simp only [Watched.note, alike.1, same]

end Watched

namespace LauncherFactory

/-- The same factory with all calls recorded. -/
def watched (inner : LauncherFactory σ ρ) : LauncherFactory (Watched σ) ρ where
  create launchers := do
    let (launcher, state) ← inner.create launchers.state
    return (launcher, launchers.note (.create launcher) state)
  loadSettings launcher launchers := do
    let (outcome, state) ← inner.loadSettings launcher launchers.state
    return (outcome, launchers.note (.loadSettings launcher) state)
  configure launcher launchers := do
    let (outcome, state) ← inner.configure launcher launchers.state
    return (outcome, launchers.note (.configure launcher) state)
  request launcher tasks launchers := do
    let state ← inner.request launcher tasks launchers.state
    return launchers.note (.request launcher tasks) state
  beginRun launcher launchers := do
    let (run, state) ← inner.beginRun launcher launchers.state
    return (run, launchers.note (.run launcher (launchers.asked launcher)) state)
  endRun launcher run launchers := do
    let (outcome, state) ← inner.endRun launcher run launchers.state
    return (outcome, { launchers with state })
  runSpans := inner.runSpans

/-- Factories that agree still agree when they are watched, and got the same calls. -/
theorem AgreeButEnds.watched {one other : LauncherFactory σ ρ} {R : σ → σ → Prop}
    (agree : one.AgreeButEnds other R) :
    one.watched.AgreeButEnds other.watched (Watched.Alike R) where
  create alike := by
    obtain ⟨same, related⟩ := agree.create alike.2
    exact ⟨same, alike.note (congrArg LauncherCall.create same) related⟩
  loadSettings launcher _ _ alike := by
    obtain ⟨same, related⟩ := agree.loadSettings launcher alike.2
    exact ⟨same, alike.note rfl related⟩
  configure launcher _ _ alike := by
    obtain ⟨same, related⟩ := agree.configure launcher alike.2
    exact ⟨same, alike.note rfl related⟩
  request launcher tasks _ _ alike := alike.note rfl (agree.request launcher tasks alike.2)
  beginRun launcher launchers launchers' alike := by
    have asked : launchers.asked launcher = launchers'.asked launcher := by
      rw [Watched.asked, alike.1, Watched.asked]
    exact alike.note (congrArg (LauncherCall.run launcher) asked)
      (agree.beginRun launcher alike.2)
  endRun_left launcher run _ _ alike := ⟨alike.1, agree.endRun_left launcher run alike.2⟩
  endRun_right launcher run _ _ alike := ⟨alike.1, agree.endRun_right launcher run alike.2⟩

end LauncherFactory

/-! ### Scripted launchers -/

namespace ScriptedLaunchers

/-- Two scripts that differ at most in how runs fail, in what runs call, and in how many runs are in
progress. -/
structure AlikeButRuns (one other : ScriptedLaunchers κ) : Prop where
  settings : one.settings = other.settings
  tasks : one.tasks = other.tasks
  calls : one.calls = other.calls
  settingsTroubles : one.settingsTroubles = other.settingsTroubles
  configureTroubles : one.configureTroubles = other.configureTroubles

/-- Scripts stay alike when they record the same call. -/
theorem AlikeButRuns.record {one other : ScriptedLaunchers κ} (alike : AlikeButRuns one other)
    {call call' : LauncherCall} (same : call = call') :
    AlikeButRuns (one.record call) (other.record call') := by
  refine { alike with calls := ?_ }
  simp only [ScriptedLaunchers.record, alike.calls, same]

/-- Scripted launchers agree but for how runs end, whatever failures of runs are scripted. -/
theorem agreeButEnds : (factory (κ := κ)).AgreeButEnds factory AlikeButRuns where
  create {state state'} alike := by
    have created : state.created = state'.created := by rw [created, alike.calls, ← created]
    have made : state.created + 1 = state'.created + 1 := congrArg (· + 1) created
    exact ⟨made, alike.record (congrArg LauncherCall.create made)⟩
  loadSettings launcher state state' alike := by
    have loaded := congrArg₂ (fun troubles => outcomeOf (List.head? troubles))
      alike.settingsTroubles alike.settings
    exact ⟨loaded, { alike.record (rfl : LauncherCall.loadSettings launcher = _) with
      settingsTroubles := congrArg List.tail alike.settingsTroubles }⟩
  configure launcher state state' alike := by
    have configured : ({ settings := state.settings, tasks := state.tasks } : ConfiguredBuild) =
        { settings := state'.settings, tasks := state'.tasks } := by
      rw [alike.settings, alike.tasks]
    have computed := congrArg₂ (fun troubles => outcomeOf (List.head? troubles))
      alike.configureTroubles configured
    exact ⟨computed, { alike.record (rfl : LauncherCall.configure launcher = _) with
      configureTroubles := congrArg List.tail alike.configureTroubles }⟩
  request launcher tasks _ _ alike := alike.record rfl
  beginRun launcher state state' alike := by
    have requested : state.requested launcher = state'.requested launcher := by
      rw [requested, alike.calls, ← requested]
    exact { alike.record (congrArg (LauncherCall.run launcher) requested) with }
  endRun_left launcher run _ _ alike := { alike with }
  endRun_right launcher run _ _ alike := { alike with }

end ScriptedLaunchers

end CompositeBuild
