import CompositeBuild.Proofs.Await.Twins
import CompositeBuild.Proofs.Launchers.Slot
import Mathlib.Logic.Relation

/-!
# Where launchers are

A launcher is made, lies in the slot of its build, where models may be loaded through it, is taken
by a sweep, asked for tasks and run.  A sweep makes a launcher only if there is none in the slot,
and takes it at once.

`Bench` is all that decides what may be done with launchers: the slot, the state of the launchers
themselves, what the sweep in flight has in hand, and which launchers sweeps have taken so far.
`Bench.Move` lists what can happen on a bench, one call of a launcher or its factory at a time, and
`Custody.step_moves` says that an action of the callers of a build is a sequence of such moves.
Sweeps, loads from any thread and loads from inside a run thus interleave on the bench, and what is
proved of the moves holds of every interleaving.
-/

namespace CompositeBuild

variable {σ ρ α : Type}

/-! ### The bench and its moves -/

/-- What a sweep has in hand between taking its launcher and running it. -/
inductive Hand where
  /-- A launcher that it has still to ask for tasks. -/
  | taken (launcher : LauncherId) (tasks : List TaskPath)
  /-- A launcher that it has asked and has still to run. -/
  | asked (launcher : LauncherId)
  deriving DecidableEq, Repr

/-- What a call has in hand. -/
def Phase.hand? : Phase ρ → Option Hand
  | .launching launcher tasks => some (.taken launcher tasks)
  | .requested launcher => some (.asked launcher)
  | _ => none

/-- A call that has a launcher in hand owns the sweep. -/
theorem Phase.hand?_of_not_owner {phase : Phase ρ} (idle : phase.ownsSweep = false) :
    phase.hand? = none := by
  cases phase <;> simp_all [ownsSweep, hand?]

/-- Where the launchers of a build are, and what they have come to. -/
structure Bench (σ : Type) where
  slot : LauncherSlot
  launchers : σ
  /-- What the sweep in flight has in hand. -/
  hand : Option Hand
  /-- The launchers that sweeps have taken so far. -/
  taken : List LauncherId

namespace Bench

/-- What can happen on the bench of a build with the given factory.  From outside, the state of the
launchers may change in every way that keeps what is seen in `view`. -/
inductive Move (factory : LauncherFactory σ ρ) (view : σ → α) (now : Bench σ) : Bench σ → Prop
  /-- A launcher is made and put into the slot. -/
  | make (none : now.slot.launcher = none) :
      Move factory view now { now with
        slot := { launcher := some (factory.create now.launchers).value.1 }
        launchers := (factory.create now.launchers).value.2 }
  /-- The settings are loaded through the launcher in the slot. -/
  | loadSettings {launcher : LauncherId} (held : now.slot.launcher = some launcher)
      (unknown : now.slot.settings = none) :
      Move factory view now { now with
        slot := now.slot.withSettings (factory.loadSettings launcher now.launchers).value.1
        launchers := (factory.loadSettings launcher now.launchers).value.2 }
  /-- The build is configured through the launcher in the slot. -/
  | configure {launcher : LauncherId} (held : now.slot.launcher = some launcher)
      (unknown : now.slot.configured = none) :
      Move factory view now { now with
        slot := now.slot.withConfigured (factory.configure launcher now.launchers).value.1
        launchers := (factory.configure launcher now.launchers).value.2 }
  /-- A sweep takes the launcher in the slot. -/
  | take {launcher : LauncherId} {tasks : List TaskPath}
      (held : now.slot.launcher = some launcher) (something : tasks ≠ []) (once : tasks.Nodup) :
      Move factory view now { now with
        slot := { now.slot with launcher := none }
        hand := some (.taken launcher tasks)
        taken := now.taken ++ [launcher] }
  /-- The sweep in flight asks its launcher for tasks. -/
  | request {launcher : LauncherId} {tasks : List TaskPath}
      (inHand : now.hand = some (.taken launcher tasks)) :
      Move factory view now { now with
        launchers := (factory.request launcher tasks now.launchers).value
        hand := some (.asked launcher) }
  /-- The sweep in flight runs its launcher. -/
  | beginRun {launcher : LauncherId} (inHand : now.hand = some (.asked launcher)) :
      Move factory view now { now with
        launchers := (factory.beginRun launcher now.launchers).value.2
        hand := none }
  | endRun (launcher : LauncherId) (run : ρ) :
      Move factory view now { now with
        launchers := (factory.endRun launcher run now.launchers).value.2 }
  /-- The sweep in flight is aborted. -/
  | drop : Move factory view now { now with hand := none }
  /-- Making a launcher panics. -/
  | forget (none : now.slot.launcher = none) : Move factory view now { now with slot := {} }
  | change (launchers : σ) (kept : view launchers = view now.launchers) :
      Move factory view now { now with launchers }

/-- A move that keeps what is seen keeps what can be told from it. -/
theorem Move.of_view {β : Type} {factory : LauncherFactory σ ρ} {view : σ → α} (f : α → β)
    {now next : Bench σ} (move : Move factory view now next) :
    Move factory (fun launchers => f (view launchers)) now next := by
  cases move with
  | make none => exact .make none
  | loadSettings held unknown => exact .loadSettings held unknown
  | configure held unknown => exact .configure held unknown
  | take held something once => exact .take held something once
  | request inHand => exact .request inHand
  | beginRun inHand => exact .beginRun inHand
  | endRun launcher run => exact .endRun launcher run
  | drop => exact .drop
  | forget none => exact .forget none
  | change launchers kept => exact .change launchers (congrArg f kept)

/-- Any number of moves, one after the other. -/
abbrev Moves (factory : LauncherFactory σ ρ) (view : σ → α) : Bench σ → Bench σ → Prop :=
  Relation.ReflTransGen (Move factory view)

variable {factory : LauncherFactory σ ρ} {view : σ → α}

/-- A bench that is left as it is has moved zero times. -/
theorem Moves.of_eq {now next : Bench σ} (same : next = now) : Moves factory view now next :=
  same ▸ .refl

/-- What every move keeps holds after any number of them. -/
theorem Moves.preserves {P : Bench σ → Prop} {now next : Bench σ}
    (keeps : ∀ now next, Move factory view now next → P now → P next)
    (moves : Moves factory view now next) (holds : P now) : P next := by
  induction moves with
  | refl => exact holds
  | tail earlier move ih => exact keeps _ _ move ih

end Bench

namespace IncludedBuild

variable (build : IncludedBuild σ ρ) (view : σ → α) (hand : Option Hand)
  (taken : List LauncherId)

/-- The bench of a build, apart from what the sweeps have to do with it. -/
def bench : Bench σ where
  slot := build.slot
  launchers := build.launchers
  hand
  taken

/-- Making sure of a launcher makes one or none. -/
theorem ensureLauncher_moves :
    Bench.Moves build.factory view (build.bench hand taken)
      (build.ensureLauncher.value.2.bench hand taken) ∧
    build.ensureLauncher.value.2.slot.launcher = some build.ensureLauncher.value.1 ∧
    build.ensureLauncher.value.2.factory = build.factory := by
  cases here : build.slot.launcher with
  | some launcher =>
    rw [ensureLauncher_held build here]
    exact ⟨.refl, here, rfl⟩
  | none =>
    rw [ensureLauncher_none build here]
    exact ⟨.single (.make here), rfl, rfl⟩

/-- Making sure of a launcher forgets models and finds none. -/
theorem ensureLauncher_models :
    (build.slot.settings = none → build.ensureLauncher.value.2.slot.settings = none) ∧
      (build.slot.configured = none → build.ensureLauncher.value.2.slot.configured = none) := by
  cases here : build.slot.launcher with
  | some launcher =>
    rw [ensureLauncher_held build here]
    exact ⟨id, id⟩
  | none =>
    rw [ensureLauncher_none build here]
    exact ⟨fun _ => rfl, fun _ => rfl⟩

/-- Loading the settings makes a launcher, if there is none, and loads through it. -/
theorem loadedSettings_moves :
    Bench.Moves build.factory view (build.bench hand taken)
      (build.loadedSettings.value.2.bench hand taken) := by
  cases known : build.slot.settings with
  | some settings =>
    rw [loadedSettings_known build known]
  | none =>
    obtain ⟨ensured, held, same⟩ := build.ensureLauncher_moves view hand taken
    have unknown := build.ensureLauncher_models.1 known
    rw [loadedSettings_unknown build known]
    refine ensured.tail ?_
    rw [← same]
    exact .loadSettings held unknown

/-- Configuring makes a launcher, if there is none, and configures through it. -/
theorem configuredBuild_moves :
    Bench.Moves build.factory view (build.bench hand taken)
      (build.configuredBuild.value.2.bench hand taken) := by
  cases known : build.slot.configured with
  | some configured =>
    rw [configuredBuild_known build known]
  | none =>
    obtain ⟨ensured, held, same⟩ := build.ensureLauncher_moves view hand taken
    have unknown := build.ensureLauncher_models.2 known
    rw [configuredBuild_unknown build known]
    refine ensured.tail ?_
    rw [← same]
    exact .configure held unknown

/-- A sweep takes the launcher in the slot, and makes one before if there is none. -/
theorem takeLauncher_moves {tasks : List TaskPath} (something : tasks ≠ [])
    (once : tasks.Nodup) :
    let (launcher, after) := build.takeLauncher.value
    Bench.Moves build.factory view (build.bench hand taken)
      (after.bench (some (.taken launcher tasks)) (taken ++ [launcher])) := by
  cases here : build.slot.launcher with
  | some launcher =>
    rw [takeLauncher_held build here]
    exact .single (.take here something once)
  | none =>
    rw [takeLauncher_none build here]
    have made : Bench.Move build.factory view (build.bench hand taken)
        (build.withNewLauncher.bench hand taken) := .make here
    exact .tail (.single made) (.take rfl something once)

end IncludedBuild

end CompositeBuild
