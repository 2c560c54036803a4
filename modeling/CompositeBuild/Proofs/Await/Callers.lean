import CompositeBuild.Launcher.Scripted
import CompositeBuild.Proofs.Await.Course
import Mathlib.Data.List.Basic

/-!
# Concurrent callers of one build

Any number of threads call await on one included build, queue paths on it and load its models.
`Callers` is the build together with all calls of await that were ever begun on it, and
`Callers.step` lets one `Action` happen: a call begins, a call takes its next step, the run of a
call is cut short, or something happens beside the calls.  Actions may come in any order, so a list
of actions is an interleaving of the threads, and the code that a run calls is nothing but further
actions during that run.

Calls that have to wait sleep in a wait set.  The call that releases the schedule wakes all of
them, and each may wake on its own as well.

The history records what no state of the build keeps: which paths were pushed, what every call
claimed, and which calls of launchers were made for it.

The theory of a build's callers reads three things only: the schedule, the phases of the calls and
the history.  `Standing` has these three, and `Callers.step_move` says what an action can do to
them.
-/

namespace CompositeBuild

variable {σ ρ : Type}

/-! ### History -/

/-- Something that happened to a build.  Calls of await are numbered in the order in which they
began. -/
inductive Event where
  /-- Paths were queued. -/
  | pushed (paths : List TaskPath)
  /-- A call started a sweep. -/
  | claimed (caller : Nat) (claim : Claim)
  /-- A launcher, or the factory, was called for the sweep of a call. -/
  | called (caller : Nat) (call : LauncherCall)

/-- The tasks that an event asks a launcher for. -/
def Event.requested? (launcher : LauncherId) : Event → Option (List TaskPath)
  | .called _ (.request asked tasks) => if asked = launcher then some tasks else none
  | _ => none

namespace History

/-- All paths that were queued, in order. -/
def pushed (history : List Event) : List TaskPath :=
  history.flatMap fun
    | .pushed paths => paths
    | _ => []

/-- All claims, in order. -/
def claims (history : List Event) : List Claim :=
  history.filterMap fun
    | .claimed _ claim => some claim
    | _ => none

/-- All paths that were claimed, in order. -/
def claimed (history : List Event) : List TaskPath :=
  (claims history).flatMap (·.requested)

/-- All paths that claims found fresh, in order. -/
def fresh (history : List Event) : List TaskPath :=
  (claims history).flatMap (·.fresh)

/-- What launchers were run on, in the order of the runs. -/
def runs (history : List Event) : List (List TaskPath) :=
  history.filterMap fun
    | .called _ (.run _ tasks) => some tasks
    | _ => none

/-- The tasks that a launcher was asked for last. -/
def lastRequested (history : List Event) (launcher : LauncherId) : List TaskPath :=
  (history.reverse.findSome? (Event.requested? launcher)).getD []

/-- The claims of one call. -/
def claimsOf (caller : Nat) (history : List Event) : List Claim :=
  history.filterMap fun
    | .claimed number claim => if number = caller then some claim else none
    | _ => none

/-- The calls of launchers that were made for one call. -/
def callsOf (caller : Nat) (history : List Event) : List LauncherCall :=
  history.filterMap fun
    | .called number call => if number = caller then some call else none
    | _ => none

end History

/-- What a step of a call adds to the history: the phases before and after the step decide.  A
launcher is made for a sweep if there was none to take. -/
def stepEvents (made : Bool) (history : List Event) (caller : Nat) :
    Phase ρ → Phase ρ → List Event
  | .waiting, .claimed claim => [.claimed caller claim]
  | .claimed _, .launching launcher _ =>
    if made then [.called caller (.create launcher)] else []
  | .launching launcher tasks, .requested _ => [.called caller (.request launcher tasks)]
  | .requested launcher, .running _ _ =>
    [.called caller (.run launcher (History.lastRequested history launcher))]
  | _, _ => []

/-! ### Callers and their actions -/

/-- A call of await, and whether it sleeps in the wait set. -/
structure AwaitCall (ρ : Type) where
  phase : Phase ρ
  asleep : Bool

namespace AwaitCall

/-- A call after a step of its own, which sleeps if it has to wait. -/
def settled (phase : Phase ρ) : AwaitCall ρ where
  phase
  asleep := phase.isWaiting

/-- The same call, awake. -/
def notified (call : AwaitCall ρ) : AwaitCall ρ := { call with asleep := false }

end AwaitCall

/-- A build, all calls of await that were ever begun on it, oldest first, and what happened. -/
structure Callers (σ ρ : Type) where
  build : IncludedBuild σ ρ
  calls : List (AwaitCall ρ) := []
  history : List Event := []

/-- Something that can happen to a build and the callers of await.  A call is given by its
number. -/
inductive Action (σ : Type) where
  /-- A call begins. -/
  | enter
  /-- A call that is awake takes its next step. -/
  | proceed (caller : Nat)
  /-- A call wakes on its own. -/
  | wake (caller : Nat)
  /-- The run of a call panics. -/
  | unwind (caller : Nat) (message : String)
  /-- Making a launcher, or asking it for tasks, panics. -/
  | abort (caller : Nat) (message : String)
  /-- Something happens beside the calls. -/
  | beside (step : SideStep σ)

/-- Whether a panic other than that of a run is the matter. -/
def Action.isAbort : Action σ → Bool
  | .abort _ _ => true
  | _ => false

/-- Whether an action leaves the state of the launchers to the calls that they get. -/
def Action.keepsLaunchers : Action σ → Bool
  | .beside (.changeLaunchers _) => false
  | _ => true

/-- What happens beside the calls is no change of the launchers if it leaves them alone. -/
theorem Action.ne_changeLaunchers {side : SideStep σ}
    (kept : (Action.beside side).keepsLaunchers = true) (launchers : σ) :
    side ≠ .changeLaunchers launchers := by
  rintro rfl
  simp [keepsLaunchers] at kept

/-- What becomes of a call, and of its build, when making a launcher or asking it for tasks panics.
The models that were loaded through earlier launchers are forgotten before a launcher is made. -/
def IncludedBuild.abort (build : IncludedBuild σ ρ) (message : String) :
    Phase ρ → Phase ρ × IncludedBuild σ ρ
  | .claimed claim =>
    if claim.fresh = [] ∨ build.slot.launcher.isSome then (.claimed claim, build)
    else (.ending (.panicked message), { build with slot := {} })
  | .launching _ _ => (.ending (.panicked message), build)
  | phase => (phase, build)

namespace Callers

/-- A new build without callers. -/
def start (name : BuildId) (projectDir : String) (factory : LauncherFactory σ ρ)
    (launchers : σ) : Callers σ ρ where
  build := { name, projectDir, factory, launchers }

/-- Where the calls stand. -/
def phases (callers : Callers σ ρ) : List (Phase ρ) := callers.calls.map (·.phase)

/-- Replace a call. -/
def setCall (callers : Callers σ ρ) (caller : Nat) (call : AwaitCall ρ) : Callers σ ρ :=
  { callers with calls := callers.calls.set caller call }

/-- Wake all calls. -/
def notifyAll (callers : Callers σ ρ) : Callers σ ρ :=
  { callers with calls := callers.calls.map (·.notified) }

/-- Begin a call. -/
def enter (callers : Callers σ ρ) : Callers σ ρ :=
  let (phase, build) := callers.build.enter.value
  { build
    calls := callers.calls ++ [.settled phase]
    history := callers.history ++ stepEvents false [] callers.calls.length .waiting phase }

/-- Let a call that stands at `phase` take its next step.  Releasing the schedule wakes all
calls. -/
def proceed (callers : Callers σ ρ) (caller : Nat) (phase : Phase ρ) : Callers σ ρ :=
  let (next, build) := (callers.build.proceed phase).value
  let made := callers.build.slot.launcher.isNone
  let woken := if phase.isEnding then callers.notifyAll else callers
  { woken.setCall caller (.settled next) with
    build
    history := callers.history ++ stepEvents made callers.history caller phase next }

/-- Let something happen.  An action of a call that does not exist, and a step of a call that is
asleep, do nothing. -/
def step (callers : Callers σ ρ) : Action σ → Callers σ ρ
  | .enter => callers.enter
  | .proceed caller =>
    match callers.calls[caller]? with
    | some { phase, asleep := false } => callers.proceed caller phase
    | _ => callers
  | .wake caller =>
    match callers.calls[caller]? with
    | some call => callers.setCall caller call.notified
    | none => callers
  | .unwind caller message =>
    match callers.calls[caller]? with
    | some call => callers.setCall caller { call with
        phase := IncludedBuild.unwind message call.phase }
    | none => callers
  | .abort caller message =>
    match callers.calls[caller]? with
    | some call =>
      let (phase, build) := callers.build.abort message call.phase
      { callers.setCall caller { call with phase } with build }
    | none => callers
  | .beside step =>
    let events := match step with
      | .queue paths | .queueAndPoison paths => [.pushed paths]
      | _ => []
    { callers with build := step.apply callers.build, history := callers.history ++ events }

/-- Let things happen one after the other. -/
def run (callers : Callers σ ρ) (actions : List (Action σ)) : Callers σ ρ :=
  actions.foldl step callers

/-- What every action keeps holds after all of them. -/
theorem run_preserves {P : Callers σ ρ → Prop} {actions : List (Action σ)}
    (keeps : ∀ action ∈ actions, ∀ callers, P callers → P (callers.step action))
    {callers : Callers σ ρ} (holds : P callers) : P (callers.run actions) :=
  actions.foldlRecOn step holds fun callers before action member =>
    keeps action member callers before

end Callers

end CompositeBuild
