import CompositeBuild.Proofs.Await.Callers
import CompositeBuild.Proofs.Session.Requests
import CompositeBuild.Session.Resolve

/-!
# Threads of a composite build

Any number of threads work on one session.  A thread awaits builds, by itself or through a delegate,
and the run that it waits for may await further builds in turn, on the same thread.  So what a
thread is in the middle of is a stack of calls of await, and only the innermost of them takes steps.

The code of a run may await only builds that the build of the run depends on
(`Session.mayAwait`).  This is what the dependencies are recorded for; nothing else is asked of a
run, and nothing at all of code outside of runs.

`Composite.step` lets one `Deed` happen, of a thread or beside the threads, and a list of deeds is
an interleaving.
-/

namespace CompositeBuild

variable {σ ρ : Type}

/-- A call of await on a build, as a thread holds it. -/
structure Await (ρ : Type) where
  ref : BuildRef
  call : AwaitCall ρ

namespace Await

/-- Where the call stands. -/
def phase (await : Await ρ) : Phase ρ := await.call.phase

/-- The same call, awake if it waits for the given build. -/
def notified (ref : BuildRef) (await : Await ρ) : Await ρ :=
  if await.ref = ref then { await with call := await.call.notified } else await

end Await

/-- A session and the threads that work on it, each given by its calls of await, innermost
first. -/
structure Composite (σ ρ : Type) where
  session : Session σ ρ := {}
  threads : List (List (Await ρ)) := []

/-- Something that can happen to a composite build.  A thread is given by its number. -/
inductive Deed (σ ρ : Type) where
  /-- The session is asked for something. -/
  | request (request : Request σ ρ)
  /-- Something happens to a build beside the calls of await. -/
  | beside (ref : BuildRef) (step : SideStep σ)
  /-- A new thread appears. -/
  | spawn
  /-- A thread calls await on a build. -/
  | await (thread : Nat) (ref : BuildRef)
  /-- A thread executes a delegate. -/
  | execute (thread : Nat) (delegate : Delegate)
  /-- The innermost call of a thread takes its next step, if it is awake. -/
  | proceed (thread : Nat)
  /-- The innermost call of a thread wakes on its own. -/
  | wake (thread : Nat)
  /-- The run of the innermost call of a thread panics. -/
  | unwind (thread : Nat) (message : String)
  /-- Making a launcher, or asking it for tasks, panics in the innermost call of a thread. -/
  | abort (thread : Nat) (message : String)
  /-- The innermost call of a thread returns, if it is over. -/
  | leave (thread : Nat)

namespace Session

/-- The name of the build that a reference stands for. -/
def nameOf? (session : Session σ ρ) (ref : BuildRef) : Option BuildId :=
  (session.build? ref).map (·.name)

/-- Whether a build depends on the build of a given name. -/
def Needs (session : Session σ ρ) (ref : BuildRef) (target : BuildId) : Prop :=
  ∃ source, session.nameOf? ref = some source ∧
    session.registry.dependencies.HasEdge source target

instance (session : Session σ ρ) (ref : BuildRef) (target : BuildId) :
    Decidable (session.Needs ref target) :=
  decidable_of_iff (∃ source ∈ session.nameOf? ref,
    session.registry.dependencies.HasEdge source target) (by simp [Needs])

/-- Whether a thread may await the build of a given name: outside of all calls, or in a run of a
build that depends on it. -/
def mayAwait (session : Session σ ρ) (target : BuildId) : List (Await ρ) → Bool
  | [] => true
  | innermost :: _ => innermost.phase.isRunning && decide (session.Needs innermost.ref target)

end Session

namespace Composite

/-- Replace the calls of a thread. -/
def setThread (composite : Composite σ ρ) (thread : Nat) (calls : List (Await ρ)) :
    Composite σ ρ :=
  { composite with threads := composite.threads.set thread calls }

/-- Replace what a reference stands for. -/
def setBuild (composite : Composite σ ρ) (ref : BuildRef) (build : IncludedBuild σ ρ) :
    Composite σ ρ :=
  { composite with session := composite.session.setBuild ref build }

/-- Wake all calls on a build. -/
def notifyAll (composite : Composite σ ρ) (ref : BuildRef) : Composite σ ρ :=
  { composite with threads := composite.threads.map (·.map (.notified ref)) }

/-- Begin a call of await on a build, innermost of a thread, if the thread may. -/
def enter (composite : Composite σ ρ) (thread : Nat) (ref : BuildRef) : Composite σ ρ :=
  match composite.threads[thread]?, composite.session.build? ref with
  | some calls, some build =>
    if composite.session.mayAwait build.name calls then
      let (phase, build) := build.enter.value
      (composite.setBuild ref build).setThread thread ({ ref, call := .settled phase } :: calls)
    else composite
  | _, _ => composite

/-- Let the innermost call of a thread take its next step.  Releasing a schedule wakes all calls on
its build. -/
def proceed (composite : Composite σ ρ) (thread : Nat) : Composite σ ρ :=
  match composite.threads[thread]? with
  | some ({ ref, call := { phase, asleep := false } } :: outer) =>
    match composite.session.build? ref with
    | some build =>
      let (next, build) := (build.proceed phase).value
      let moved := (composite.setBuild ref build).setThread thread
        ({ ref, call := .settled next } :: outer)
      if phase.isEnding then moved.notifyAll ref else moved
    | none => composite
  | _ => composite

/-- Change the innermost call of a thread, leaving all builds alone. -/
def alter (composite : Composite σ ρ) (thread : Nat) (change : AwaitCall ρ → AwaitCall ρ) :
    Composite σ ρ :=
  match composite.threads[thread]? with
  | some (innermost :: outer) =>
    composite.setThread thread ({ innermost with call := change innermost.call } :: outer)
  | _ => composite

/-- Let something happen.  What cannot happen does nothing. -/
def step (composite : Composite σ ρ) : Deed σ ρ → Composite σ ρ
  | .request request => { composite with session := composite.session.serve request }
  | .beside ref step =>
    match composite.session.build? ref with
    | some build => composite.setBuild ref (step.apply build)
    | none => composite
  | .spawn => { composite with threads := composite.threads ++ [[]] }
  | .await thread ref => composite.enter thread ref
  | .execute thread delegate =>
    match (composite.session.startDelegate delegate).value with
    | .ok ref => composite.enter thread ref
    | .error _ => composite
  | .proceed thread => composite.proceed thread
  | .wake thread => composite.alter thread (·.notified)
  | .unwind thread message =>
    composite.alter thread fun call =>
      { call with phase := IncludedBuild.unwind message call.phase }
  | .abort thread message =>
    match composite.threads[thread]? with
    | some (innermost :: outer) =>
      match composite.session.build? innermost.ref with
      | some build =>
        let (phase, build) := build.abort message innermost.phase
        (composite.setBuild innermost.ref build).setThread thread
          ({ innermost with call := { innermost.call with phase } } :: outer)
      | none => composite
    | _ => composite
  | .leave thread =>
    match composite.threads[thread]? with
    | some (innermost :: outer) =>
      if innermost.phase.isOver then composite.setThread thread outer else composite
    | _ => composite

/-- What has become of a composite build. -/
def run (deeds : List (Deed σ ρ)) : Composite σ ρ := deeds.foldl step {}

end Composite

end CompositeBuild
