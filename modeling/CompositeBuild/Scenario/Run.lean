import CompositeBuild.Scenario.Activity

/-!
# Running a scenario

A scenario is run by threads.  The first one performs the steps of the scenario, and steps of
concurrent callers start more.  A thread is a stack of frames, because a run that a step causes may
perform steps of its own.

`Scenario.step` moves one thread a little further: the youngest one that can move.  So a thread that
was just started goes on until it waits or is over before the one that started it does anything, and
the run of a scenario is determined.  A scenario in which no thread can move is over.
-/

namespace CompositeBuild

/-- Why a frame performs its steps. -/
inductive Role where
  /-- They are the steps of the scenario. -/
  | main
  /-- They are the work of a thread of a race. -/
  | thread
  /-- They are the steps in between of a race. -/
  | between
  /-- They are what a run of the build of a handle calls, and the run panics in the end if there is
  a message. -/
  | script (handle : String) (tasks : List TaskPath) (panic : Option String)
  /-- There are none, and the run waits for a gate. -/
  | gate (number : Nat)

/-- Steps that a thread performs one after the other. -/
structure Frame where
  role : Role
  /-- The steps that are still to be started. -/
  todo : List Step
  answers : List Answer := []
  /-- What the step before them has left under way. -/
  current : Option Activity := none

/-- The frames of a thread, innermost first. -/
abbrev Thread := List Frame

/-- Whether a thread has nothing left to do. -/
def Thread.isOver (thread : Thread) : Bool :=
  match thread with
  | [frame] => frame.todo.isEmpty && frame.current.isNone
  | _ => false

/-- A running scenario. -/
structure Scenario where
  world : World
  /-- The threads, oldest first; the place of a thread is its number. -/
  threads : List Thread
  /-- The scripted runs that have ended during the current step. -/
  hooks : List HookReport := []
  /-- The events of the current step. -/
  events : List LogEvent := []
  /-- What the steps before the current one came to. -/
  reports : List StepReport := []
  deriving Inhabited

namespace Scenario

/-- A scenario on a composite build without builds. -/
def ofSteps (steps : List Step) : Scenario where
  world := {}
  threads := [[{ role := .main, todo := steps }]]

/-- A scenario on the composite build of a configuration.  Every build has its name as handle. -/
def ofConfig (config : CompositeConfig) (steps : List Step) :
    Logged (Except CompositeError Scenario) := do
  let provider : LauncherProvider Unit _ _ := fun entry =>
    pure (ScriptedLaunchers.factory, ScriptedLaunchers.ofProject entry.name [])
  let result ← Session.ofConfig config provider ()
  return result.map fun session =>
    { ofSteps steps with world := { session, handles := session.registry.builds } }

/-! ### Which thread can move -/

/-- The frames of a thread, by its number. -/
def thread (scenario : Scenario) (number : Nat) : Thread := scenario.threads.getD number []

/-- Whether an activity can go on.  A waiting call cannot during the sweep of another call, and a
race cannot end before its threads are over. -/
def canProceed (scenario : Scenario) : Activity → Bool
  | .answered _ => true
  | .calling { ref, phase := .waiting, .. } =>
    match scenario.world.session.build? ref with
    | none => false
    | some build => !build.schedule.executing
  | .calling _ => true
  | .racing { stage := .joining first _ _ _ started, .. } =>
    (first :: started).all fun number => (scenario.thread number).isOver
  | .racing _ => true

/-- Whether a frame without steps can be left. -/
def canLeave (scenario : Scenario) : Role → Bool
  | .main | .thread => false
  | .between | .script .. => true
  | .gate number => ((scenario.world.gates[number]?).map (·.opened)).getD true

/-- Whether a thread can move. -/
def canMove (scenario : Scenario) (thread : Thread) : Bool :=
  match thread with
  | [] => false
  | frame :: _ =>
    match frame.current, frame.todo with
    | some activity, _ => scenario.canProceed activity
    | none, [] => scenario.canLeave frame.role
    | none, _ :: _ => true

/-! ### Moving a thread -/

/-- The spans that are open around a frame with the given frames outside it, outermost first. -/
def spansWithin (scenario : Scenario) (outer : List Frame) : List Span :=
  outer.reverse.flatMap fun frame =>
    match frame.current with
    | some (.calling { ref, phase := .running .., .. }) =>
      ((scenario.world.session.build? ref).map (·.runSpans)).getD []
    | _ => []

/-- Let a frame act on the world, and keep the events. -/
def act {α : Type} (scenario : Scenario) (outer : List Frame) (action : Logged (α × World)) :
    α × Scenario :=
  let acted := action.within (scenario.spansWithin outer)
  (acted.value.1,
    { scenario with world := acted.value.2, events := scenario.events ++ acted.events })

/-- Replace the frames of a thread. -/
def setThread (scenario : Scenario) (number : Nat) (thread : Thread) : Scenario :=
  { scenario with threads := scenario.threads.set number thread }

/-- Start a thread. -/
def spawn (scenario : Scenario) (work : Work) : Nat × Scenario :=
  (scenario.threads.length,
    { scenario with threads := scenario.threads ++ [[{ role := .thread, todo := [.work work] }]] })

/-- Note the answer to the current step of a frame.  An answer to a step of the scenario itself
completes the report on that step. -/
def record (scenario : Scenario) (number : Nat) (frame : Frame) (outer : List Frame)
    (answer : Answer) : Scenario :=
  match frame.role with
  | .main =>
    let report := { answer, hooks := scenario.hooks, after := scenario.world.snapshot
                    events := scenario.events }
    { scenario with hooks := [], events := [], reports := scenario.reports ++ [report] }.setThread
      number ({ frame with current := none } :: outer)
  | _ =>
    scenario.setThread number
      ({ frame with current := none, answers := frame.answers ++ [answer] } :: outer)

/-- Cut the run of the call of a frame short. -/
def unwind (message : String) (frame : Frame) : Frame :=
  match frame.current with
  | some (.calling call) =>
    { frame with current := some (.calling { call with
        phase := IncludedBuild.unwind message call.phase }) }
  | _ => frame

/-- Hand the answers of the steps in between to the race of a frame. -/
def gather (answers : List Answer) (frame : Frame) : Frame :=
  match frame.current with
  | some (.racing race) =>
    match race.stage with
    | .between first gated waiters =>
      { frame with current := some (.racing { race with
          stage := .gathering first gated answers waiters [] }) }
    | _ => frame
  | _ => frame

/-- Leave a frame whose steps have been performed. -/
def leave (scenario : Scenario) (number : Nat) (frame : Frame) (outer : List Frame) : Scenario :=
  match frame.role, outer with
  | .script handle tasks panic, caller :: outer =>
    let report := { handle, tasks, answers := frame.answers }
    let caller := match panic with
      | none => caller
      | some message => unwind message caller
    { scenario with hooks := scenario.hooks ++ [report] }.setThread number (caller :: outer)
  | .between, caller :: outer =>
    scenario.setThread number (gather frame.answers caller :: outer)
  | .gate _, outer => scenario.setThread number outer
  | _, _ => scenario

/-- Perform what a run calls, inside the given frames. -/
def callHook (scenario : Scenario) (number : Nat) (frames : Thread) (run : LauncherRun) :
    Scenario :=
  match run.hook with
  | none => scenario.setThread number frames
  | some (.script handle steps) =>
    let role := .script handle run.tasks (Step.panicMessage? steps)
    scenario.setThread number ({ role, todo := steps } :: frames)
  | some (.gate gate) =>
    match scenario.world.gates[gate]? with
    | some { reached := false, opened } =>
      let gates := scenario.world.gates.set gate { reached := true, opened }
      { scenario with world := { scenario.world with gates } }.setThread number
        ({ role := .gate gate, todo := [] } :: frames)
    | _ => scenario.setThread number frames

/-- Take the call of a frame one step further. -/
def proceed (scenario : Scenario) (number : Nat) (frame : Frame) (outer : List Frame)
    (call : Call) : Scenario :=
  let action := match call.phase with
    | .ended result => scenario.world.conclude call.goal result
    | phase => scenario.world.act call.ref call.goal (·.proceed phase)
  let (activity, scenario) := scenario.act outer action
  let frames := { frame with current := some activity } :: outer
  match activity with
  | .calling { phase := .running _ run, .. } => scenario.callHook number frames run
  | _ => scenario.setThread number frames

/-- What the build of a race shows of its schedule. -/
def raceState (scenario : Scenario) (race : Race) : CoordinatorState :=
  ((scenario.world.session.build? race.ref).map (·.state)).getD .idle

/-- The answer to the work of a thread that is over. -/
def threadAnswer (scenario : Scenario) (number : Nat) : Answer :=
  ((scenario.thread number).head?.bind (·.answers.head?)).getD .notUnderstood

/-- Open a gate. -/
def openGate (scenario : Scenario) (number : Nat) : Scenario :=
  let gates := scenario.world.gates.modify number fun gate => { gate with opened := true }
  { scenario with world := { scenario.world with gates } }

/-- Take the race of a frame one step further. -/
def proceedRace (scenario : Scenario) (number : Nat) (frame : Frame) (outer : List Frame)
    (race : Race) : Scenario :=
  let continueAs (scenario : Scenario) (activity : Activity) (inner : List Frame) : Scenario :=
    scenario.setThread number (inner ++ { frame with current := some activity } :: outer)
  let enter (scenario : Scenario) (stage : RaceStage) : Scenario :=
    continueAs scenario (.racing { race with stage }) []
  match race.stage with
  | .opening first during waiters =>
    let (first, scenario) := scenario.spawn first
    enter scenario (.opened first during waiters)
  | .opened first during waiters =>
    let gated := !(scenario.thread first).isOver
    continueAs scenario (.racing { race with stage := .between first gated waiters })
      [{ role := .between, todo := during }]
  | .between first gated waiters => enter scenario (.gathering first gated [] waiters [])
  | .gathering first gated during (waiter :: waiters) started =>
    let (waiter, scenario) := scenario.spawn waiter
    enter scenario (.gathering first gated during waiters (started ++ [waiter]))
  | .gathering first gated during [] started =>
    let state := if gated then some (scenario.raceState race) else none
    enter (scenario.openGate race.gate) (.joining first gated during state started)
  | .joining first gated during state started =>
    let world := scenario.world.updateLaunchers race.ref fun launchers =>
      { launchers with hook := none }
    let scenario := { scenario with world }
    let answer := .concurrent gated during state (scenario.threadAnswer first)
      (started.map scenario.threadAnswer) (scenario.raceState race)
    continueAs scenario (.answered answer) []

/-- Move a thread. -/
def move (scenario : Scenario) (number : Nat) : Thread → Scenario
  | [] => scenario
  | frame :: outer =>
    match frame.current with
    | none =>
      match frame.todo with
      | [] => scenario.leave number frame outer
      | step :: todo =>
        let (activity, scenario) := scenario.act outer (scenario.world.start step)
        scenario.setThread number ({ frame with todo, current := some activity } :: outer)
    | some (.answered answer) => scenario.record number frame outer answer
    | some (.calling call) => scenario.proceed number frame outer call
    | some (.racing race) => scenario.proceedRace number frame outer race

/-- Move the youngest thread that can move. -/
def step (scenario : Scenario) : Option Scenario :=
  (scenario.threads.zipIdx.reverse.find? fun (thread, _) => scenario.canMove thread).map
    fun (thread, number) => scenario.move number thread

end Scenario

end CompositeBuild
