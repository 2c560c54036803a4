import CompositeBuild.Proofs.Session.Concourse
import CompositeBuild.Session.Start

/-!
# A session and the builds that consume it

A `Workspace` is a session with the callers of its builds (`Concourse`), together with the tasks of
the builds that consume it.  An `Operation` is something that somebody asks of it, or something that
happens to one of its builds, so a list of operations is a history of the whole composite build.  A
sweep is many operations, because other code may act while its launcher runs.

An operation is a list of turns of the concourse (`Workspace.turns`), and what these make of the
session is what the session itself does: for requests by `Concourse.session_request`, for builds
that are included by `Workspace.session_includeBuild`, for paths that are queued by
`Workspace.session_queue`, for the beginning of the execution by
`Workspace.session_beginExecution`, and for references by `Workspace.session_resolve`.

The execution begins in one turn that ends the configuration and one for every build whose rules are
settled.  These may happen among other turns as well, by the operations that they are.
-/

namespace CompositeBuild

variable {σ ρ : Type}

/-- A session with the callers of its builds, and the tasks of the builds that consume it. -/
@[ext]
structure Workspace (σ ρ : Type) where
  concourse : Concourse σ ρ := {}
  /-- The tasks of the consuming builds, in the order in which these appeared. -/
  taskSets : List BuildTasks := []

/-- Something that is asked of a workspace, or happens in it.  Consuming builds are given by their
numbers. -/
inductive Operation (σ ρ : Type) where
  /-- The session is asked for something. -/
  | request (request : Request σ ρ)
  /-- A build is made with traced launchers, and registered. -/
  | includeBuild (name : BuildId) (projectDir : String) (factory : LauncherFactory σ ρ)
      (launchers : σ)
  /-- The execution begins. -/
  | beginExecution
  /-- A consuming build appears, without tasks. -/
  | consume (owner : BuildId)
  /-- An action is added to the tasks of a consuming build. -/
  | addAction (consumer : Nat) (name : String) (result : Except BuildFailure Unit)
  /-- A reference is resolved for a consuming build. -/
  | resolve (consumer : Nat) (reference : TaskReference)
  /-- A delegate is executed. -/
  | execute (delegate : Delegate)
  /-- Something happens to a build. -/
  | act (ref : BuildRef) (action : Action σ)

/-- The turns in which the rules of builds are settled, one after the other, up to the first build
where that goes wrong. -/
def Session.settleTurns : List BuildRef → Session σ ρ → List (Turn σ ρ)
  | [], _ => []
  | ref :: refs, session =>
    match session.build? ref with
    | none => settleTurns refs session
    | some build =>
      .act ref (.beside .resolveSubstitutions) ::
        match build.resolveSubstitutions.value.1 with
        | .returned _ =>
          settleTurns refs (session.setBuild ref build.resolveSubstitutions.value.2)
        | _ => []

/-- Settling the rules of builds lets nothing else happen to them. -/
theorem Session.eq_of_mem_settleTurns {refs : List BuildRef} {session : Session σ ρ}
    {ref : BuildRef} {action : Action σ} (member : .act ref action ∈ settleTurns refs session) :
    action = .beside .resolveSubstitutions := by
  induction refs generalizing session with
  | nil => simp [settleTurns] at member
  | cons first refs ih =>
    unfold settleTurns at member
    split at member
    · exact ih member
    · rcases List.mem_cons.mp member with same | later
      · exact (Turn.act.inj same).2
      · split at later
        · exact ih later
        · simp at later

namespace Workspace

variable (workspace : Workspace σ ρ)

/-- The session of a workspace. -/
def session : Session σ ρ := workspace.concourse.session

/-- The answer to resolving a reference for a consuming build, if there is such a build. -/
def resolution (consumer : Nat) (reference : TaskReference) :
    Option (Except ResolveError (Delegate × BuildTasks)) :=
  (workspace.taskSets[consumer]?).map fun tasks =>
    (workspace.session.resolve BuildTasks.container reference tasks).value.1

/-- The turns of the concourse that an operation consists of.  A build that cannot be registered any
more is not made. -/
def turns : Operation σ ρ → List (Turn σ ρ)
  | .request request => [.request request]
  | .includeBuild name projectDir factory launchers =>
    if workspace.session.isConfiguring then
      [.request (.make name projectDir (factory.traced name) launchers),
        .request (.register workspace.concourse.chronicles.length)]
    else []
  | .beginExecution =>
    let closed := workspace.session.close.value
    .request .close :: Session.settleTurns closed.registry.builds.values closed
  | .consume _ | .addAction .. => []
  | .resolve consumer reference =>
    match workspace.taskSets[consumer]? with
    | some tasks => [.resolve reference !(tasks.find? reference.build.text).isSome]
    | none => []
  | .execute delegate => [.execute delegate]
  | .act ref action => [.act ref action]

/-- Let one operation happen.  A consuming build that does not exist gets no tasks, and one whose
request is refused keeps those that it has. -/
def step (operation : Operation σ ρ) : Workspace σ ρ where
  concourse := workspace.concourse.run (workspace.turns operation)
  taskSets := match operation with
    | .consume owner => workspace.taskSets ++ [{ owner }]
    | .addAction consumer name result =>
      workspace.taskSets.modify consumer fun tasks =>
        match (tasks.add (.action name result)).value with
        | .ok extended => extended
        | .error _ => tasks
    | .resolve consumer reference =>
      workspace.taskSets.modify consumer fun tasks =>
        match (workspace.session.resolve BuildTasks.container reference tasks).value.1 with
        | .ok (_, extended) => extended
        | .error _ => tasks
    | _ => workspace.taskSets

/-- Let operations happen one after the other. -/
def run (operations : List (Operation σ ρ)) : Workspace σ ρ := operations.foldl step workspace

@[simp] theorem run_nil : workspace.run [] = workspace := rfl

@[simp] theorem run_cons (operation : Operation σ ρ) (operations : List (Operation σ ρ)) :
    workspace.run (operation :: operations) = (workspace.step operation).run operations := rfl

@[simp] theorem run_append (first second : List (Operation σ ρ)) :
    workspace.run (first ++ second) = (workspace.run first).run second :=
  List.foldl_append

end Workspace

/-- Changing one item of a list into itself changes nothing. -/
theorem modify_eq_self {α : Type} {items : List α} {place : Nat} {change : α → α}
    (fixed : ∀ item, items[place]? = some item → change item = item) :
    items.modify place change = items := by
  refine List.ext_getElem? fun other => ?_
  rw [List.getElem?_modify]
  split
  · next same =>
    subst same
    cases found : items[place]? with
    | none => rfl
    | some item => simp [fixed item found]
  · simp

/-! ### Operations are what the session does -/

namespace Concourse

variable {concourse : Concourse σ ρ}

@[simp] theorem run_nil (concourse : Concourse σ ρ) : concourse.run [] = concourse := rfl

@[simp] theorem run_cons (concourse : Concourse σ ρ) (turn : Turn σ ρ) (turns : List (Turn σ ρ)) :
    concourse.run (turn :: turns) = (concourse.step turn).run turns := rfl

/-- Turns leave the session in order. -/
theorem sound_run_from (sound : concourse.session.Sound) (turns : List (Turn σ ρ)) :
    (concourse.run turns).session.Sound :=
  turns.foldlRecOn step (motive := fun concourse => concourse.session.Sound) sound
    fun _ sound turn _ => sound_step sound turn

/-- What happens beside the callers of a build changes that build and nothing else of the
session. -/
theorem session_beside {ref : BuildRef} {build : IncludedBuild σ ρ}
    (found : concourse.session.build? ref = some build) (side : SideStep σ) :
    (concourse.step (.act ref (.beside side))).session =
      concourse.session.setBuild ref (side.apply build) := by
  obtain ⟨chronicle, there, rfl⟩ := exists_chronicle found
  rw [session_step_act rfl rfl, session_act there]
  rfl

/-- Settling the rules of builds is what the session does when it settles them. -/
theorem session_settleTurns (concourse : Concourse σ ρ) (refs : List BuildRef) :
    (concourse.run (Session.settleTurns refs concourse.session)).session =
      (Session.settleAll refs concourse.session).value.2 := by
  induction refs generalizing concourse with
  | nil => rfl
  | cons ref refs ih =>
    unfold Session.settleTurns Session.settleAll
    cases found : concourse.session.build? ref with
    | none => exact ih concourse
    | some build =>
      have settled : (concourse.step (.act ref (.beside .resolveSubstitutions))).session =
          concourse.session.setBuild ref build.resolveSubstitutions.value.2 :=
        session_beside found .resolveSubstitutions
      simp only [run_cons, Logged.bind_value]
      cases outcome : build.resolveSubstitutions.value.1 with
      | returned subs => rw [← settled, ih]
      | failed error => exact settled
      | panicked message => exact settled

end Concourse

namespace Session

variable (session : Session σ ρ)

/-- Settling rules never changes the registry. -/
theorem settleAll_registry (refs : List BuildRef) :
    (settleAll refs session).value.2.registry = session.registry := by
  induction refs generalizing session with
  | nil => rfl
  | cons ref refs ih =>
    unfold settleAll
    cases session.build? ref with
    | none => exact ih session
    | some build =>
      simp only [Logged.bind_value]
      cases build.resolveSubstitutions.value.1 with
      | returned subs => exact ih _
      | _ => rfl

/-- What the execution begins with is the end of the configuration, whatever comes of the rules. -/
theorem beginExecution_session :
    session.beginExecution.value.2 =
      (settleAll session.close.value.registry.builds.values session.close.value).value.2 := by
  simp only [beginExecution, Logged.bind_value]
  split <;> simp_all

/-- The execution begins with the end of the configuration, and changes nothing else of the
registry, whether it begins well or not. -/
theorem beginExecution_registry :
    session.beginExecution.value.2.registry = session.registry.close := by
  rw [beginExecution_session, settleAll_registry, close_value]

/-- A build is not included after the configuration. -/
theorem includeBuild_of_closed (closed : session.registry.closed = true) (name : BuildId)
    (projectDir : String) (factory : LauncherFactory σ ρ) (launchers : σ) :
    (session.includeBuild name projectDir factory launchers).value =
      (.error (.configurationClosed .registerBuild), session) := by
  have still : (session.addBuild
      { name, projectDir, factory := factory.traced name, launchers }).2.registry.closed = true :=
    closed
  simp only [includeBuild, Logged.bind_value, register_of_closed still, Logged.pure_value]

/-- While a composite is configured a build that is included is new, has traced launchers and is
what its name stands for from then on. -/
theorem includeBuild_of_open (opened : session.registry.closed = false) (name : BuildId)
    (projectDir : String) (factory : LauncherFactory σ ρ) (launchers : σ) :
    (session.includeBuild name projectDir factory launchers).value =
      (.ok session.builds.length, { session with
        builds := session.builds ++
          [{ name, projectDir, factory := factory.traced name, launchers }]
        registry := { session.registry with
          builds := session.registry.builds.insert name.text session.builds.length } }) := by
  have still : (session.addBuild
      { name, projectDir, factory := factory.traced name, launchers }).2.registry.closed = false :=
    opened
  simp only [includeBuild, Logged.bind_value, register_of_open still, Logged.pure_value]
  rfl

end Session

namespace Workspace

variable {workspace : Workspace σ ρ}

/-- Including a build does to the session what the session does when it is asked. -/
theorem session_includeBuild (sound : workspace.session.Sound) (name : BuildId)
    (projectDir : String) (factory : LauncherFactory σ ρ) (launchers : σ) :
    (workspace.step (.includeBuild name projectDir factory launchers)).session =
      (workspace.session.includeBuild name projectDir factory launchers).value.2 := by
  cases phase : workspace.session.registry.closed with
  | true =>
    rw [Session.includeBuild_of_closed _ phase]
    simp only [session, step, turns, Session.isConfiguring] at phase ⊢
    simp [phase]
  | false =>
    rw [Session.includeBuild_of_open _ phase]
    -- The build is made in one turn and registered in the next one.
    let build : IncludedBuild σ ρ := { name, projectDir, factory := factory.traced name, launchers }
    let made := workspace.concourse.step
      (.request (.make name projectDir (factory.traced name) launchers))
    have count : workspace.concourse.chronicles.length = workspace.session.builds.length :=
      (List.length_map _).symm
    have both : workspace.turns (.includeBuild name projectDir factory launchers) =
        [.request (.make name projectDir (factory.traced name) launchers),
          .request (.register workspace.session.builds.length)] := by
      simp [turns, Session.isConfiguring, phase, count]
    have new : (workspace.session.addBuild build).2.build? workspace.session.builds.length =
        some build := by
      rw [Session.build?_addBuild]
      exact if_pos rfl
    calc (workspace.step (.includeBuild name projectDir factory launchers)).session
      _ = (made.step (.request (.register workspace.session.builds.length))).session := by
        simp only [session, step, both]
        rfl
      _ = made.session.serve (.register workspace.session.builds.length) :=
        Concourse.session_request (Concourse.sound_step sound _) _
      _ = (workspace.session.addBuild build).2.serve
          (.register workspace.session.builds.length) := by
        rw [Concourse.session_request sound]
        rfl
      _ = _ := by
        simp only [Session.serve, new]
        exact congrArg Prod.snd (Session.register_of_open (by exact phase) _ _)

/-- A request for a task does to the session what the session does when it is asked. -/
theorem session_addTask (sound : workspace.session.Sound) (source : BuildId)
    (reference : TaskReference) :
    (workspace.step (.request (.addTask source reference))).session =
      (workspace.session.addTask source reference).value.2 :=
  Concourse.session_request sound (.addTask source reference)

/-- Registering a build does to the session what the session does when it is asked. -/
theorem session_register (sound : workspace.session.Sound) {ref : BuildRef}
    {build : IncludedBuild σ ρ} (found : workspace.session.build? ref = some build) :
    (workspace.step (.request (.register ref))).session =
      (workspace.session.register ref build).value.2 := by
  have served : (workspace.step (.request (.register ref))).session =
      workspace.session.serve (.register ref) := Concourse.session_request sound (.register ref)
  rw [served]
  simp only [Session.serve, found]

/-- Closing the configuration does to the session what the session does when it is asked. -/
theorem session_close (sound : workspace.session.Sound) :
    (workspace.step (.request .close)).session = workspace.session.close.value :=
  Concourse.session_request sound .close

/-- Queueing paths does to the session what the build does when it is asked. -/
theorem session_queue {ref : BuildRef} {build : IncludedBuild σ ρ}
    (found : workspace.session.build? ref = some build) (paths : List TaskPath) :
    (workspace.step (.act ref (.beside (.queue paths)))).session =
      workspace.session.setBuild ref (build.queue paths).value :=
  Concourse.session_beside found (.queue paths)

/-- Beginning the execution does to the session what the session does when it is asked. -/
theorem session_beginExecution (sound : workspace.session.Sound) :
    (workspace.step .beginExecution).session = workspace.session.beginExecution.value.2 := by
  have closed : (workspace.concourse.step (.request .close)).session =
      workspace.session.close.value := session_close sound
  have settled := (workspace.concourse.step (.request .close)).session_settleTurns
    workspace.session.close.value.registry.builds.values
  rw [closed] at settled
  rw [Session.beginExecution_session, ← settled]
  rfl

/-- Resolving a reference does to the session what the session does when it is asked. -/
theorem session_resolve {consumer : Nat} {tasks : BuildTasks}
    (found : workspace.taskSets[consumer]? = some tasks) (reference : TaskReference) :
    (workspace.step (.resolve consumer reference)).session =
      (workspace.session.resolve BuildTasks.container reference tasks).value.2 := by
  simp only [session, step, turns, found, Concourse.run_cons, Concourse.run_nil]
  exact workspace.concourse.session_resolve BuildTasks.container reference tasks

/-- The turns of an operation let happen to builds what the operation itself is, and attempts to
settle rules. -/
theorem mem_turns {operation : Operation σ ρ} {ref : BuildRef} {action : Action σ}
    (member : .act ref action ∈ workspace.turns operation) :
    operation = .act ref action ∨ action = .beside .resolveSubstitutions := by
  cases operation with
  | act place made =>
    obtain ⟨rfl, rfl⟩ : ref = place ∧ action = made := by simpa [turns] using member
    exact .inl rfl
  | includeBuild name projectDir factory launchers =>
    simp only [turns] at member
    split at member <;> simp at member
  | resolve consumer reference =>
    simp only [turns] at member
    split at member <;> simp at member
  | beginExecution =>
    rcases List.mem_cons.mp member with same | settles
    · cases same
    · exact .inr (Session.eq_of_mem_settleTurns settles)
  | _ => simp [turns] at member

/-- Operations are turns of the concourse.  What these let happen to builds the operations
themselves are, or attempts to settle rules. -/
theorem exists_turns (workspace : Workspace σ ρ) (operations : List (Operation σ ρ)) :
    ∃ turns, (workspace.run operations).concourse = workspace.concourse.run turns ∧
      ∀ ref action, .act ref action ∈ turns →
        .act ref action ∈ operations ∨ action = .beside .resolveSubstitutions := by
  induction operations generalizing workspace with
  | nil => exact ⟨[], rfl, by simp⟩
  | cons operation operations ih =>
    obtain ⟨turns, later, among⟩ := ih (workspace.step operation)
    refine ⟨workspace.turns operation ++ turns, ?_, fun ref action member => ?_⟩
    · rw [run_cons, later, Concourse.run, Concourse.run, List.foldl_append]
      rfl
    · rcases List.mem_append.mp member with first | rest
      · exact (mem_turns first).imp_left fun same => List.mem_cons.mpr (.inl same.symm)
      · exact (among ref action rest).imp_left (List.mem_cons_of_mem operation)

/-- Every operation leaves the session in order. -/
theorem sound_step (sound : workspace.session.Sound) (operation : Operation σ ρ) :
    (workspace.step operation).session.Sound :=
  Concourse.sound_run_from sound _

/-- Operations leave the session in order. -/
theorem sound_run_from (sound : workspace.session.Sound) (operations : List (Operation σ ρ)) :
    (workspace.run operations).session.Sound :=
  operations.foldlRecOn step (motive := fun workspace => workspace.session.Sound) sound
    fun _ sound operation _ => sound_step sound operation

/-- The session of a workspace is in order, whatever has happened. -/
theorem sound_run (operations : List (Operation σ ρ)) :
    (({} : Workspace σ ρ).run operations).session.Sound :=
  sound_run_from .empty operations

end Workspace

end CompositeBuild
