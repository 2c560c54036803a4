import CompositeBuild.Proofs.Session.Routing

/-!
# The end of the configuration

The configuration of a composite ends when somebody closes it, or when the execution begins, which
closes it first.  From then on the registry is what it was at that moment, whatever happens
(`Workspace.registry_run_of_closed`), and so every later registration and every later request for a
task is refused.

All changes of the registry are operations of one step each: what an operation checks is what it
goes by.  Hence a task that was ever granted was granted before the end
(`Workspace.configuration_ends_for_good`).
-/

namespace CompositeBuild

variable {σ ρ : Type}

namespace Session

variable {session : Session σ ρ}

/-- No task is granted after the configuration, whatever its target. -/
theorem addTask_of_closed (closed : session.registry.closed = true) (source : BuildId)
    (reference : TaskReference) :
    (session.addTask source reference).value =
      (.error (.configurationClosed .addTask), session) := by
  simp [addTask, Registry.addDependency, closed]

/-- No request changes the registry after the configuration. -/
theorem serve_registry_of_closed (closed : session.registry.closed = true)
    (request : Request σ ρ) : (session.serve request).registry = session.registry := by
  cases request with
  | make name projectDir factory launchers => rfl
  | register ref =>
    simp only [serve]
    split
    · rw [register_of_closed closed]
    · rfl
  | addTask source reference => simp only [serve, addTask_of_closed closed]
  | close => simp only [serve, close_value, Registry.close, ← closed]

end Session

/-- No turn changes the registry after the configuration. -/
theorem Concourse.registry_run_of_closed {concourse : Concourse σ ρ}
    (closed : concourse.registry.closed = true) (turns : List (Turn σ ρ)) :
    (concourse.run turns).registry = concourse.registry := by
  induction turns generalizing concourse with
  | nil => rfl
  | cons turn turns ih =>
    have kept : (concourse.step turn).registry = concourse.registry := by
      cases turn with
      | request request =>
        have ended : concourse.session.registry.closed = true := closed
        exact Session.serve_registry_of_closed ended request
      | _ => rfl
    rw [run_cons, ih (kept ▸ closed), kept]

namespace Workspace

variable {workspace : Workspace σ ρ}

/-- What a build gets of the tasks that were granted. -/
def grantedOn (ref : BuildRef) (tasks : List (BuildRef × TaskPath)) : List TaskPath :=
  tasks.filterMap fun task => if task.1 = ref then some task.2 else none

/-- The tasks that operations grant, each with the build that is to run it. -/
def grantedOf : Workspace σ ρ → List (Operation σ ρ) → List (BuildRef × TaskPath)
  | _, [] => []
  | workspace, operation :: operations =>
    workspace.granted operation ++ grantedOf (workspace.step operation) operations

/-! ### The registry after the configuration -/

/-- Nothing changes the registry after the configuration. -/
theorem registry_run_of_closed (closed : workspace.session.registry.closed = true)
    (operations : List (Operation σ ρ)) :
    (workspace.run operations).session.registry = workspace.session.registry := by
  obtain ⟨turns, happened, -⟩ := workspace.exists_turns operations
  have ended : workspace.concourse.registry.closed = true := closed
  have kept := Concourse.registry_run_of_closed ended turns
  rw [← happened] at kept
  exact kept

/-- Closing the configuration, and beginning the execution, end the configuration and change nothing
else of the registry. -/
theorem registry_step_of_ends (sound : workspace.session.Sound) {closing : Operation σ ρ}
    (ends : closing = .request .close ∨ closing = .beginExecution) :
    (workspace.step closing).session.registry = workspace.session.registry.close := by
  rcases ends with rfl | rfl
  · rw [session_close sound, Session.close_value]
  · rw [session_beginExecution sound, Session.beginExecution_registry]

/-! ### Requests after the configuration -/

/-- A build that comes too late is not registered, and nothing changes. -/
theorem step_register_of_closed (closed : workspace.session.registry.closed = true)
    (ref : BuildRef) : workspace.step (.request (.register ref)) = workspace := by
  have served : workspace.concourse.session.serve (.register ref) =
      workspace.concourse.session := by
    simp only [Session.serve]
    split
    · next build found => exact congrArg Prod.snd (Session.register_of_closed closed ref build)
    · rfl
  have same := Concourse.step_request_self served rfl rfl
  simp only [step, turns, Concourse.run_cons, Concourse.run_nil, same]

/-- A build that comes too late is not included, and nothing changes. -/
theorem step_includeBuild_of_closed (closed : workspace.session.registry.closed = true)
    (name : BuildId) (projectDir : String) (factory : LauncherFactory σ ρ) (launchers : σ) :
    workspace.step (.includeBuild name projectDir factory launchers) = workspace := by
  simp [step, turns, Session.isConfiguring, closed]

/-! ### The tasks that were granted -/

/-- No task is granted after the configuration. -/
theorem granted_of_closed (closed : workspace.session.registry.closed = true)
    (operation : Operation σ ρ) : workspace.granted operation = [] := by
  cases operation with
  | request request =>
    cases request with
    | addTask source reference => simp only [granted, Session.addTask_of_closed closed]
    | _ => rfl
  | _ => rfl

/-- No task is ever granted after the configuration. -/
theorem grantedOf_of_closed (closed : workspace.session.registry.closed = true)
    (operations : List (Operation σ ρ)) : grantedOf workspace operations = [] := by
  induction operations generalizing workspace with
  | nil => rfl
  | cons operation operations ih =>
    have still : (workspace.step operation).session.registry.closed = true := by
      rw [← closed]
      exact congrArg Registry.closed (registry_run_of_closed closed [operation])
    rw [grantedOf, granted_of_closed closed, ih still]
    rfl

/-- What is granted first and what is granted then. -/
theorem grantedOf_append (first second : List (Operation σ ρ)) :
    grantedOf workspace (first ++ second) =
      grantedOf workspace first ++ grantedOf (workspace.run first) second := by
  induction first generalizing workspace with
  | nil => rfl
  | cons operation first ih =>
    rw [List.cons_append, grantedOf, grantedOf, ih, List.append_assoc]
    rfl

/-- What is granted on a build is routed to it. -/
theorem grantedOn_granted (ref : BuildRef) (operation : Operation σ ρ) :
    (grantedOn ref (workspace.granted operation)).Sublist (workspace.routed ref operation) := by
  cases operation with
  | request request =>
    cases request with
    | addTask source reference =>
      simp only [granted, routed]
      split
      · cases bound : workspace.concourse.lookup reference.build with
        | none => simp [grantedOn]
        | some other => by_cases same : other = ref <;> simp [grantedOn, same]
      · simp [grantedOn]
    | _ => exact List.nil_sublist _
  | _ => exact List.nil_sublist _

/-- What was granted on a build was routed to it, in the same order. -/
theorem grantedOn_grantedOf (ref : BuildRef) (operations : List (Operation σ ρ)) :
    (grantedOn ref (grantedOf workspace operations)).Sublist
      (routedOf ref workspace operations) := by
  induction operations generalizing workspace with
  | nil => exact List.nil_sublist _
  | cons operation operations ih =>
    rw [grantedOf, routedOf, grantedOn, List.filterMap_append]
    exact (grantedOn_granted ref operation).append ih

/-- **The configuration ends for good.**  Let anything happen to a session, in any order and from
any threads, until its configuration is closed, by itself or because the execution begins, and
anything after that.  Whether the execution then begins well or not, the composite is not configured
any more, every name stands for the build that it stood for at the end, and the dependencies are
those of that moment.  A build is neither registered nor included, and no task is granted, whatever
its target: the answer is that the configuration is over, and nothing changes.

So all tasks that were ever granted were granted before the end, and had been pushed on their builds
then.

The end itself leaves the session exactly as the session does when it is closed, or asked to begin
the execution. -/
theorem configuration_ends_for_good (before after : List (Operation σ ρ))
    {closing : Operation σ ρ} (ends : closing = .request .close ∨ closing = .beginExecution) :
    let earlier := ({} : Workspace σ ρ).run before
    let later := ({} : Workspace σ ρ).run (before ++ closing :: after)
    later.session.isConfiguring = false ∧
    later.session.registry.builds = earlier.session.registry.builds ∧
    later.session.registry.dependencies = earlier.session.registry.dependencies ∧
    (∀ ref build, later.session.build? ref = some build →
      (later.session.register ref build).value.1 =
        .error (.configurationClosed .registerBuild) ∧
      later.step (.request (.register ref)) = later) ∧
    (∀ name projectDir factory launchers,
      (later.session.includeBuild name projectDir factory launchers).value.1 =
        .error (.configurationClosed .registerBuild) ∧
      later.step (.includeBuild name projectDir factory launchers) = later) ∧
    (∀ source reference,
      (later.session.addTask source reference).value.1 = .error (.configurationClosed .addTask) ∧
      later.step (.request (.addTask source reference)) = later) ∧
    grantedOf {} (before ++ closing :: after) = grantedOf {} before ∧
    (∀ ref, (grantedOn ref (grantedOf {} before)).Sublist (earlier.pushedOn ref)) ∧
    (closing = .request .close →
      (earlier.step closing).session = earlier.session.close.value) ∧
    (closing = .beginExecution →
      (earlier.step closing).session = earlier.session.beginExecution.value.2) := by
  intro earlier later
  have sound : earlier.session.Sound := sound_run before
  have split : later = (earlier.step closing).run after := run_append _ before _
  have closed : (earlier.step closing).session.registry = earlier.session.registry.close :=
    registry_step_of_ends sound ends
  have ended : (earlier.step closing).session.registry.closed = true := by rw [closed]; rfl
  have same : later.session.registry = earlier.session.registry.close := by
    rw [split, registry_run_of_closed ended, closed]
  have still : later.session.registry.closed = true := by rw [same]; rfl
  refine ⟨by simp [Session.isConfiguring, still], by rw [same]; rfl, by rw [same]; rfl,
    fun ref build found => ?_, fun name projectDir factory launchers => ?_,
    fun source reference => ?_, ?_, fun ref => ?_, ?_, ?_⟩
  · exact ⟨congrArg Prod.fst (Session.register_of_closed still ref build),
      step_register_of_closed still ref⟩
  · exact ⟨congrArg Prod.fst (Session.includeBuild_of_closed _ still name projectDir _ _),
      step_includeBuild_of_closed still name projectDir factory launchers⟩
  · have refused := congrArg Prod.fst (Session.addTask_of_closed still source reference)
    exact ⟨refused, step_addTask_of_refused (sound_run _) refused⟩
  · have nothing : earlier.granted closing = [] := by rcases ends with rfl | rfl <;> rfl
    rw [grantedOf_append, grantedOf, nothing, grantedOf_of_closed ended, List.append_nil,
      List.append_nil]
  · rw [pushedOn_run before]
    exact grantedOn_grantedOf ref before
  · rintro rfl
    exact session_close sound
  · rintro rfl
    exact session_beginExecution sound

/-- `app` is granted a task of `lib`, and then an action is registered on `lib` that cannot write
its rule. -/
def illRuled : List (Operation (ScriptedLaunchers Unit) (ScriptedRun Unit)) :=
  let stage : TaskPath := { text := ":stage", qualified := by decide }
  [.includeBuild ⟨"app"⟩ "/app" ScriptedLaunchers.factory (.ofProject "app" []),
    .includeBuild ⟨"lib"⟩ "/lib" ScriptedLaunchers.factory (.ofProject "lib" []),
    .request (.addTask ⟨"app"⟩ ⟨⟨"lib"⟩, stage⟩),
    .act 1 (.beside (.registerSubstitution (.ofRule "nonsense" ":")))]

/-- Requests for a task of a build that is not registered, for one that would close a cycle and for
one that would have been granted, and a build that comes too late. -/
def belated : List (Operation (ScriptedLaunchers Unit) (ScriptedRun Unit)) :=
  let stage : TaskPath := { text := ":stage", qualified := by decide }
  [.request (.addTask ⟨"app"⟩ ⟨⟨"tools"⟩, stage⟩), .request (.addTask ⟨"lib"⟩ ⟨⟨"app"⟩, stage⟩),
    .request (.addTask ⟨"app"⟩ ⟨⟨"lib"⟩, stage⟩),
    .includeBuild ⟨"tools"⟩ "/tools" ScriptedLaunchers.factory (.ofProject "tools" [])]

/-- The execution does not begin well, and the configuration is over all the same. -/
theorem configuration_ends_for_good_illRuled :
    let earlier := ({} : Workspace _ _).run illRuled
    let later := ({} : Workspace _ _).run (illRuled ++ .beginExecution :: belated)
    let stage : TaskPath := { text := ":stage", qualified := by decide }
    earlier.session.beginExecution.value.1 =
      .failed (.substitution (.invalidModule "nonsense")) ∧
    (earlier.step .beginExecution).session = earlier.session.beginExecution.value.2 ∧
    later.session.isConfiguring = false ∧
    (later.session.addTask ⟨"app"⟩ ⟨⟨"tools"⟩, stage⟩).value.1 =
      .error (.configurationClosed .addTask) ∧
    later.step (.request (.addTask ⟨"app"⟩ ⟨⟨"tools"⟩, stage⟩)) = later ∧
    (grantedOf {} illRuled).map (fun task => (task.1, task.2.text)) = [(1, ":stage")] ∧
    grantedOf {} (illRuled ++ .beginExecution :: belated) = grantedOf {} illRuled := by
  intro earlier later stage
  obtain ⟨ended, -, -, -, -, tasks, granted, -, -, begun⟩ :=
    configuration_ends_for_good illRuled belated (.inr rfl)
  exact ⟨by cbv, begun rfl, ended, (tasks _ _).1, (tasks _ _).2, by cbv, granted⟩

end Workspace

end CompositeBuild
