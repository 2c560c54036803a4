import CompositeBuild.Proofs.Await.Coverage
import CompositeBuild.Proofs.Session.Workspace
import CompositeBuild.Proofs.Task.Resolution

/-!
# Which build a request reaches

Paths come into the queue of a build in three ways: a task of the build is asked for and granted, a
reference to a task of it is resolved, or somebody queues them directly.  The first two name the
build, and a name may stand for another build later.

`Workspace.routed` says what an operation is to push on a build, by its answer and by what the name
stands for at that moment.  What was ever pushed on a build is what was routed to it, operation
after operation (`Workspace.requests_reach_their_builds`).
-/

namespace CompositeBuild

variable {σ ρ : Type}

/-! ### Pushing -/

/-- The paths that an action queues. -/
def Action.pushed : Action σ → List TaskPath
  | .beside side => side.pushed
  | _ => []

/-- No step of a call queues anything. -/
theorem pushed_stepEvents (made : Bool) (history : List Event) (caller : Nat)
    (phase next : Phase ρ) : History.pushed (stepEvents made history caller phase next) = [] := by
  unfold stepEvents
  split
  · rfl
  · split <;> rfl
  all_goals rfl

/-- An action queues its paths and nothing else. -/
theorem Callers.pushed_step (callers : Callers σ ρ) (action : Action σ) :
    History.pushed (callers.step action).history =
      History.pushed callers.history ++ action.pushed := by
  cases action with
  | enter => exact (History.pushed_append _ _).trans (by rw [pushed_stepEvents]; rfl)
  | proceed caller =>
    simp only [step]
    split
    · exact (History.pushed_append _ _).trans (by rw [pushed_stepEvents]; rfl)
    · exact (List.append_nil _).symm
  | beside side =>
    refine (History.pushed_append _ _).trans (congrArg _ ?_)
    cases side <;> simp [History.pushed, Action.pushed, SideStep.pushed]
  | _ =>
    simp only [step]
    split <;> exact (List.append_nil _).symm

/-- Actions queue their paths, in order, and nothing else. -/
theorem Chronicle.pushed_run (chronicle : Chronicle σ ρ) (actions : List (Action σ)) :
    History.pushed (chronicle.run actions).callers.history =
      History.pushed chronicle.callers.history ++ actions.flatMap Action.pushed := by
  induction actions generalizing chronicle with
  | nil => simp [run]
  | cons action actions ih =>
    have first := chronicle.callers.pushed_step action
    calc History.pushed (chronicle.run (action :: actions)).callers.history
      _ = History.pushed ((chronicle.step action).run actions).callers.history := rfl
      _ = History.pushed (chronicle.callers.step action).history ++
          actions.flatMap Action.pushed := ih _
      _ = _ := by rw [first, List.append_assoc, List.flatMap_cons]

namespace Concourse

variable (concourse : Concourse σ ρ)

/-- Everything that was pushed on a build, in order.  Nothing was on a build that does not exist. -/
def pushedOn (ref : BuildRef) : List TaskPath :=
  (concourse.chronicles[ref]?).elim [] fun chronicle => History.pushed chronicle.callers.history

/-- What a turn pushes on a build. -/
def pushes (ref : BuildRef) (turn : Turn σ ρ) : List TaskPath :=
  (concourse.chronicles[ref]?).elim [] fun _ =>
    (concourse.actionsAt ref turn).flatMap Action.pushed

/-- What turns push on a build, one after the other. -/
def pushesOf (ref : BuildRef) : Concourse σ ρ → List (Turn σ ρ) → List TaskPath
  | _, [] => []
  | concourse, turn :: turns =>
    concourse.pushes ref turn ++ pushesOf ref (concourse.step turn) turns

variable {concourse} {ref : BuildRef}

/-- A turn pushes on a build what is meant for it, and nothing else. -/
theorem pushedOn_step (turn : Turn σ ρ) :
    (concourse.step turn).pushedOn ref = concourse.pushedOn ref ++ concourse.pushes ref turn := by
  unfold pushedOn pushes
  cases before : concourse.chronicles[ref]? with
  | some chronicle =>
    rw [chronicle_step before]
    exact chronicle.pushed_run _
  | none =>
    cases after : (concourse.step turn).chronicles[ref]? with
    | none => rfl
    | some chronicle =>
      obtain ⟨name, projectDir, factory, launchers, rfl⟩ :=
        started_of_made (made_of_absent before after)
      rfl

/-- Turns push on a build what is meant for it, in order, and nothing else. -/
theorem pushedOn_run (turns : List (Turn σ ρ)) :
    (concourse.run turns).pushedOn ref =
      concourse.pushedOn ref ++ pushesOf ref concourse turns := by
  induction turns generalizing concourse with
  | nil => simp [pushesOf]
  | cons turn turns ih =>
    rw [run_cons, ih, pushedOn_step, pushesOf, List.append_assoc]

/-- A turn that lets nothing happen to any build pushes nothing. -/
theorem pushes_of_idle {turn : Turn σ ρ} (idle : concourse.action? turn = none) :
    concourse.pushes ref turn = [] := by
  unfold pushes actionsAt
  rw [idle]
  cases concourse.chronicles[ref]? <;> rfl

/-- Of all requests only those for tasks push something. -/
theorem pushes_of_ne_addTask {request : Request σ ρ}
    (other : ∀ source reference, request ≠ .addTask source reference) :
    concourse.pushes ref (.request request) = [] := by
  cases request with
  | addTask source reference => exact absurd rfl (other source reference)
  | _ => exact pushes_of_idle rfl

/-- A turn that lets something happen to a build pushes on that build only. -/
theorem pushes_of_action {turn : Turn σ ρ} {other : BuildRef} {action : Action σ}
    (acts : concourse.action? turn = some (other, action)) :
    concourse.pushes ref turn =
      if other = ref ∧ (concourse.chronicles[ref]?).isSome then action.pushed else [] := by
  unfold pushes actionsAt
  rw [acts]
  cases concourse.chronicles[ref]? with
  | none => simp
  | some chronicle => by_cases same : other = ref <;> simp [same]

/-- A name stands for builds that exist. -/
theorem isSome_of_lookup {name : BuildId} (found : concourse.lookup name = some ref) :
    (concourse.chronicles[ref]?).isSome := by
  obtain ⟨⟨other, build⟩, here, rfl⟩ := Option.map_eq_some_iff.mp found
  obtain ⟨-, present⟩ := Session.find?_eq_some_iff.mp here
  obtain ⟨chronicle, there, -⟩ := exists_chronicle present
  exact Option.isSome_of_eq_some there

/-- A turn that queues a path on the build that a name stands for pushes it there. -/
theorem pushes_of_lookup {turn : Turn σ ρ} {name : BuildId} {path : TaskPath}
    (acts : concourse.action? turn =
      (concourse.lookup name).map (·, .beside (.queue [path]))) :
    concourse.pushes ref turn = if concourse.lookup name = some ref then [path] else [] := by
  cases bound : concourse.lookup name with
  | none =>
    rw [bound] at acts
    simpa using pushes_of_idle acts
  | some other =>
    rw [bound] at acts
    rw [pushes_of_action acts]
    have present := isSome_of_lookup bound
    by_cases same : other = ref
    · subst same
      simp [present, Action.pushed, SideStep.pushed]
    · simp [same]

/-- A reference to a build that is not registered changes nothing. -/
theorem step_resolve_of_unknown {reference : TaskReference}
    (unknown : concourse.lookup reference.build = none) (made : Bool) :
    concourse.step (.resolve reference made) = concourse := by
  simp only [step, action?, made?, unknown, Option.map_none, Option.toList_none, List.append_nil,
    Option.isSome_none, Bool.and_false, Bool.toNat_false, Nat.add_zero]

/-- Settling rules pushes nothing. -/
theorem pushesOf_settleTurns (refs : List BuildRef) (session : Session σ ρ) :
    pushesOf ref concourse (Session.settleTurns refs session) = [] := by
  induction refs generalizing session concourse with
  | nil => rfl
  | cons other refs ih =>
    unfold Session.settleTurns
    split
    · exact ih session
    · have nothing : concourse.pushes ref (.act other (.beside .resolveSubstitutions)) = [] := by
        rw [pushes_of_action rfl]
        exact ite_self []
      rw [pushesOf, nothing, List.nil_append]
      split
      · exact ih _
      · rfl

end Concourse

/-! ### Routes -/

namespace Workspace

variable (workspace : Workspace σ ρ)

/-- The tasks that an operation grants, each with the build that is to run it. -/
def granted : Operation σ ρ → List (BuildRef × TaskPath)
  | .request (.addTask source reference) =>
    match (workspace.session.addTask source reference).value.1 with
    | .ok () => (workspace.concourse.lookup reference.build).toList.map (·, reference.path)
    | .error _ => []
  | _ => []

/-- What an operation is to push on a build: a task of it that is granted, the path of a reference
to it that is resolved, even when an action has the name of the delegate, and paths that are queued
on it directly. -/
def routed (ref : BuildRef) : Operation σ ρ → List TaskPath
  | .request (.addTask source reference) =>
    match (workspace.session.addTask source reference).value.1 with
    | .ok () =>
      if workspace.concourse.lookup reference.build = some ref then [reference.path] else []
    | .error _ => []
  | .resolve consumer reference =>
    match workspace.resolution consumer reference with
    | some (.ok _) | some (.error (.nameCollision _)) =>
      if workspace.concourse.lookup reference.build = some ref then [reference.path] else []
    | _ => []
  | .act other (.beside (.queue paths)) | .act other (.beside (.queueAndPoison paths)) =>
    if other = ref ∧ (workspace.session.build? ref).isSome then paths else []
  | _ => []

/-- The name by which an operation asks for a build. -/
def target? : Operation σ ρ → Option BuildId
  | .request (.addTask _ reference) | .resolve _ reference => some reference.build
  | _ => none

/-- What operations are to push on a build, one after the other. -/
def routedOf (ref : BuildRef) : Workspace σ ρ → List (Operation σ ρ) → List TaskPath
  | _, [] => []
  | workspace, operation :: operations =>
    workspace.routed ref operation ++ routedOf ref (workspace.step operation) operations

/-- Everything that was pushed on a build, in order. -/
def pushedOn (ref : BuildRef) : List TaskPath := workspace.concourse.pushedOn ref

variable {workspace} {ref : BuildRef}

/-- A request pushes what is routed by it. -/
theorem pushes_request (request : Request σ ρ) :
    workspace.concourse.pushes ref (.request request) =
      workspace.routed ref (.request request) := by
  cases request with
  | addTask source reference =>
    cases answer : (workspace.session.addTask source reference).value.1 with
    | error error =>
      have idle : workspace.concourse.action? (.request (.addTask source reference)) = none := by
        rw [session] at answer
        simp only [Concourse.action?, answer]
      simp only [Concourse.pushes_of_idle idle, routed, answer]
    | ok granted =>
      have acts : workspace.concourse.action? (.request (.addTask source reference)) =
          (workspace.concourse.lookup reference.build).map
            (·, .beside (.queue [reference.path])) := by
        rw [session] at answer
        simp only [Concourse.action?, answer]
      simp only [Concourse.pushes_of_lookup acts, routed, answer]
  | _ => exact Concourse.pushes_of_ne_addTask (by simp)

/-- A reference that is resolved pushes what is routed by it. -/
theorem pushes_resolve {consumer : Nat} {tasks : BuildTasks}
    (found : workspace.taskSets[consumer]? = some tasks) (reference : TaskReference)
    (made : Bool) :
    workspace.concourse.pushes ref (.resolve reference made) =
      workspace.routed ref (.resolve consumer reference) := by
  have acts : workspace.concourse.action? (.resolve reference made) =
      (workspace.concourse.lookup reference.build).map
        (·, .beside (.queue [reference.path])) := rfl
  have resolves := workspace.session.resolve_resolves reference tasks
  simp only [Concourse.pushes_of_lookup acts, routed, resolution, found, Option.map_some]
  generalize (workspace.session.resolve BuildTasks.container reference tasks).value.1 = answer,
    (workspace.session.resolve BuildTasks.container reference tasks).value.2 = next at resolves ⊢
  cases resolves with
  | unknown absent =>
    have nowhere : workspace.concourse.lookup reference.build = none :=
      Option.map_eq_none_iff.mpr absent
    simp [nowhere]
  | _ => rfl

/-- An operation pushes on a build what is routed to it, and nothing else. -/
theorem pushedOn_step (operation : Operation σ ρ) :
    (workspace.step operation).pushedOn ref =
      workspace.pushedOn ref ++ workspace.routed ref operation := by
  refine (Concourse.pushedOn_run _).trans (congrArg _ ?_)
  have alone (turn : Turn σ ρ) : Concourse.pushesOf ref workspace.concourse [turn] =
      workspace.concourse.pushes ref turn := List.append_nil _
  cases operation with
  | request request => exact (alone _).trans (pushes_request request)
  | includeBuild name projectDir factory launchers =>
    simp only [turns]
    split
    · simp [Concourse.pushesOf, Concourse.pushes_of_ne_addTask, routed]
    · rfl
  | beginExecution =>
    simp [turns, Concourse.pushesOf, Concourse.pushesOf_settleTurns,
      Concourse.pushes_of_ne_addTask, routed]
  | resolve consumer reference =>
    simp only [turns]
    cases found : workspace.taskSets[consumer]? with
    | none => simp [Concourse.pushesOf, routed, resolution, found]
    | some tasks => exact (alone _).trans (pushes_resolve found reference _)
  | execute delegate =>
    refine (alone _).trans ?_
    cases bound : workspace.concourse.lookup delegate.build with
    | none => exact Concourse.pushes_of_idle (by simp [Concourse.action?, bound])
    | some other =>
      have acts : workspace.concourse.action? (.execute delegate) = some (other, .enter) := by
        simp [Concourse.action?, bound]
      rw [Concourse.pushes_of_action acts]
      exact ite_self []
  | act other action =>
    refine (alone _).trans ?_
    rw [Concourse.pushes_of_action rfl]
    have present : (workspace.session.build? ref).isSome =
        (workspace.concourse.chronicles[ref]?).isSome := by
      rw [session, Concourse.build?_session, Option.isSome_map]
    cases action with
    | beside side => cases side <;> simp [routed, present, Action.pushed, SideStep.pushed]
    | _ => simp [routed, Action.pushed]
  | _ => rfl

/-- What operations push on a build is what is routed to it, in order. -/
theorem pushedOn_run (operations : List (Operation σ ρ)) :
    (workspace.run operations).pushedOn ref =
      workspace.pushedOn ref ++ routedOf ref workspace operations := by
  induction operations generalizing workspace with
  | nil => simp [routedOf]
  | cons operation operations ih =>
    rw [run_cons, ih, pushedOn_step, routedOf, List.append_assoc]

/-- Nothing is routed to a build by an operation that asks for a build of another name. -/
theorem routed_of_other (sound : workspace.session.Sound) {build : IncludedBuild σ ρ}
    {target : BuildId} {operation : Operation σ ρ}
    (found : workspace.session.build? ref = some build)
    (asked : target? operation = some target) (other : build.name ≠ target) :
    workspace.routed ref operation = [] := by
  have elsewhere : workspace.concourse.lookup target ≠ some ref := by
    intro bound
    obtain ⟨⟨same, registered⟩, here, rfl⟩ := Option.map_eq_some_iff.mp bound
    obtain ⟨bound, present⟩ := Session.find?_eq_some_iff.mp here
    obtain ⟨named, there, isNamed⟩ := sound.bound target same bound
    obtain rfl : build = named := by simpa [found] using there
    exact other isNamed
  cases operation with
  | request request =>
    cases request with
    | addTask source reference =>
      obtain rfl : reference.build = target := by simpa [target?] using asked
      simp only [routed, elsewhere, if_false]
      split <;> rfl
    | _ => rfl
  | resolve consumer reference =>
    obtain rfl : reference.build = target := by simpa [target?] using asked
    simp only [routed, elsewhere, if_false]
    split <;> rfl
  | _ => simp [target?] at asked

/-! ### What else requests do -/

/-- A request for a task that is refused changes nothing. -/
theorem step_addTask_of_refused (sound : workspace.session.Sound) {source : BuildId}
    {reference : TaskReference} {error : RegistryError}
    (refused : (workspace.session.addTask source reference).value.1 = .error error) :
    workspace.step (.request (.addTask source reference)) = workspace := by
  have idle : workspace.concourse.action? (.request (.addTask source reference)) = none := by
    rw [session] at refused
    simp only [Concourse.action?, refused]
  have same : workspace.concourse.step (.request (.addTask source reference)) =
      workspace.concourse :=
    Concourse.step_request_self (Session.addTask_of_refused sound refused) idle rfl
  simp only [step, turns, Concourse.run_cons, Concourse.run_nil, same]

/-- A reference that is answered so that its build is not registered changes nothing. -/
theorem step_resolve_of_unknown {consumer : Nat} {reference : TaskReference} {build : BuildId}
    (unknown : workspace.resolution consumer reference = some (.error (.unknownBuild build))) :
    workspace.step (.resolve consumer reference) = workspace := by
  obtain ⟨tasks, found, answer⟩ := Option.map_eq_some_iff.mp unknown
  have resolves := workspace.session.resolve_resolves reference tasks
  rw [answer] at resolves
  generalize (workspace.session.resolve BuildTasks.container reference tasks).value.2 = next
    at resolves
  cases resolves with
  | unknown absent =>
    have nowhere : workspace.concourse.lookup reference.build = none :=
      Option.map_eq_none_iff.mpr absent
    have kept : (workspace.step (.resolve consumer reference)).taskSets = workspace.taskSets := by
      refine modify_eq_self fun other there => ?_
      obtain rfl : tasks = other := by simpa [found] using there
      rw [answer]
    have same : workspace.concourse.run (workspace.turns (.resolve consumer reference)) =
        workspace.concourse := by
      simp only [turns, found, Concourse.run_cons, Concourse.run_nil]
      exact Concourse.step_resolve_of_unknown nowhere _
    exact Workspace.ext same kept

/-- A task that is granted makes its build a target of the source, the last one if it is new, and
leaves the targets of every other build alone. -/
theorem dependenciesOf_step_addTask (sound : workspace.session.Sound) {source : BuildId}
    {reference : TaskReference}
    (granted : (workspace.session.addTask source reference).value.1 = .ok ()) (build : BuildId) :
    (workspace.step (.request (.addTask source reference))).session.dependenciesOf build =
      if source = build ∧ reference.build ∉ workspace.session.dependenciesOf source then
        workspace.session.dependenciesOf source ++ [reference.build]
      else workspace.session.dependenciesOf build := by
  rw [session_addTask sound]
  rcases Session.addTask_cases sound source reference with
    ⟨-, answer⟩ | ⟨-, -, answer⟩ | ⟨-, -, -, chain, answer⟩ | ⟨-, -, ref, target, -, -, answer⟩
  · simp [answer] at granted
  · simp [answer] at granted
  · simp [answer] at granted
  · rw [answer]
    exact Dependencies.targets_add _ _ _ _

/-- Resolving a reference leaves the registry alone. -/
theorem registry_step_resolve (consumer : Nat) (reference : TaskReference) :
    (workspace.step (.resolve consumer reference)).session.registry =
      workspace.session.registry := by
  simp only [session, step, turns]
  split <;> rfl

/-- What was pushed on a build is what was claimed and, behind it, what is pending. -/
theorem pushedOn_eq {operations : List (Operation σ ρ)} {chronicle : Chronicle σ ρ}
    (found : (({} : Workspace σ ρ).run operations).concourse.chronicles[ref]? = some chronicle) :
    (({} : Workspace σ ρ).run operations).pushedOn ref =
      History.claimed chronicle.callers.history ++ chronicle.callers.build.pending := by
  have pushed : (({} : Workspace σ ρ).run operations).pushedOn ref =
      History.pushed chronicle.callers.history := by
    rw [pushedOn, Concourse.pushedOn, found, Option.elim_some]
  obtain ⟨turns, happened, -⟩ := ({} : Workspace σ ρ).exists_turns operations
  rw [happened] at found
  obtain ⟨name, projectDir, factory, launchers, actions, rfl, -⟩ :=
    Concourse.chronicle_origin found
  obtain ⟨-, -, ledger, -⟩ := Chronicle.coverage_run name projectDir factory launchers actions
  rw [pushed]
  exact ledger.queue

/-- **Requests reach the queue of the right build.**  Whatever has happened to a session, its builds
and the builds that consume it, take any build that was ever made, registered or not.

* What was ever claimed from its queue and, behind it, what is queued now are exactly the paths that
  were routed to it, in order: those of the tasks that were granted, those of the references that
  were resolved or met an action of that name, each if the name stood for the build at that moment,
  and those that were queued on it directly.
* A name stands for a build of that name, and an operation that asks for a build of another name
  pushes nothing on it.
* A task that is refused, and a reference whose build is not registered, change nothing at all.
* A task that is granted makes its build a target of the source, the last one if it is new, and
  leaves the targets of all other builds alone.
* Resolving a reference leaves the registry alone, its phase and its dependencies included.
* A request for a task, a reference that is resolved, a build that is included or registered and
  paths that are queued leave the session exactly as the session itself does when it is asked. -/
theorem requests_reach_their_builds (operations : List (Operation σ ρ)) :
    let workspace := ({} : Workspace σ ρ).run operations
    let session := workspace.session
    (∀ ref chronicle, workspace.concourse.chronicles[ref]? = some chronicle →
      History.pushed chronicle.callers.history = routedOf ref {} operations ∧
      History.claimed chronicle.callers.history ++ chronicle.callers.build.pending =
        routedOf ref {} operations) ∧
    (∀ name ref, workspace.concourse.lookup name = some ref →
      ∃ build, session.build? ref = some build ∧ build.name = name) ∧
    (∀ operation ref build target, session.build? ref = some build →
      target? operation = some target → build.name ≠ target →
      (workspace.step operation).pushedOn ref = workspace.pushedOn ref) ∧
    (∀ source reference error, (session.addTask source reference).value.1 = .error error →
      workspace.step (.request (.addTask source reference)) = workspace) ∧
    (∀ consumer reference build,
      workspace.resolution consumer reference = some (.error (.unknownBuild build)) →
      workspace.step (.resolve consumer reference) = workspace) ∧
    (∀ source reference, (session.addTask source reference).value.1 = .ok () →
      let next := (workspace.step (.request (.addTask source reference))).session
      let targets := session.dependenciesOf source
      next.dependenciesOf source =
        (if reference.build ∈ targets then targets else targets ++ [reference.build]) ∧
      ∀ other, other ≠ source → next.dependenciesOf other = session.dependenciesOf other) ∧
    (∀ consumer reference,
      (workspace.step (.resolve consumer reference)).session.registry = session.registry) ∧
    (∀ source reference, (workspace.step (.request (.addTask source reference))).session =
      (session.addTask source reference).value.2) ∧
    (∀ consumer reference tasks, workspace.taskSets[consumer]? = some tasks →
      (workspace.step (.resolve consumer reference)).session =
        (session.resolve BuildTasks.container reference tasks).value.2) ∧
    (∀ name projectDir factory launchers,
      (workspace.step (.includeBuild name projectDir factory launchers)).session =
        (session.includeBuild name projectDir factory launchers).value.2) ∧
    ∀ ref build, session.build? ref = some build →
      (workspace.step (.request (.register ref))).session =
        (session.register ref build).value.2 ∧
      ∀ paths, (workspace.step (.act ref (.beside (.queue paths)))).session =
        session.setBuild ref (build.queue paths).value := by
  intro workspace session
  have sound : session.Sound := sound_run operations
  refine ⟨fun ref chronicle found => ?_, fun name ref bound => ?_,
    fun operation ref build target found asked other => ?_,
    fun source reference error refused => step_addTask_of_refused sound refused,
    fun consumer reference build unknown => step_resolve_of_unknown unknown,
    fun source reference granted => ?_, registry_step_resolve,
    session_addTask sound, fun consumer reference tasks found => session_resolve found reference,
    session_includeBuild sound,
    fun ref build found => ⟨session_register sound found, session_queue found⟩⟩
  · have routed : workspace.pushedOn ref = routedOf ref {} operations := pushedOn_run operations
    refine ⟨?_, (pushedOn_eq found).symm.trans routed⟩
    rw [← routed, pushedOn, Concourse.pushedOn, found, Option.elim_some]
  · obtain ⟨⟨same, registered⟩, here, rfl⟩ := Option.map_eq_some_iff.mp bound
    exact sound.bound name same (Session.find?_eq_some_iff.mp here).1
  · rw [pushedOn_step, routed_of_other sound found asked other, List.append_nil]
  · intro next targets
    refine ⟨?_, fun other different => ?_⟩
    · rw [dependenciesOf_step_addTask sound granted]
      by_cases known : reference.build ∈ targets
      · rw [if_pos known, if_neg fun new => new.2 known]
      · rw [if_neg known, if_pos ⟨rfl, known⟩]
    · rw [dependenciesOf_step_addTask sound granted, if_neg fun new => different new.1.symm]

/-- `lib` is registered anew between two references to it.  Its first build is queued on directly
and swept afterwards, and of two later requests for tasks one would close a cycle and one comes
after the beginning of the execution. -/
def replaced : List (Operation (ScriptedLaunchers Unit) (ScriptedRun Unit)) :=
  let app : BuildId := ⟨"app"⟩
  let lib : BuildId := ⟨"lib"⟩
  let link : TaskPath := { text := ":link", qualified := by decide }
  let verify : TaskPath := { text := ":verify", qualified := by decide }
  let notes : TaskPath := { text := ":notes", qualified := by decide }
  [.includeBuild app "/app" ScriptedLaunchers.factory (.ofProject "app" []),
    .includeBuild lib "/lib" ScriptedLaunchers.factory (.ofProject "lib" []),
    .consume ⟨"site"⟩, .resolve 0 ⟨lib, link⟩,
    .includeBuild lib "/next" ScriptedLaunchers.factory (.ofProject "lib" []),
    .resolve 0 ⟨lib, verify⟩, .request (.addTask app ⟨lib, link⟩),
    .request (.addTask lib ⟨app, link⟩), .act 1 (.beside (.queue [notes])), .act 1 .enter,
    .beginExecution, .request (.addTask app ⟨lib, notes⟩), .resolve 0 ⟨lib, notes⟩]

/-- The first build of `lib` got what was asked for before it was replaced, and what was queued on
it directly; the second one got everything else that was granted or resolved. -/
theorem requests_reach_their_builds_replaced :
    let workspace := ({} : Workspace _ _).run replaced
    (routedOf 1 {} replaced).map (·.text) = [":link", ":notes"] ∧
    (routedOf 2 {} replaced).map (·.text) = [":verify", ":link", ":notes"] ∧
    ∀ ref chronicle, workspace.concourse.chronicles[ref]? = some chronicle →
      History.claimed chronicle.callers.history ++ chronicle.callers.build.pending =
        routedOf ref {} replaced := by
  intro workspace
  refine ⟨by cbv, by cbv, fun ref chronicle found => ?_⟩
  exact ((requests_reach_their_builds replaced).1 ref chronicle found).2

end Workspace

end CompositeBuild
