import CompositeBuild.Proofs.Session.Closing

/-!
# What the answers to requests for tasks depend on

Whether a task is granted, and why not, depends on the phase of the composite, on its dependencies
and on which names are bound, but not on the builds that the names stand for
(`Registry.Alike.addDependency`).

Two workspaces are alike if they agree in this and have builds of the same names in the same places
(`Workspace.Alike`).  Whatever happens to both of them, they stay alike (`Workspace.Alike.run`), and
so they answer every later request for a task in the same way.
-/

namespace CompositeBuild

variable {σ ρ : Type}

/-! ### Registries -/

namespace Registry

variable {left right : Registry}

/-- Bind a name to a build, whatever the phase. -/
def bind (registry : Registry) (name : BuildId) (ref : BuildRef) : Registry :=
  { registry with builds := registry.builds.insert name.text ref }

/-- A binding is found under its own name and hides nothing under another one. -/
theorem find?_bind (registry : Registry) (name : BuildId) (ref : BuildRef) (sought : BuildId) :
    (registry.bind name ref).find? sought =
      if name = sought then some ref else registry.find? sought := by
  rw [find?, bind, NameMap.get?_insert]
  simp only [Dependencies.text_inj]
  rfl

/-- Registries are alike if they have the same phase and the same dependencies, and bind the same
names. -/
structure Alike (left right : Registry) : Prop where
  closed : left.closed = right.closed
  dependencies : left.dependencies = right.dependencies
  known : ∀ name, (left.find? name).isSome = (right.find? name).isSome

namespace Alike

/-- The end of the configuration keeps registries alike. -/
theorem close (alike : left.Alike right) : left.close.Alike right.close :=
  ⟨rfl, alike.dependencies, alike.known⟩

/-- Binding a name keeps registries alike, whatever it is bound to. -/
theorem bind (alike : left.Alike right) (name : BuildId) (ref other : BuildRef) :
    (left.bind name ref).Alike (right.bind name other) where
  closed := alike.closed
  dependencies := alike.dependencies
  known sought := by
    rw [find?_bind, find?_bind]
    split
    · rfl
    · exact alike.known sought

/-- Binding a name to something else leaves a registry alike. -/
theorem of_bound {registry : Registry} {name : BuildId} {before : BuildRef}
    (bound : registry.find? name = some before) (ref : BuildRef) :
    (registry.bind name ref).Alike registry where
  closed := rfl
  dependencies := rfl
  known sought := by
    rw [find?_bind]
    split
    · next same => rw [← same, bound]; rfl
    · rfl

/-- Alike registries grant the same dependencies, refuse others for the same reasons, and stay
alike. -/
theorem addDependency (alike : left.Alike right) (source target : BuildId) :
    ((left.addDependency source target).1.map fun _ => ()) =
        ((right.addDependency source target).1.map fun _ => ()) ∧
      (left.addDependency source target).2.Alike (right.addDependency source target).2 := by
  have known := alike.known target
  simp only [Registry.addDependency, alike.closed, alike.dependencies]
  split
  · exact ⟨rfl, alike⟩
  · cases here : left.find? target with
    | none =>
      rw [here] at known
      rw [Option.isSome_eq_false_iff.mp known.symm |> Option.isNone_iff_eq_none.mp]
      exact ⟨rfl, alike⟩
    | some ref =>
      rw [here] at known
      obtain ⟨other, there⟩ := Option.isSome_iff_exists.mp known.symm
      rw [there]
      simp only
      split
      · exact ⟨rfl, ⟨rfl, rfl, alike.known⟩⟩
      · exact ⟨rfl, ⟨rfl, rfl, alike.known⟩⟩

end Alike

end Registry

/-! ### Sessions -/

namespace Session

variable {session : Session σ ρ}

/-- A request for a task does to the registry what the registry does. -/
theorem addTask_registry (session : Session σ ρ) (source : BuildId) (reference : TaskReference) :
    (session.addTask source reference).value.2.registry =
      (session.registry.addDependency source reference.build).2 := by
  simp only [addTask]
  split
  · rfl
  · rfl
  · simp only [Logged.bind_value]
    split <;> rfl

/-- A request for a task is answered as the registry answers it. -/
theorem addTask_answer (sound : session.Sound) (source : BuildId) (reference : TaskReference) :
    (session.addTask source reference).value.1 =
      (session.registry.addDependency source reference.build).1.map fun _ => () := by
  rcases Registry.addDependency_cases sound.tidy source reference.build with
    ⟨-, answer⟩ | ⟨-, -, answer⟩ | ⟨-, -, -, chain, answer⟩ | ⟨-, -, ref, bound, answer⟩
  · simp [addTask, answer, Except.map]
  · simp [addTask, answer, Except.map]
  · simp [addTask, answer, Except.map]
  · obtain ⟨build, found, -⟩ := sound.bound reference.build ref bound
    have same : (session.addEdge source reference.build).build? ref = some build := found
    simp only [addEdge] at same
    simp [addTask, answer, same, Except.map]

/-- What a request does to the registry depends on it, and on how builds are called. -/
theorem serve_alike {left right : Session σ ρ}
    (names : left.builds.map (·.name) = right.builds.map (·.name))
    (alike : left.registry.Alike right.registry) (request : Request σ ρ) :
    (left.serve request).registry.Alike (right.serve request).registry := by
  cases request with
  | make name projectDir factory launchers => exact alike
  | register ref =>
    have named : (left.build? ref).map (·.name) = (right.build? ref).map (·.name) := by
      simp only [build?, ← List.getElem?_map, names]
    simp only [serve]
    cases here : left.build? ref with
    | none =>
      cases there : right.build? ref with
      | none => exact alike
      | some other => simp [here, there] at named
    | some build =>
      cases there : right.build? ref with
      | none => simp [here, there] at named
      | some other =>
        have same : build.name = other.name := by simpa [here, there] using named
        cases phase : right.registry.closed with
        | true =>
          simp only [register_of_closed phase, register_of_closed (alike.closed.trans phase)]
          exact alike
        | false =>
          simp only [register_of_open phase, register_of_open (alike.closed.trans phase), same]
          exact alike.bind other.name ref ref
  | addTask source reference =>
    simp only [serve, addTask_registry]
    exact (alike.addDependency source reference.build).2
  | close =>
    simp only [serve, close_value]
    exact alike.close

end Session

/-! ### Builds and their names -/

/-- An action renames no build. -/
theorem Concourse.names_act (concourse : Concourse σ ρ) (ref : BuildRef) (action : Action σ) :
    (concourse.act ref action).chronicles.map (·.callers.build.name) =
      concourse.chronicles.map (·.callers.build.name) := by
  cases found : concourse.chronicles[ref]? with
  | none => simp only [act, found]
  | some chronicle =>
    obtain ⟨inside, there⟩ := List.getElem?_eq_some_iff.mp found
    have named : (chronicle.step action).callers.build.name = chronicle.callers.build.name :=
      chronicle.callers.step_name action
    simp only [act, found, List.map_set, named]
    refine List.ext_getElem? fun other => ?_
    rw [List.getElem?_set]
    split
    · next same =>
      subst same
      simp [inside, there]
    · rfl

/-- A turn renames no build, and the one that it makes comes last. -/
theorem Concourse.names_step (concourse : Concourse σ ρ) (turn : Turn σ ρ) :
    (concourse.step turn).chronicles.map (·.callers.build.name) =
      concourse.chronicles.map (·.callers.build.name) ++
        (made? turn).toList.map (·.callers.build.name) := by
  simp only [step, List.map_append]
  split
  · rw [names_act]
  · rfl

/-- Turns rename no build, and those that they make come last. -/
theorem Concourse.names_run (concourse : Concourse σ ρ) (turns : List (Turn σ ρ)) :
    (concourse.run turns).chronicles.map (·.callers.build.name) =
      concourse.chronicles.map (·.callers.build.name) ++
        (turns.filterMap made?).map (·.callers.build.name) := by
  induction turns generalizing concourse with
  | nil => simp
  | cons turn turns ih =>
    rw [run_cons, ih, names_step, List.append_assoc, ← List.map_append]
    cases made : made? turn <;> simp [made]

/-- Settling rules makes no build. -/
theorem Session.made_settleTurns (refs : List BuildRef) (session : Session σ ρ) :
    (settleTurns refs session).filterMap Concourse.made? = [] := by
  induction refs generalizing session with
  | nil => rfl
  | cons ref refs ih =>
    unfold settleTurns
    split
    · exact ih session
    · rw [List.filterMap_cons_none rfl]
      split
      · exact ih _
      · rfl

/-! ### Workspaces -/

namespace Workspace

variable {workspace left right : Workspace σ ρ}

/-- Workspaces are alike if their registries are, and builds in the same places have the same
names. -/
structure Alike (left right : Workspace σ ρ) : Prop where
  names : left.session.builds.map (·.name) = right.session.builds.map (·.name)
  registry : left.session.registry.Alike right.session.registry

/-- What an operation does to the registry. -/
theorem registry_step (sound : workspace.session.Sound) (operation : Operation σ ρ) :
    (workspace.step operation).session.registry =
      match operation with
      | .request request => (workspace.session.serve request).registry
      | .includeBuild name .. =>
        if workspace.session.registry.closed then workspace.session.registry
        else workspace.session.registry.bind name workspace.session.builds.length
      | .beginExecution => workspace.session.registry.close
      | _ => workspace.session.registry := by
  cases operation with
  | includeBuild name projectDir factory launchers =>
    rw [session_includeBuild sound]
    cases phase : workspace.session.registry.closed with
    | true => simp only [Session.includeBuild_of_closed _ phase, if_true]
    | false => simp [Session.includeBuild_of_open _ phase, Registry.bind]
  | beginExecution => exact registry_step_of_ends sound (.inr rfl)
  | resolve consumer reference => exact registry_step_resolve consumer reference
  | _ => rfl

namespace Alike

/-- An operation makes the same builds in workspaces that are alike. -/
theorem made_turns (alike : Alike left right) (operation : Operation σ ρ) :
    (left.turns operation).filterMap Concourse.made? =
      (right.turns operation).filterMap Concourse.made? := by
  cases operation with
  | includeBuild name projectDir factory launchers =>
    have phase := alike.registry.closed
    cases closed : right.session.registry.closed <;>
      simp [turns, Session.isConfiguring, phase, closed, Concourse.made?, List.filterMap_cons]
  | beginExecution =>
    exact (Session.made_settleTurns _ _).trans (Session.made_settleTurns _ _).symm
  | resolve consumer reference =>
    have nothing (workspace : Workspace σ ρ) :
        (workspace.turns (.resolve consumer reference)).filterMap Concourse.made? = [] := by
      simp only [turns]
      split <;> rfl
    rw [nothing, nothing]
  | _ => rfl

/-- An operation keeps workspaces alike. -/
theorem step (alike : Alike left right) (leftSound : left.session.Sound)
    (rightSound : right.session.Sound) (operation : Operation σ ρ) :
    Alike (left.step operation) (right.step operation) where
  names := by
    have names := alike.names
    simp only [session, Concourse.session, List.map_map] at names ⊢
    simp only [Workspace.step]
    refine (left.concourse.names_run _).trans (.trans ?_ (right.concourse.names_run _).symm)
    rw [alike.made_turns]
    exact congrArg (· ++ _) names
  registry := by
    rw [registry_step leftSound, registry_step rightSound]
    cases operation with
    | request request => exact Session.serve_alike alike.names alike.registry request
    | includeBuild name projectDir factory launchers =>
      simp only [alike.registry.closed]
      split
      · exact alike.registry
      · exact alike.registry.bind name _ _
    | beginExecution => exact alike.registry.close
    | _ => exact alike.registry

/-- Operations keep workspaces alike. -/
theorem run (alike : Alike left right) (leftSound : left.session.Sound)
    (rightSound : right.session.Sound) (operations : List (Operation σ ρ)) :
    Alike (left.run operations) (right.run operations) := by
  induction operations generalizing left right with
  | nil => exact alike
  | cons operation operations ih =>
    exact ih (alike.step leftSound rightSound operation) (sound_step leftSound operation)
      (sound_step rightSound operation)

/-- Workspaces that are alike answer requests for tasks alike. -/
theorem addTask (alike : Alike left right) (leftSound : left.session.Sound)
    (rightSound : right.session.Sound) (source : BuildId) (reference : TaskReference) :
    (left.session.addTask source reference).value.1 =
      (right.session.addTask source reference).value.1 := by
  rw [Session.addTask_answer leftSound, Session.addTask_answer rightSound]
  exact (alike.registry.addDependency source reference.build).1

end Alike

end Workspace

end CompositeBuild
