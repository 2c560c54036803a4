import CompositeBuild.Proofs.Await.Course
import CompositeBuild.Proofs.Registry.Acyclic
import CompositeBuild.Session.Basic

/-!
# Requests to a session

While a composite is configured, builds are made and registered, and tasks of other builds are asked
for, until the configuration is over.  `Session.serve` answers one `Request`, and what a session has
become is given by all requests so far.  Requests that come too late, or ask for what cannot be
granted, are requests as well.

The dependencies of a session are in order, and every name stands for a build of that name
(`Session.Sound`), whatever was requested.  This makes refusals exact: a task is refused for a cycle
exactly if granting it would close one (`Session.refused_iff_cyclic`).

Serving a request goes on from where the session is (`Session.Continues`): builds are neither
removed nor renamed, no sweep begins or ends, and no dependency is forgotten.
-/

namespace CompositeBuild

variable {σ ρ : Type}

/-- Something that a session is asked for while it is configured. -/
inductive Request (σ ρ : Type) where
  /-- Make a build, without registering it. -/
  | make (name : BuildId) (projectDir : String) (factory : LauncherFactory σ ρ) (launchers : σ)
  /-- Register a build under its name. -/
  | register (ref : BuildRef)
  /-- Let a build depend on a task of another. -/
  | addTask (source : BuildId) (reference : TaskReference)
  /-- End the configuration. -/
  | close

namespace Session

variable {session next : Session σ ρ}

/-- Answer a request.  A reference without a build cannot be registered. -/
def serve (session : Session σ ρ) : Request σ ρ → Session σ ρ
  | .make name projectDir factory launchers =>
    (session.addBuild { name, projectDir, factory, launchers }).2
  | .register ref =>
    match session.build? ref with
    | some build => (session.register ref build).value.2
    | none => session
  | .addTask source reference => (session.addTask source reference).value.2
  | .close => session.close.value

/-- The session after some requests. -/
def ofRequests (requests : List (Request σ ρ)) : Session σ ρ := requests.foldl serve {}

/-! ### Going on -/

/-- The session goes on: every build is still there under its name, with a sweep in flight exactly
if there was one, new builds are idle, and every dependency is still there. -/
structure Continues (session next : Session σ ρ) : Prop where
  builds : ∀ ref build, session.build? ref = some build →
    ∃ later, next.build? ref = some later ∧ later.name = build.name ∧
      later.schedule.executing = build.schedule.executing
  idle : ∀ ref build, session.build? ref = none → next.build? ref = some build →
    build.schedule.executing = false
  edges : ∀ source target, session.registry.dependencies.HasEdge source target →
    next.registry.dependencies.HasEdge source target

namespace Continues

/-- A session goes on if nothing but its registry changes, and no dependency is forgotten. -/
theorem of_builds (same : next.builds = session.builds)
    (edges : ∀ source target, session.registry.dependencies.HasEdge source target →
      next.registry.dependencies.HasEdge source target) : Continues session next where
  builds := fun ref build found => ⟨build, by rw [build?, same]; exact found, rfl, rfl⟩
  idle := by
    intro ref build absent found
    rw [build?, same] at found
    rw [build?, found] at absent
    simp at absent
  edges := edges

theorem refl (session : Session σ ρ) : Continues session session :=
  of_builds rfl fun _ _ edge => edge

theorem trans {last : Session σ ρ} (first : Continues session next)
    (second : Continues next last) : Continues session last where
  builds := by
    intro ref build found
    obtain ⟨later, there, name, flag⟩ := first.builds ref build found
    obtain ⟨latest, still, sameName, sameFlag⟩ := second.builds ref later there
    exact ⟨latest, still, sameName.trans name, sameFlag.trans flag⟩
  idle := by
    intro ref build absent found
    cases middle : next.build? ref with
    | none => exact second.idle ref build middle found
    | some later =>
      obtain ⟨latest, still, -, sameFlag⟩ := second.builds ref later middle
      obtain rfl : latest = build := by simpa [still] using found
      rw [sameFlag]
      exact first.idle ref later absent middle
  edges := fun source target edge => second.edges source target (first.edges source target edge)

/-- A session goes on with a new idle build. -/
theorem addBuild (session : Session σ ρ) {build : IncludedBuild σ ρ}
    (idle : build.schedule.executing = false) : Continues session (session.addBuild build).2 where
  builds := by
    intro ref old found
    refine ⟨old, ?_, rfl, rfl⟩
    have inside : ref < session.builds.length := (List.getElem?_eq_some_iff.mp found).1
    have other : (session.addBuild build).1 ≠ ref := Nat.ne_of_gt inside
    rw [build?_addBuild, if_neg other]
    exact found
  idle := by
    intro ref found absent new
    rw [build?_addBuild] at new
    split at new
    · obtain rfl : build = found := by simpa using new
      exact idle
    · rw [absent] at new
      simp at new
  edges := fun _ _ edge => edge

/-- A session goes on with a build that keeps its name and its flag. -/
theorem setBuild {ref : BuildRef} {build later : IncludedBuild σ ρ}
    (found : session.build? ref = some build) (name : later.name = build.name)
    (flag : later.schedule.executing = build.schedule.executing) :
    Continues session (session.setBuild ref later) where
  builds := by
    intro other old there
    rw [build?_setBuild]
    by_cases same : ref = other
    · subst same
      obtain rfl : build = old := by simpa [found] using there
      exact ⟨later, by simp [found], name, flag⟩
    · exact ⟨old, by rw [if_neg same]; exact there, rfl, rfl⟩
  idle := by
    intro other old absent there
    rw [build?_setBuild] at there
    split at there
    · next same => simp [same, absent] at there
    · simp [absent] at there
  edges := fun _ _ edge => edge

end Continues

/-! ### Sessions in order -/

/-- The dependencies are tidy and without cycles, and every registered name stands for a build of
that name. -/
structure Sound (session : Session σ ρ) : Prop where
  tidy : session.registry.dependencies.Tidy
  acyclic : session.registry.dependencies.Acyclic
  bound : ∀ name ref, session.registry.find? name = some ref →
    ∃ build, session.build? ref = some build ∧ build.name = name

namespace Sound

/-- A session without builds is in order. -/
theorem empty : Sound ({} : Session σ ρ) where
  tidy := by
    intro name targets found
    simp at found
  acyclic := by
    intro build cycle
    obtain ⟨next, edge, -⟩ := Relation.TransGen.head'_iff.mp cycle
    simp [Dependencies.HasEdge, Dependencies.targets] at edge
  bound := by
    intro name ref found
    simp [Registry.find?] at found

/-- A session that goes on with the same registry stays in order. -/
theorem continue_of_registry (sound : session.Sound) (goesOn : Continues session next)
    (same : next.registry = session.registry) : next.Sound where
  tidy := same ▸ sound.tidy
  acyclic := same ▸ sound.acyclic
  bound := by
    intro name ref found
    rw [same] at found
    obtain ⟨build, there, named⟩ := sound.bound name ref found
    obtain ⟨later, still, sameName, -⟩ := goesOn.builds ref build there
    exact ⟨later, still, sameName.trans named⟩

end Sound

/-! ### What requests do -/

/-- The session with one more dependency. -/
def addEdge (session : Session σ ρ) (source target : BuildId) : Session σ ρ :=
  { session with registry := { session.registry with
      dependencies := session.registry.dependencies.add source target } }

/-- A session goes on with one more dependency. -/
theorem Continues.addEdge (session : Session σ ρ) (source target : BuildId) :
    Continues session (session.addEdge source target) :=
  .of_builds rfl fun _ _ edge => Dependencies.hasEdge_add.mpr (.inr edge)

/-- The end of the configuration changes nothing but the registry. -/
theorem close_value (session : Session σ ρ) :
    session.close.value = { session with registry := session.registry.close } := by
  unfold close
  cases session.isConfiguring <;> rfl

/-- No build is registered after the configuration. -/
theorem register_of_closed (closed : session.registry.closed = true) (ref : BuildRef)
    (build : IncludedBuild σ ρ) :
    (session.register ref build).value =
      (.error (.configurationClosed .registerBuild), session) := by
  simp [register, Registry.register, closed]

/-- During the configuration a build that is registered is what its name stands for from then on,
and nothing else changes. -/
theorem register_of_open (opened : session.registry.closed = false) (ref : BuildRef)
    (build : IncludedBuild σ ρ) :
    (session.register ref build).value =
      (.ok (), { session with registry := { session.registry with
        builds := session.registry.builds.insert build.name.text ref } }) := by
  simp only [register, Registry.register, opened, Bool.false_eq_true, if_false]
  split <;> rfl

/-- Registering a build changes at most what its name stands for, and that only during the
configuration. -/
theorem register_cases (session : Session σ ρ) (ref : BuildRef) (build : IncludedBuild σ ρ) :
    (session.register ref build).value.2 = session ∨
      (session.register ref build).value.2 =
        { session with registry := { session.registry with
            builds := session.registry.builds.insert build.name.text ref } } := by
  cases phase : session.registry.closed with
  | true => exact .inl (congrArg Prod.snd (register_of_closed phase ref build))
  | false => exact .inr (congrArg Prod.snd (register_of_open phase ref build))

/-- A request for a task is refused after the configuration, for a target that is not registered,
and if the source can be reached from the target, and changes nothing then.  Any other request is
granted: the source depends on the target from then on, and the task is queued on the build that the
name of the target stands for. -/
theorem addTask_cases (sound : session.Sound) (source : BuildId) (reference : TaskReference) :
    let target := reference.build
    (session.registry.closed = true ∧
      (session.addTask source reference).value =
        (.error (.configurationClosed .addTask), session)) ∨
    (session.registry.closed = false ∧ session.registry.find? target = none ∧
      (session.addTask source reference).value = (.error (.unknownBuild target), session)) ∨
    (session.registry.closed = false ∧
      Relation.ReflTransGen session.registry.dependencies.HasEdge target source ∧
      (∃ ref, session.registry.find? target = some ref) ∧
      ∃ chain, (session.addTask source reference).value = (.error (.cycle chain), session)) ∨
    (session.registry.closed = false ∧
      ¬Relation.ReflTransGen session.registry.dependencies.HasEdge target source ∧
      ∃ ref build, session.registry.find? target = some ref ∧ session.build? ref = some build ∧
        (session.addTask source reference).value =
          (.ok (), (session.addEdge source target).setBuild ref
            (build.queue [reference.path]).value)) := by
  intro target
  rcases Registry.addDependency_cases sound.tidy source target with
    ⟨closed, answer⟩ | ⟨opened, absent, answer⟩ | ⟨opened, reachable, found, chain, answer⟩ |
      ⟨opened, unreachable, ref, found, answer⟩
  · exact .inl ⟨closed, by simp [addTask, target, answer]⟩
  · exact .inr (.inl ⟨opened, absent, by simp [addTask, target, answer]⟩)
  · exact .inr (.inr (.inl ⟨opened, reachable, found, chain, by simp [addTask, target, answer]⟩))
  · obtain ⟨build, there, -⟩ := sound.bound target ref found
    refine .inr (.inr (.inr ⟨opened, unreachable, ref, build, found, there, ?_⟩))
    have same : (session.addEdge source target).build? ref = some build := there
    simp only [addEdge] at same ⊢
    simp [addTask, target, answer, same]

/-- A session goes on with every request. -/
theorem serve_continues (sound : session.Sound) (request : Request σ ρ) :
    Continues session (session.serve request) := by
  cases request with
  | make name projectDir factory launchers => exact .addBuild session rfl
  | register ref =>
    simp only [serve]
    split
    · next build found =>
      rcases session.register_cases ref build with same | bound
      · rw [same]
        exact .refl session
      · rw [bound]
        exact .of_builds rfl fun _ _ edge => edge
    · exact .refl session
  | addTask source reference =>
    simp only [serve]
    rcases addTask_cases sound source reference with
      ⟨-, answer⟩ | ⟨-, -, answer⟩ | ⟨-, -, -, chain, answer⟩ | ⟨-, -, ref, build, -, there, answer⟩
    · rw [answer]
      exact .refl session
    · rw [answer]
      exact .refl session
    · rw [answer]
      exact .refl session
    · rw [answer]
      have same : (session.addEdge source reference.build).build? ref = some build := there
      exact (Continues.addEdge session source reference.build).trans (.setBuild same rfl rfl)
  | close =>
    simp only [serve, close_value]
    exact .of_builds rfl fun _ _ edge => edge

namespace Sound

/-- Every request leaves a session in order. -/
theorem serve (sound : session.Sound) (request : Request σ ρ) : (session.serve request).Sound := by
  cases request with
  | make name projectDir factory launchers =>
    exact sound.continue_of_registry (.addBuild session rfl) rfl
  | register ref =>
    simp only [Session.serve]
    split
    · next build found =>
      rcases session.register_cases ref build with same | registered
      · rw [same]
        exact sound
      · rw [registered]
        refine ⟨sound.tidy, sound.acyclic, fun name other bound => ?_⟩
        rw [Registry.find?, NameMap.get?_insert] at bound
        split at bound
        · next named =>
          obtain rfl : ref = other := by simpa using bound
          exact ⟨build, found, Dependencies.text_inj.mp named⟩
        · exact sound.bound name other bound
    · exact sound
  | addTask source reference =>
    simp only [Session.serve]
    rcases addTask_cases sound source reference with
      ⟨-, answer⟩ | ⟨-, -, answer⟩ | ⟨-, -, -, chain, answer⟩ |
        ⟨-, unreachable, ref, build, -, there, answer⟩
    · rw [answer]
      exact sound
    · rw [answer]
      exact sound
    · rw [answer]
      exact sound
    · rw [answer]
      have extended : (session.addEdge source reference.build).Sound :=
        ⟨sound.tidy.add source reference.build, sound.acyclic.add_iff.mpr unreachable, sound.bound⟩
      have same : (session.addEdge source reference.build).build? ref = some build := there
      exact extended.continue_of_registry (.setBuild same rfl rfl) rfl
  | close =>
    simp only [Session.serve, close_value]
    exact ⟨sound.tidy, sound.acyclic, sound.bound⟩

/-- Every session is in order, whatever was requested. -/
theorem ofRequests (requests : List (Request σ ρ)) : (ofRequests requests).Sound :=
  requests.foldlRecOn Session.serve .empty fun _ sound request _ => sound.serve request

end Sound

/-! ### Refusals -/

/-- **Tasks are refused for a cycle exactly if they close one.**  Whatever was requested of a
session, its dependencies have no cycle, no build is listed without targets or with a repeated one,
and the answer to a request for a task is this: after the configuration it is refused for that
reason; else for a target that is not registered; else for a cycle exactly if the source can be
reached from the target, which is to say, if the edge would close a cycle; else it is granted.  A
task of a build that the source depends on already is always granted. -/
theorem refused_iff_cyclic (requests : List (Request σ ρ)) :
    let session := ofRequests requests
    let dependencies := session.registry.dependencies
    (∀ build, ¬Relation.TransGen dependencies.HasEdge build build) ∧
    (∀ name targets, dependencies.edges.get? name = some targets →
      targets ≠ [] ∧ targets.Nodup) ∧
    ∀ source reference,
      let answer := (session.addTask source reference).value.1
      let target := reference.build
      (session.registry.closed = true → answer = .error (.configurationClosed .addTask)) ∧
      (session.registry.closed = false → session.registry.find? target = none →
        answer = .error (.unknownBuild target)) ∧
      (session.registry.closed = false → (session.registry.find? target).isSome →
        ((∃ chain, answer = .error (.cycle chain)) ↔
          Relation.ReflTransGen dependencies.HasEdge target source) ∧
        ((∃ chain, answer = .error (.cycle chain)) ↔
          ∃ build, Relation.TransGen (dependencies.add source target).HasEdge build build) ∧
        (¬Relation.ReflTransGen dependencies.HasEdge target source → answer = .ok ()) ∧
        (dependencies.HasEdge source target → answer = .ok ())) := by
  intro session dependencies
  have sound : session.Sound := .ofRequests requests
  refine ⟨sound.acyclic, sound.tidy, fun source reference => ?_⟩
  intro answer target
  have cyclic : (∃ build, Relation.TransGen (dependencies.add source target).HasEdge build build) ↔
      Relation.ReflTransGen dependencies.HasEdge target source := by
    have extended : (dependencies.add source target).Acyclic ↔
        ¬Relation.ReflTransGen dependencies.HasEdge target source := sound.acyclic.add_iff
    simpa [Dependencies.Acyclic] using not_congr extended
  rw [cyclic]
  rcases addTask_cases sound source reference with
    ⟨closed, given⟩ | ⟨opened, absent, given⟩ | ⟨opened, reachable, ⟨ref, found⟩, chain, given⟩ |
      ⟨opened, unreachable, ref, build, found, -, given⟩
  · have refused : answer = .error (.configurationClosed .addTask) := congrArg Prod.fst given
    simp [closed, refused]
  · have refused : answer = .error (.unknownBuild target) := congrArg Prod.fst given
    simp [target, opened, absent, refused]
  · have refused : answer = .error (.cycle chain) := congrArg Prod.fst given
    have new : ¬dependencies.HasEdge source target := fun edge =>
      sound.acyclic.unreachable_of_hasEdge edge reachable
    simp [target, opened, found, refused, reachable, new, dependencies]
  · have granted : answer = .ok () := congrArg Prod.fst given
    simp [target, opened, found, granted, unreachable, dependencies]

end Session

end CompositeBuild
