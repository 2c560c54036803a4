import CompositeBuild.Proofs.Session.Starting
import CompositeBuild.Proofs.Session.Verdicts

/-!
# What names stand for

Builds are registered one after the other, some of them under names that were bound before, and some
registrations are refused.  A name stands for the build that was registered last under it, and these
builds are the ones that are listed (`Workspace.last_registration_wins`).

A registration that is accepted binds a name, and does nothing else
(`Workspace.step_of_registration`).  What refers to builds by name, such as a delegate, is about the
new build from then on; what refers to a build by itself, such as its callers, is still about the
old one.  Dependencies are between names, so they do not notice.
-/

namespace CompositeBuild

variable {σ ρ : Type}

/-! ### Last registrations -/

/-- The last of the registrations under a name is that of a build. -/
def IsLastRegistration (registrations : List (BuildId × BuildRef)) (name : BuildId)
    (ref : BuildRef) : Prop :=
  ∃ before after, registrations = before ++ (name, ref) :: after ∧ ∀ entry ∈ after, entry.1 ≠ name

namespace IsLastRegistration

variable {registrations : List (BuildId × BuildRef)} {name other : BuildId} {ref place : BuildRef}

/-- One more registration is the last one under its name, and changes nothing under another one. -/
theorem concat_iff : IsLastRegistration (registrations ++ [(other, place)]) name ref ↔
    if other = name then place = ref else IsLastRegistration registrations name ref := by
  constructor
  · rintro ⟨before, after, split, last⟩
    rcases List.eq_nil_or_concat after with rfl | ⟨after, final, rfl⟩
    · obtain ⟨-, same⟩ := List.append_inj' split rfl
      obtain ⟨rfl, rfl⟩ : other = name ∧ place = ref := by simpa using same
      simp
    · rw [List.concat_eq_append, ← List.cons_append, ← List.append_assoc] at split
      obtain ⟨rest, same⟩ := List.append_inj' split rfl
      obtain rfl : (other, place) = final := by simpa using same
      have different : other ≠ name := last (other, place) (by simp)
      rw [if_neg different]
      exact ⟨before, after, rest, fun entry member => last entry (by simp [member])⟩
  · split
    · next same =>
      rintro rfl
      exact ⟨registrations, [], by rw [same], by simp⟩
    · next different =>
      rintro ⟨before, after, rfl, last⟩
      refine ⟨before, after ++ [(other, place)], by simp, fun entry member => ?_⟩
      rcases List.mem_append.mp member with earlier | final
      · exact last entry earlier
      · rw [List.mem_singleton.mp final]
        exact different

/-- There is a last registration under a name exactly if there is any. -/
theorem exists_iff :
    (∃ ref, IsLastRegistration registrations name ref) ↔ name ∈ registrations.map (·.1) := by
  induction registrations using List.reverseRecOn with
  | nil => simp [IsLastRegistration]
  | append_singleton registrations entry ih =>
    obtain ⟨other, place⟩ := entry
    simp only [concat_iff, List.map_append, List.mem_append, ← ih]
    by_cases same : other = name
    · simp [same]
    · simp [same, Ne.symm same]

end IsLastRegistration

/-- A request for a task binds no name. -/
theorem Registry.find?_addDependency (registry : Registry) (source target sought : BuildId) :
    (registry.addDependency source target).2.find? sought = registry.find? sought := by
  unfold addDependency
  split
  · rfl
  · split
    · rfl
    · simp only
      split <;> rfl

namespace Workspace

variable {workspace : Workspace σ ρ}

/-! ### Registrations -/

/-- The registration that an operation is, if it is one and is accepted. -/
def registration (workspace : Workspace σ ρ) : Operation σ ρ → Option (BuildId × BuildRef)
  | .request (.register ref) =>
    match workspace.session.build? ref with
    | some build =>
      match (workspace.session.register ref build).value.1 with
      | .ok () => some (build.name, ref)
      | .error _ => none
    | none => none
  | .includeBuild name projectDir factory launchers =>
    match (workspace.session.includeBuild name projectDir factory launchers).value.1 with
    | .ok ref => some (name, ref)
    | .error _ => none
  | _ => none

/-- No registration is accepted after the configuration. -/
theorem registration_of_closed (closed : workspace.session.registry.closed = true)
    (operation : Operation σ ρ) : workspace.registration operation = none := by
  unfold registration
  split
  · split
    · simp [Session.register_of_closed closed]
    · rfl
  · simp [Session.includeBuild_of_closed _ closed]
  · rfl

/-- The registrations that are accepted, one after the other. -/
def registrationsOf : Workspace σ ρ → List (Operation σ ρ) → List (BuildId × BuildRef)
  | _, [] => []
  | workspace, operation :: operations =>
    (workspace.registration operation).toList ++
      registrationsOf (workspace.step operation) operations

/-- The registrations that are accepted first and those that are accepted then. -/
theorem registrationsOf_append (first second : List (Operation σ ρ)) :
    registrationsOf workspace (first ++ second) =
      registrationsOf workspace first ++ registrationsOf (workspace.run first) second := by
  induction first generalizing workspace with
  | nil => rfl
  | cons operation first ih =>
    rw [List.cons_append, registrationsOf, registrationsOf, ih, List.append_assoc]
    rfl

/-- Take new builds into a workspace, and do nothing else. -/
def add (workspace : Workspace σ ρ) (new : List (Chronicle σ ρ)) : Workspace σ ρ :=
  { workspace with
    concourse := { workspace.concourse with
      chronicles := workspace.concourse.chronicles ++ new } }

/-- Bind a name to a build, and do nothing else. -/
def bind (workspace : Workspace σ ρ) (name : BuildId) (ref : BuildRef) : Workspace σ ρ :=
  { workspace with
    concourse := { workspace.concourse with
      registry := workspace.concourse.registry.bind name ref } }

/-- While a composite is configured, registering a build binds its name, and nothing else
changes. -/
theorem step_register_of_open (opened : workspace.session.registry.closed = false) {ref : BuildRef}
    {build : IncludedBuild σ ρ} (found : workspace.session.build? ref = some build) :
    workspace.step (.request (.register ref)) = workspace.bind build.name ref := by
  have served : (workspace.session.serve (.register ref)).registry =
      workspace.session.registry.bind build.name ref := by
    simp only [Session.serve, found, Session.register_of_open opened]
    rfl
  have registry : (workspace.concourse.session.serve (.register ref)).registry =
      workspace.concourse.registry.bind build.name ref := served
  simp only [step, turns, Concourse.run_cons, Concourse.run_nil, Concourse.step, registry, bind,
    Concourse.action?, Concourse.made?, Option.toList_none, List.append_nil]

/-- While a composite is configured, including a build makes and registers it. -/
theorem step_includeBuild_of_open (opened : workspace.session.registry.closed = false)
    (name : BuildId) (projectDir : String) (factory : LauncherFactory σ ρ) (launchers : σ) :
    workspace.step (.includeBuild name projectDir factory launchers) =
      (workspace.step (.request (.make name projectDir (factory.traced name) launchers))).step
        (.request (.register workspace.session.builds.length)) := by
  have count : workspace.concourse.chronicles.length = workspace.session.builds.length :=
    (List.length_map _).symm
  simp [step, turns, Session.isConfiguring, opened, count]

end Workspace

/-- The builds that an operation makes, if it is not refused. -/
def Operation.makes : Operation σ ρ → List (Chronicle σ ρ)
  | .request (.make name projectDir factory launchers) =>
    [.start name projectDir factory launchers]
  | .includeBuild name projectDir factory launchers =>
    [.start name projectDir (factory.traced name) launchers]
  | _ => []

/-- What an operation is if it registers nothing.  A build that is included is still made. -/
def Operation.unregistered : Operation σ ρ → List (Operation σ ρ)
  | .request (.register _) => []
  | .includeBuild name projectDir factory launchers =>
    [.request (.make name projectDir (factory.traced name) launchers)]
  | operation => [operation]

namespace Workspace

variable {workspace : Workspace σ ρ} {operation : Operation σ ρ} {name : BuildId} {ref : BuildRef}

/-- A registration that is accepted binds the name of a build that is there, and does nothing
else. -/
theorem step_of_registration (accepted : workspace.registration operation = some (name, ref)) :
    workspace.session.registry.closed = false ∧
    workspace.run operation.unregistered = workspace.add operation.makes ∧
    workspace.step operation = (workspace.add operation.makes).bind name ref ∧
    ∃ chronicle, (workspace.concourse.chronicles ++ operation.makes)[ref]? = some chronicle ∧
      chronicle.callers.build.name = name := by
  cases phase : workspace.session.registry.closed with
  | true =>
    rw [registration_of_closed phase] at accepted
    cases accepted
  | false =>
    unfold registration at accepted
    split at accepted
    · next place =>
      split at accepted
      · next build found =>
        simp only [Session.register_of_open phase, Option.some.injEq, Prod.mk.injEq] at accepted
        obtain ⟨rfl, rfl⟩ := accepted
        obtain ⟨chronicle, there, rfl⟩ := Concourse.exists_chronicle found
        have same : workspace.add [] = workspace := by simp only [add, List.append_nil]
        refine ⟨rfl, same.symm, ?_, chronicle, by simpa [Operation.makes] using there, rfl⟩
        rw [step_register_of_open phase found]
        exact congrArg (bind · _ place) same.symm
      · cases accepted
    · next title projectDir factory launchers =>
      simp only [Session.includeBuild_of_open _ phase, Option.some.injEq, Prod.mk.injEq] at accepted
      obtain ⟨rfl, rfl⟩ := accepted
      let new : Chronicle σ ρ := .start title projectDir (factory.traced title) launchers
      have count : workspace.session.builds.length = workspace.concourse.chronicles.length :=
        List.length_map _
      have last : (workspace.concourse.chronicles ++ [new])[workspace.session.builds.length]? =
          some new := by rw [count, List.getElem?_concat_length]
      have made : workspace.step
          (.request (.make title projectDir (factory.traced title) launchers)) =
          workspace.add [new] := rfl
      refine ⟨rfl, made, ?_, new, last, rfl⟩
      have there : (workspace.add [new]).session.build? workspace.session.builds.length =
          some new.callers.build := by
        rw [session, Concourse.build?_session]
        exact congrArg (Option.map _) last
      have opened : (workspace.add [new]).session.registry.closed = false := phase
      rw [step_includeBuild_of_open phase, made]
      exact step_register_of_open opened there
    · cases accepted

/-- An operation that is no registration, or is refused, leaves all bindings alone. -/
theorem find?_step_of_none (sound : workspace.session.Sound)
    (none : workspace.registration operation = none) (sought : BuildId) :
    (workspace.step operation).session.registry.find? sought =
      workspace.session.registry.find? sought := by
  rw [registry_step sound]
  cases operation with
  | request request =>
    cases request with
    | register place =>
      simp only [registration] at none
      simp only [Session.serve]
      split
      · next build found =>
        cases phase : workspace.session.registry.closed with
        | true => rw [Session.register_of_closed phase]
        | false => simp [found, Session.register_of_open phase] at none
      · rfl
    | addTask source reference =>
      simp only [Session.serve, Session.addTask_registry]
      exact Registry.find?_addDependency _ _ _ sought
    | close =>
      simp only [Session.serve, Session.close_value]
      rfl
    | make => rfl
  | includeBuild title projectDir factory launchers =>
    cases phase : workspace.session.registry.closed with
    | true => simp only [if_true]
    | false => simp [registration, Session.includeBuild_of_open _ phase] at none
  | _ => rfl

/-- A registration that is accepted changes what its own name stands for. -/
theorem find?_step_of_registration
    (accepted : workspace.registration operation = some (name, ref)) (sought : BuildId) :
    (workspace.step operation).session.registry.find? sought =
      if name = sought then some ref else workspace.session.registry.find? sought := by
  obtain ⟨-, -, bound, -⟩ := step_of_registration accepted
  rw [bound]
  exact Registry.find?_bind _ name ref sought

/-- A name stands for the build that was registered last under it. -/
theorem find?_run_iff (operations : List (Operation σ ρ)) :
    (({} : Workspace σ ρ).run operations).session.registry.find? name = some ref ↔
      IsLastRegistration (registrationsOf {} operations) name ref := by
  induction operations using List.reverseRecOn generalizing ref with
  | nil => simp [IsLastRegistration, registrationsOf, session, Concourse.session, Registry.find?]
  | append_singleton operations operation ih =>
    rw [run_append, registrationsOf_append]
    generalize reached : ({} : Workspace σ ρ).run operations = workspace at ih
    have sound : workspace.session.Sound := reached ▸ sound_run operations
    simp only [run_cons, run_nil, registrationsOf, List.append_nil]
    cases registered : workspace.registration operation with
    | none => rw [find?_step_of_none sound registered, ih]; simp
    | some entry =>
      obtain ⟨other, place⟩ := entry
      rw [find?_step_of_registration registered, Option.toList_some,
        IsLastRegistration.concat_iff, ← ih]
      split <;> simp

/-- What comes of an operation that registers a build. -/
structure Registers (workspace : Workspace σ ρ) (operation : Operation σ ρ) (name : BuildId)
    (ref : BuildRef) : Prop where
  /-- The name is bound to the build, which may be new, and nothing else happens. -/
  only : workspace.step operation = (workspace.add operation.makes).bind name ref
  /-- The name stands for the build, as it was before or as it was made. -/
  held : ∃ chronicle, (workspace.concourse.chronicles ++ operation.makes)[ref]? = some chronicle ∧
    (workspace.step operation).session.find? name = some (ref, chronicle.callers.build)
  /-- Every other name stands for what it stood for. -/
  others : ∀ other, other ≠ name →
    (workspace.step operation).session.find? other = workspace.session.find? other
  /-- All builds stay as they are, with their callers and their history. -/
  builds : ∀ (place : BuildRef) chronicle, workspace.concourse.chronicles[place]? = some chronicle →
    (workspace.step operation).concourse.chronicles[place]? = some chronicle
  /-- All dependencies stay as they are. -/
  dependencies : (workspace.step operation).session.registry.dependencies =
    workspace.session.registry.dependencies
  /-- If the name was bound before, the dependencies are the same, and all requests for tasks are
  answered the same, whatever happens later, as if nothing had been registered. -/
  verdicts : ∀ entry, workspace.session.find? name = some entry → ∀ later,
    let registered := ((workspace.step operation).run later).session
    let unregistered := ((workspace.run operation.unregistered).run later).session
    registered.registry.dependencies = unregistered.registry.dependencies ∧
    ∀ source reference, (registered.addTask source reference).value.1 =
      (unregistered.addTask source reference).value.1
  /-- Until another build is registered under the name, whatever happens, all delegates for it await
  this one, and no other. -/
  delegates : ∀ later, name ∉ (registrationsOf (workspace.step operation) later).map (·.1) →
    ∀ delegate : Delegate, delegate.build = name →
      let reached := (workspace.step operation).run later
      (reached.session.startDelegate delegate).value = .ok ref ∧
      ∃ chronicle, reached.concourse.chronicles[ref]? = some chronicle ∧
        (reached.step (.execute delegate)).concourse.chronicles =
          reached.concourse.chronicles.set ref (chronicle.step .enter)

/-- Executing a delegate begins a call of await on the build that its name stands for. -/
theorem step_execute (sound : workspace.session.Sound) {delegate : Delegate}
    (bound : workspace.session.registry.find? delegate.build = some ref) :
    (workspace.session.startDelegate delegate).value = .ok ref ∧
      ∃ chronicle, workspace.concourse.chronicles[ref]? = some chronicle ∧
        (workspace.step (.execute delegate)).concourse.chronicles =
          workspace.concourse.chronicles.set ref (chronicle.step .enter) := by
  obtain ⟨build, found, -⟩ := sound.bound delegate.build ref bound
  obtain ⟨chronicle, there, rfl⟩ := Concourse.exists_chronicle found
  have named := Concourse.lookup_eq bound found
  have acts : workspace.concourse.action? (.execute delegate) = some (ref, .enter) := by
    simp only [Concourse.action?, named, Option.map_some]
  refine ⟨Concourse.action?_execute.mp acts, chronicle, there, ?_⟩
  simp only [step, turns, Concourse.run_cons, Concourse.run_nil, Concourse.step, acts,
    Concourse.act, there, Concourse.made?, Option.toList_none, List.append_nil]

/-- A registration that is accepted leaves all builds as they are. -/
theorem chronicles_of_registration
    (accepted : workspace.registration operation = some (name, ref)) {place : BuildRef}
    {kept : Chronicle σ ρ} (found : workspace.concourse.chronicles[place]? = some kept) :
    (workspace.step operation).concourse.chronicles[place]? = some kept := by
  obtain ⟨-, -, only, -⟩ := step_of_registration accepted
  rw [only, ← found]
  exact List.getElem?_append_left (List.getElem?_eq_some_iff.mp found).1

/-- A registration that is accepted leaves all other names to stand for what they stood for. -/
theorem session_find?_of_registration (sound : workspace.session.Sound)
    (accepted : workspace.registration operation = some (name, ref)) {other : BuildId}
    (different : other ≠ name) :
    (workspace.step operation).session.find? other = workspace.session.find? other := by
  have same := find?_step_of_registration accepted other
  rw [if_neg different.symm] at same
  cases found : workspace.session.registry.find? other with
  | none => simp [Session.find?, same, found]
  | some place =>
    obtain ⟨build, here, -⟩ := sound.bound other place found
    obtain ⟨kept, before, rfl⟩ := Concourse.exists_chronicle here
    have still : (workspace.step operation).session.build? place = some kept.callers.build := by
      rw [session, Concourse.build?_session, chronicles_of_registration accepted before]
      rfl
    rw [Session.find?_eq_some_iff.mpr ⟨found, here⟩,
      Session.find?_eq_some_iff.mpr ⟨same.trans found, still⟩]

/-- A name stands for a build until another one is registered under it. -/
theorem find?_run_later {operations : List (Operation σ ρ)}
    (accepted : (({} : Workspace σ ρ).run operations).registration operation = some (name, ref)) :
    let next := (({} : Workspace σ ρ).run operations).step operation
    ∀ later, name ∉ (registrationsOf next later).map (·.1) →
      (next.run later).session.registry.find? name = some ref := by
  intro next later last
  have whole : next.run later = ({} : Workspace σ ρ).run (operations ++ operation :: later) := by
    rw [run_append, run_cons]
  rw [whole, find?_run_iff, registrationsOf_append, registrationsOf, accepted]
  refine ⟨_, _, rfl, fun entry member same => last ?_⟩
  exact List.mem_map.mpr ⟨entry, member, same⟩

/-- What an accepted registration does is what it is to do. -/
theorem registers_of_registration {operations : List (Operation σ ρ)}
    (accepted : (({} : Workspace σ ρ).run operations).registration operation = some (name, ref)) :
    (({} : Workspace σ ρ).run operations).Registers operation name ref := by
  have stands := find?_run_later accepted
  have sound := sound_run operations
  generalize ({} : Workspace σ ρ).run operations = workspace at accepted sound stands
  obtain ⟨opened, made, only, chronicle, there, named⟩ := step_of_registration accepted
  have next : (workspace.step operation).session.Sound := sound_step sound operation
  have held : (workspace.step operation).session.find? name =
      some (ref, chronicle.callers.build) := by
    refine Session.find?_eq_some_iff.mpr
      ⟨by rw [find?_step_of_registration accepted, if_pos rfl], ?_⟩
    rw [session, Concourse.build?_session, only]
    exact congrArg (Option.map _) there
  have dependencies : (workspace.step operation).session.registry.dependencies =
      workspace.session.registry.dependencies := by
    rw [only]
    rfl
  refine ⟨only, ⟨chronicle, there, held⟩,
    fun _ different => session_find?_of_registration sound accepted different,
    fun _ _ found => chronicles_of_registration accepted found, dependencies, ?_, ?_⟩
  · rintro ⟨before, build⟩ known later
    have withoutSound := sound_run_from sound operation.unregistered
    have alike : Alike (workspace.step operation) (workspace.run operation.unregistered) := by
      rw [only, made]
      exact ⟨rfl, .of_bound (Session.find?_eq_some_iff.mp known).1 ref⟩
    have still := alike.run next withoutSound later
    exact ⟨still.registry.dependencies,
      still.addTask (sound_run_from next later) (sound_run_from withoutSound later)⟩
  · rintro later last delegate rfl
    exact step_execute (sound_run_from next later) (stands later last)

/-- **Names stand for the builds that were registered last under them.**  Whatever has happened to a
session, its builds and the builds that consume it, with registrations that were accepted and others
that were refused,

* the builds are listed in strictly increasing name order, so no name twice, and the names are those
  of the registrations that were accepted;
* the build that is found under a name is the one of the last such registration, and a build is
  listed exactly if it is found under its own name;
* a registration that is accepted binds its name to its build, and does nothing else.  In
  particular a build that is displaced stays as it is, and so do all others, and the dependencies;
  if the name was bound before, later requests for tasks are answered as if the registration had
  not happened; and delegates for the name await the new build from then on
  (`Workspace.Registers`). -/
theorem last_registration_wins (operations : List (Operation σ ρ)) :
    let workspace := ({} : Workspace σ ρ).run operations
    let session := workspace.session
    let registrations := registrationsOf {} operations
    (session.registered.map (·.2.name.text)).Pairwise (· < ·) ∧
    (∀ name, name ∈ session.registered.map (·.2.name) ↔ name ∈ registrations.map (·.1)) ∧
    (∀ name ref, IsLastRegistration registrations name ref ↔
      ∃ build, session.find? name = some (ref, build) ∧ build.name = name) ∧
    (∀ ref build, (ref, build) ∈ session.registered ↔
      session.find? build.name = some (ref, build)) ∧
    ∀ operation name ref, workspace.registration operation = some (name, ref) →
      workspace.Registers operation name ref := by
  intro workspace session registrations
  have sound : session.Sound := sound_run operations
  have stands (name : BuildId) (ref : BuildRef) :
      IsLastRegistration registrations name ref ↔
        ∃ build, session.find? name = some (ref, build) ∧ build.name = name := by
    rw [← find?_run_iff]
    constructor
    · intro bound
      obtain ⟨build, found, named⟩ := sound.bound name ref bound
      exact ⟨build, Session.find?_eq_some_iff.mpr ⟨bound, found⟩, named⟩
    · rintro ⟨build, found, -⟩
      exact (Session.find?_eq_some_iff.mp found).1
  have listed (ref : BuildRef) (build : IncludedBuild σ ρ) :
      (ref, build) ∈ session.registered ↔ session.find? build.name = some (ref, build) :=
    sound.mem_registered_iff
  refine ⟨List.pairwise_map.mpr sound.pairwise_registered, fun name => ?_, stands, listed,
    fun operation name ref accepted => registers_of_registration accepted⟩
  rw [← IsLastRegistration.exists_iff]
  simp only [stands, List.mem_map]
  constructor
  · rintro ⟨⟨ref, build⟩, member, rfl⟩
    exact ⟨ref, build, (listed ref build).mp member, rfl⟩
  · rintro ⟨ref, build, found, rfl⟩
    exact ⟨(ref, build), (listed ref build).mpr found, rfl⟩

/-- In the beginning of `replaced`, `lib` is registered twice.  The second build of that name is the
one that is listed in the end, and the first one keeps the path that was queued on it before. -/
theorem last_registration_wins_replaced :
    let before := ({} : Workspace _ _).run (replaced.take 4)
    let again := .includeBuild ⟨"lib"⟩ "/next" ScriptedLaunchers.factory (.ofProject "lib" [])
    let after := ({} : Workspace _ _).run (replaced.take 6)
    let registrations := registrationsOf {} (replaced.take 6)
    registrations = [(⟨"app"⟩, 0), (⟨"lib"⟩, 1), (⟨"lib"⟩, 2)] ∧
    IsLastRegistration registrations ⟨"lib"⟩ 2 ∧
    (after.session.registered.map fun entry => (entry.1, entry.2.projectDir)) =
      [(0, "/app"), (2, "/next")] ∧
    before.Registers again ⟨"lib"⟩ 2 ∧
    (after.session.build? 1).map (·.pending.map (·.text)) = some [":link"] ∧
    (after.session.build? 2).map (·.pending.map (·.text)) = some [":verify"] := by
  intro before again after registrations
  have accepted : before.registration again = some (⟨"lib"⟩, 2) := by decide +kernel
  have found : (after.session.find? ⟨"lib"⟩).map (fun entry => (entry.1, entry.2.name)) =
      some (2, ⟨"lib"⟩) := by decide +kernel
  obtain ⟨⟨place, build⟩, here, same⟩ := Option.map_eq_some_iff.mp found
  obtain ⟨rfl, named⟩ := Prod.mk.inj same
  obtain ⟨-, -, stands, -, -⟩ := last_registration_wins (replaced.take 6)
  obtain ⟨-, -, -, -, binds⟩ := last_registration_wins (replaced.take 4)
  refine ⟨?_, (stands _ _).mpr ⟨build, here, named⟩, ?_, binds again _ _ accepted, ?_, ?_⟩
  · decide +kernel
  · decide +kernel
  · decide +kernel
  · decide +kernel

end Workspace

end CompositeBuild
