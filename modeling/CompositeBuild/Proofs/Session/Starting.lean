import CompositeBuild.Proofs.Config.Validation
import CompositeBuild.Proofs.Session.Settling

/-!
# Starting a configured composite

Including the builds of a configuration in a session whose configuration is open never fails: each
build is made with the actions for its rules and enrolled (`Session.includeAll_of_open`).  If the
names are all different, no build takes another's place, so the registry lists exactly the builds
of the configuration (`Session.Sound.registered_enrolAll_perm`).

Validation accepts only rules that can be written, so the actions of every build succeed when the
execution begins, and the rules of a build are what its entries, applied in the order of the file,
say (`Session.accepted_configurations_start`).
-/

namespace CompositeBuild

variable {π σ ρ : Type}

/-! ### Enrolling builds -/

namespace Session

variable {session : Session σ ρ} {build : IncludedBuild σ ρ} {ref : BuildRef}

/-- Take a new build into the session, as what its name stands for. -/
def enrol (session : Session σ ρ) (build : IncludedBuild σ ρ) : Session σ ρ :=
  { session with
    builds := session.builds ++ [build]
    registry := { session.registry with
      builds := session.registry.builds.insert build.name.text session.builds.length } }

/-- Take new builds into the session, one after the other. -/
def enrolAll (session : Session σ ρ) (builds : List (IncludedBuild σ ρ)) : Session σ ρ :=
  builds.foldl enrol session

/-- A new build is found under its own reference, and the others stay where they are. -/
theorem build?_enrol (session : Session σ ρ) (build : IncludedBuild σ ρ) (sought : BuildRef) :
    (session.enrol build).build? sought =
      if session.builds.length = sought then some build else session.build? sought :=
  build?_addBuild session build sought

/-- A new build may be replaced by one of its name as if that had been enrolled. -/
theorem setBuild_enrol {changed : IncludedBuild σ ρ} (named : changed.name = build.name) :
    (session.enrol build).setBuild session.builds.length changed = session.enrol changed := by
  simp [setBuild, enrol, named]

/-- A build is enrolled under its name. -/
theorem find?_enrol (session : Session σ ρ) (build : IncludedBuild σ ρ) (name : BuildId) :
    (session.enrol build).registry.find? name =
      if build.name.text = name.text then some session.builds.length
      else session.registry.find? name :=
  NameMap.get?_insert _ _ _ _

namespace Sound

variable (sound : session.Sound)
include sound

/-- Names stand for builds that were made. -/
theorem ref_lt {name : BuildId} (bound : session.registry.find? name = some ref) :
    ref < session.builds.length := by
  obtain ⟨build, found, -⟩ := sound.bound name ref bound
  exact (List.getElem?_eq_some_iff.mp found).1

/-- A session stays in order when a build is enrolled. -/
theorem enrol (build : IncludedBuild σ ρ) : (session.enrol build).Sound where
  tidy := sound.tidy
  acyclic := sound.acyclic
  bound name ref bound := by
    rw [find?_enrol] at bound
    rw [build?_enrol]
    split at bound
    · next same =>
      obtain rfl : session.builds.length = ref := by simpa using bound
      exact ⟨build, if_pos rfl, Dependencies.text_inj.mp same⟩
    · obtain ⟨build, found, named⟩ := sound.bound name ref bound
      exact ⟨build, by rw [if_neg (sound.ref_lt bound).ne']; exact found, named⟩

/-- A build is listed exactly if its name stands for it. -/
theorem mem_registered_iff : (ref, build) ∈ session.registered ↔
    session.find? build.name = some (ref, build) := by
  rw [registered, List.mem_filterMap, Session.find?_eq_some_iff]
  simp only [Option.bind_eq_bind, Option.bind_eq_some_iff, Option.pure_def, Option.some.injEq,
    Prod.mk.injEq, NameMap.mem_values_iff]
  constructor
  · rintro ⟨_, ⟨name, bound⟩, _, found, rfl, rfl⟩
    obtain ⟨named, here, same⟩ := sound.bound ⟨name⟩ _ bound
    obtain rfl := Option.some.inj (found.symm.trans here)
    exact ⟨by rw [same]; exact bound, found⟩
  · rintro ⟨bound, found⟩
    exact ⟨ref, ⟨_, bound⟩, build, found, rfl, rfl⟩

/-- The builds are listed in strictly increasing name order. -/
theorem pairwise_registered :
    session.registered.Pairwise fun one other => one.2.name.text < other.2.name.text := by
  have named {entry : String × BuildRef} (member : entry ∈ session.registry.builds.entries)
      {listed : BuildRef × IncludedBuild σ ρ}
      (found : (do return (entry.2, ← session.build? entry.2)) = some listed) :
      listed.2.name.text = entry.1 := by
    obtain ⟨build, here, same⟩ :=
      sound.bound ⟨entry.1⟩ entry.2 (NameMap.get?_eq_some_iff.mpr member)
    simp only [here, Option.bind_eq_bind, Option.bind_some, Option.pure_def,
      Option.some.injEq] at found
    rw [← found, same]
  rw [registered, NameMap.values, List.filterMap_map, List.pairwise_filterMap]
  refine session.registry.builds.increasing.imp_of_mem ?_
  intro entry later here there less listed found listed' found'
  rw [named here found, named there found']
  exact less

/-- A build of a new name is listed with the others. -/
theorem registered_enrol_perm (new : session.registry.find? build.name = none) :
    (session.enrol build).registered.Perm
      ((session.builds.length, build) :: session.registered) := by
  -- The references of the other builds are smaller than the new one.
  have others : session.registry.builds.values.filterMap
        (fun ref => do return (ref, ← (session.enrol build).build? ref)) = session.registered := by
    refine List.filterMap_congr fun ref member => ?_
    obtain ⟨name, bound⟩ := NameMap.mem_values_iff.mp member
    have made : session.registry.find? ⟨name⟩ = some ref := bound
    rw [build?_enrol, if_neg (sound.ref_lt made).ne']
  have itself : (session.enrol build).build? session.builds.length = some build := by
    rw [build?_enrol]
    exact if_pos rfl
  refine ((NameMap.values_insert_perm new session.builds.length).filterMap _).trans ?_
  rw [List.filterMap_cons, itself, others]
  rfl

/-- Builds of new names, all different, are listed with the others. -/
theorem registered_enrolAll_perm {builds : List (IncludedBuild σ ρ)}
    (new : ∀ build ∈ builds, session.registry.find? build.name = none)
    (distinct : (builds.map (·.name)).Nodup) :
    ((session.enrolAll builds).registered.map (·.2)).Perm
      (builds ++ session.registered.map (·.2)) := by
  induction builds generalizing session with
  | nil => exact .refl _
  | cons build builds ih =>
    rw [List.map_cons, List.nodup_cons] at distinct
    obtain ⟨apart, distinct⟩ := distinct
    have fresh := new build (List.mem_cons_self ..)
    have still : ∀ later ∈ builds, (session.enrol build).registry.find? later.name = none := by
      intro later member
      have other : build.name.text ≠ later.name.text := fun same =>
        apart (List.mem_map.mpr ⟨later, member, (Dependencies.text_inj.mp same).symm⟩)
      rw [find?_enrol, if_neg other]
      exact new later (List.mem_cons_of_mem _ member)
    have listed := (sound.registered_enrol_perm fresh).map (·.2)
    exact (ih (sound.enrol build) still distinct).trans
      ((listed.append_left builds).trans List.perm_middle)

/-- A session stays in order when builds are enrolled. -/
theorem enrolAll (builds : List (IncludedBuild σ ρ)) : (session.enrolAll builds).Sound :=
  builds.foldlRecOn Session.enrol (motive := Sound) sound fun _ sound build _ => sound.enrol build

end Sound

/-- Enrolling builds leaves the phase and the dependencies alone. -/
theorem enrolAll_registry (session : Session σ ρ) (builds : List (IncludedBuild σ ρ)) :
    (session.enrolAll builds).registry.closed = session.registry.closed ∧
      (session.enrolAll builds).registry.dependencies = session.registry.dependencies := by
  induction builds generalizing session with
  | nil => exact ⟨rfl, rfl⟩
  | cons build builds ih => exact ih (session.enrol build)

end Session

/-! ### The builds of a configuration -/

/-- A configured build as it is made with launchers: the actions for its rules are registered. -/
def IncludedBuildConfig.made (entry : IncludedBuildConfig) (launchers : LauncherFactory σ ρ × σ) :
    IncludedBuild σ ρ where
  name := entry.id
  projectDir := entry.dir
  factory := launchers.1.traced entry.id
  launchers := launchers.2
  substitutions := .collecting (entry.substitute.map SubstitutionConfig.action)

namespace Session

variable {session : Session σ ρ}

/-- The builds of a configuration, made with the launchers that are provided for them. -/
def madeAll (provider : LauncherProvider π σ ρ) :
    π → List IncludedBuildConfig → List (IncludedBuild σ ρ)
  | _, [] => []
  | state, entry :: entries =>
    let (launchers, state) := (provider entry).run state
    entry.made launchers :: madeAll provider state entries

/-- The builds that are made have the names and directories of the entries. -/
theorem map_madeAll (provider : LauncherProvider π σ ρ) (state : π)
    (entries : List IncludedBuildConfig) :
    (madeAll provider state entries).map (fun build => (build.name, build.projectDir)) =
      entries.map fun entry => (entry.id, entry.dir) := by
  induction entries generalizing state with
  | nil => rfl
  | cons entry entries ih => exact congrArg _ (ih _)

/-- Every build that is made is that of some entry. -/
theorem entry_of_mem_madeAll {provider : LauncherProvider π σ ρ} {state : π}
    {entries : List IncludedBuildConfig} {build : IncludedBuild σ ρ}
    (member : build ∈ madeAll provider state entries) :
    ∃ entry ∈ entries, ∃ launchers, build = entry.made launchers := by
  induction entries generalizing state with
  | nil => simp [madeAll] at member
  | cons entry entries ih =>
    rcases List.mem_cons.mp member with rfl | member
    · exact ⟨entry, List.mem_cons_self .., _, rfl⟩
    · obtain ⟨other, there, made⟩ := ih member
      exact ⟨other, List.mem_cons_of_mem _ there, made⟩

/-- Every entry has a build that is made for it. -/
theorem exists_mem_madeAll (provider : LauncherProvider π σ ρ) (state : π)
    {entries : List IncludedBuildConfig} {entry : IncludedBuildConfig} (member : entry ∈ entries) :
    ∃ launchers, entry.made launchers ∈ madeAll provider state entries := by
  induction entries generalizing state with
  | nil => cases member
  | cons first entries ih =>
    rcases List.mem_cons.mp member with rfl | member
    · exact ⟨_, List.mem_cons_self ..⟩
    · obtain ⟨launchers, made⟩ := ih _ member
      exact ⟨launchers, List.mem_cons_of_mem _ made⟩

/-- While the rules of a build are collected every rule of its configuration is registered. -/
theorem registerEntries_collecting {build : IncludedBuild σ ρ} {actions : List SubstitutionAction}
    (collecting : build.substitutions = .collecting actions) (entries : List SubstitutionConfig) :
    registerEntries build entries = .ok { build with
      substitutions := .collecting (actions ++ entries.map SubstitutionConfig.action) } := by
  induction entries generalizing build actions with
  | nil =>
    rw [List.map_nil, List.append_nil, ← collecting]
    rfl
  | cons entry entries ih =>
    have registered : build.registerSubstitution entry.action =
        .ok { build with substitutions := .collecting (actions ++ [entry.action]) } := by
      rw [IncludedBuild.registerSubstitution, collecting]
      rfl
    rw [registerEntries, List.foldlM_cons, registered]
    refine (ih rfl).trans ?_
    rw [List.map_cons, List.append_assoc]
    rfl

/-- A configured build is enrolled while the configuration of the session is open. -/
theorem includeConfigured_of_open (opened : session.registry.closed = false)
    (entry : IncludedBuildConfig) (launchers : LauncherFactory σ ρ × σ) :
    (session.includeConfigured entry launchers).value =
      .ok (session.enrol (entry.made launchers)) := by
  -- The build is registered without actions, and replaced by itself with them afterwards.
  let plain : IncludedBuild σ ρ :=
    { name := entry.id, projectDir := entry.dir, factory := launchers.1.traced entry.id,
      launchers := launchers.2 }
  have included : (session.includeBuild entry.id entry.dir launchers.1 launchers.2).value =
      (.ok session.builds.length, session.enrol plain) := includeBuild_of_open session opened ..
  have found : (session.enrol plain).build? session.builds.length = some plain := by
    rw [build?_enrol]
    exact if_pos rfl
  have collecting : plain.substitutions = .collecting [] := rfl
  have registered : registerEntries plain entry.substitute = .ok (entry.made launchers) :=
    registerEntries_collecting collecting entry.substitute
  simp only [includeConfigured, Logged.bind_value, included, found, registered, Logged.pure_value,
    Except.ok.injEq]
  exact setBuild_enrol rfl

/-- Including configured builds never fails while the configuration of the session is open. -/
theorem includeAll_of_open (opened : session.registry.closed = false)
    (provider : LauncherProvider π σ ρ) (state : π) (entries : List IncludedBuildConfig) :
    (includeAll provider state entries session).value =
      .ok (session.enrolAll (madeAll provider state entries)) := by
  induction entries generalizing session state with
  | nil => rfl
  | cons entry entries ih =>
    unfold includeAll madeAll
    obtain ⟨launchers, next⟩ := (provider entry).run state
    have still : (session.enrol (entry.made launchers)).registry.closed = false := opened
    simp only [Logged.bind_value, includeConfigured_of_open opened]
    exact ih still next

/-! ### Starting -/

open DependencySubstitutions (IsWritable lastFor)

/-- The rules of a configured build that can all be written are settled as its entries say. -/
theorem settles_made {entry : IncludedBuildConfig}
    (writable : ∀ rule ∈ entry.rules, IsWritable rule.1 rule.2)
    (launchers : LauncherFactory σ ρ × σ) :
    ∃ subs, (entry.made launchers).resolveSubstitutions.value.1 = .returned subs ∧
      DependencySubstitutions.writeAll { build := entry.id } entry.rules = .ok subs ∧
      ∀ module, subs.find? module = (lastFor module entry.rules).map fun rule =>
        { build := entry.id, path := rule.2 } := by
  obtain ⟨subs, written, -, found⟩ :=
    DependencySubstitutions.exists_writeAll writable { build := entry.id }
  have actions : entry.substitute.map SubstitutionConfig.action =
      entry.rules.map fun rule => .ofRule rule.1 rule.2 := by
    rw [IncludedBuildConfig.rules, List.map_map]
    rfl
  have applied : SubstitutionState.applyAll (entry.substitute.map SubstitutionConfig.action)
      { build := entry.id } = .returned subs := by
    rw [actions, SubstitutionState.applyAll_ofRule, written]
    rfl
  refine ⟨subs, ?_, written, fun module => ?_⟩
  · rw [IncludedBuild.resolveSubstitutions_outcome]
    simp only [IncludedBuildConfig.made, SubstitutionState.resolve, applied]
  · rw [found]
    exact Option.or_none

variable {config : CompositeConfig} {provider : LauncherProvider π σ ρ} {state : π}

/-- The session of a configuration whose builds get the launchers that are provided for them. -/
def configured (config : CompositeConfig) (provider : LauncherProvider π σ ρ) (state : π) :
    Session σ ρ :=
  ({} : Session σ ρ).enrolAll (madeAll provider state config.builds)

/-- The session of a configuration is made, whatever the configuration. -/
theorem ofConfig_value (config : CompositeConfig) (provider : LauncherProvider π σ ρ) (state : π) :
    (ofConfig config provider state).value = .ok (configured config provider state) := by
  have opened : ({} : Session σ ρ).registry.closed = false := rfl
  have included := includeAll_of_open opened provider state config.builds
  simp only [ofConfig, Logged.bind_value, included]
  rfl

/-- The session of a configuration is in order. -/
theorem sound_configured : (configured config provider state).Sound := Sound.empty.enrolAll _

/-- If no name is given twice, the builds of the configuration are listed. -/
theorem registered_configured_perm (distinct : (config.builds.map (·.name)).Nodup) :
    ((configured config provider state).registered.map (·.2)).Perm
      (madeAll provider state config.builds) := by
  have named : (madeAll provider state config.builds).map (·.name) =
      (config.builds.map (·.name)).map BuildId.mk := by
    have both := congrArg (List.map Prod.fst) (map_madeAll provider state config.builds)
    rw [List.map_map, List.map_map] at both
    rw [List.map_map]
    exact both
  have apart : ((madeAll provider state config.builds).map (·.name)).Nodup := by
    rw [named]
    exact distinct.map fun one other same => congrArg BuildId.text same
  have listed := Sound.empty.registered_enrolAll_perm (fun _ _ => rfl) apart
  have nothing : ({} : Session σ ρ).registered = [] := rfl
  rwa [nothing, List.map_nil, List.append_nil] at listed

/-- A build that is listed is one of the configuration. -/
theorem entry_of_mem_registered (distinct : (config.builds.map (·.name)).Nodup) {ref : BuildRef}
    {build : IncludedBuild σ ρ}
    (member : (ref, build) ∈ (configured config provider state).registered) :
    ∃ entry ∈ config.builds, ∃ launchers, build = entry.made launchers :=
  entry_of_mem_madeAll ((registered_configured_perm distinct).mem_iff.mp
    (List.mem_map.mpr ⟨_, member, rfl⟩))

/-- An entry of the configuration is found under its name. -/
theorem find?_configured (distinct : (config.builds.map (·.name)).Nodup)
    {entry : IncludedBuildConfig} (member : entry ∈ config.builds) :
    ∃ ref launchers, (configured config provider state).find? entry.id =
      some (ref, entry.made launchers) := by
  obtain ⟨launchers, made⟩ := exists_mem_madeAll provider state member
  obtain ⟨⟨ref, build⟩, listed, rfl⟩ :=
    List.mem_map.mp ((registered_configured_perm distinct).mem_iff.mpr made)
  exact ⟨ref, launchers, sound_configured.mem_registered_iff.mp listed⟩

/-- If every rule can be written, the rules of every build can be settled. -/
theorem settles_configured (distinct : (config.builds.map (·.name)).Nodup)
    (writable : ∀ entry ∈ config.builds, ∀ rule ∈ entry.rules, IsWritable rule.1 rule.2) :
    ∀ ref ∈ (configured config provider state).registry.builds.values, ∀ build,
      (configured config provider state).build? ref = some build → build.Settles := by
  intro ref member build found
  obtain ⟨name, bound⟩ := NameMap.mem_values_iff.mp member
  obtain ⟨same, here, named⟩ := sound_configured.bound ⟨name⟩ ref bound
  obtain rfl : build = same := Option.some.inj (found.symm.trans here)
  have listed : (ref, build) ∈ (configured config provider state).registered :=
    sound_configured.mem_registered_iff.mpr
      (Session.find?_eq_some_iff.mpr ⟨by rw [named]; exact bound, found⟩)
  obtain ⟨entry, there, launchers, rfl⟩ := entry_of_mem_registered distinct listed
  obtain ⟨subs, returned, -⟩ := settles_made (writable entry there) launchers
  exact ⟨subs, returned⟩

/-- If every rule can be written, the execution begins well, and the rules of every build are
settled. -/
theorem beginExecution_configured (distinct : (config.builds.map (·.name)).Nodup)
    (writable : ∀ entry ∈ config.builds, ∀ rule ∈ entry.rules, IsWritable rule.1 rule.2) :
    let session : Session σ ρ := configured config provider state
    session.beginExecution.value.1 = .returned () ∧
      ∀ name ref build, session.find? name = some (ref, build) →
        session.beginExecution.value.2.find? name = some (ref, build.settled) := by
  intro session
  have begun : session.beginExecution.value = _ :=
    beginExecution_of_settles (settles_configured distinct writable)
  refine ⟨by rw [begun], fun name ref build found => ?_⟩
  obtain ⟨bound, there⟩ := Session.find?_eq_some_iff.mp found
  have listed : ref ∈ session.registry.builds.values := NameMap.mem_values_iff.mpr ⟨_, bound⟩
  rw [begun, Session.find?_eq_some_iff, settleEach_registry, build?_settleEach, if_pos listed,
    close_value]
  exact ⟨bound, congrArg (Option.map (·.settled)) there⟩

/-- **A configuration that is accepted always starts.**  A session with the builds of any
configuration can be made, whether the configuration was validated or not, and whatever launchers
are provided.

If validation accepts the configuration, the registry lists exactly one build for every entry, in
strictly increasing name order, with the name and the directory of the entry; there are no
dependencies, nothing is pending, and the composite is still configured.  The execution that begins
then begins well.  After that the rules of every build are settled, as its entries, written in the
order of the file to an empty rule set of that build, say: a module stands for the project of the
last entry for it, in that build, and a module without an entry for nothing. -/
theorem accepted_configurations_start (config : CompositeConfig)
    (provider : LauncherProvider π σ ρ) (state : π) :
    ∃ session, (ofConfig config provider state).value = .ok session ∧
      (config.validate = .ok () →
        session.registered.Pairwise (fun one other => one.2.name.text < other.2.name.text) ∧
        (session.registered.map fun listed => (listed.2.name, listed.2.projectDir)).Perm
          (config.builds.map fun entry => (entry.id, entry.dir)) ∧
        (∀ source, session.dependenciesOf source = []) ∧
        (∀ listed ∈ session.registered, listed.2.pending = []) ∧
        session.isConfiguring = true ∧
        session.beginExecution.value.1 = .returned () ∧
        ∀ entry ∈ config.builds, ∃ ref build subs,
          session.beginExecution.value.2.find? entry.id = some (ref, build) ∧
          build.projectDir = entry.dir ∧
          build.substitutions = .resolved subs ∧
          DependencySubstitutions.writeAll { build := entry.id } entry.rules = .ok subs ∧
          ∀ module, subs.find? module = (lastFor module entry.rules).map fun rule =>
            { build := entry.id, path := rule.2 }) := by
  let session : Session σ ρ := configured config provider state
  refine ⟨session, ofConfig_value config provider state, fun valid => ?_⟩
  obtain ⟨-, distinct, writable⟩ := CompositeConfig.validate_eq_ok_iff.mp valid
  have listed : (session.registered.map (·.2)).Perm (madeAll provider state config.builds) :=
    registered_configured_perm distinct
  obtain ⟨phase, edges⟩ : session.registry.closed = false ∧ session.registry.dependencies = {} :=
    enrolAll_registry {} (madeAll provider state config.builds)
  obtain ⟨returned, begun⟩ : session.beginExecution.value.1 = .returned () ∧ _ :=
    beginExecution_configured distinct writable
  refine ⟨sound_configured.pairwise_registered, ?_, fun source => ?_, ?_, ?_, returned,
    fun entry member => ?_⟩
  · have fields := listed.map fun build => (build.name, build.projectDir)
    rwa [List.map_map, map_madeAll] at fields
  · rw [dependenciesOf, edges]
    rfl
  · rintro ⟨ref, build⟩ member
    obtain ⟨entry, -, launchers, rfl⟩ := entry_of_mem_registered distinct member
    rfl
  · rw [isConfiguring, phase]
    rfl
  · obtain ⟨ref, launchers, found⟩ := find?_configured distinct member
    obtain ⟨subs, settles, written, lookups⟩ := settles_made (writable entry member) launchers
    have after := begun entry.id ref _ found
    rw [IncludedBuild.settled_of_returned settles] at after
    exact ⟨ref, _, subs, after, rfl, rfl, written, lookups⟩

/-- Two builds, listed against the order of their names, with a rule for the same module.  One of
them has two. -/
def overlapping : CompositeConfig where
  builds := [
    { name := "tools", dir := "/tools", substitute :=
      [⟨"org:core", ":"⟩, ⟨"org:cli", ":cli"⟩, ⟨"org:core", ":core"⟩] },
    { name := "app", dir := "/app", substitute := [⟨"org:core", ":app"⟩] }]

/-- Both are registered and start, and each module stands for the project of the last rule for it in
the same build. -/
theorem accepted_configurations_start_overlapping :
    let provider : LauncherProvider Nat (ScriptedLaunchers Unit) (ScriptedRun Unit) :=
      fun entry => do
        modify (· + 1)
        return (ScriptedLaunchers.factory, .ofProject (entry.name ++ toString (← get)) [])
    overlapping.validate = .ok () ∧
    ∃ session, (ofConfig overlapping provider 0).value = .ok session ∧
      (session.registered.map fun listed => (listed.2.name, listed.2.projectDir)).Perm
        [(⟨"tools"⟩, "/tools"), (⟨"app"⟩, "/app")] ∧
      session.beginExecution.value.1 = .returned () ∧
      ∃ ref build subs,
        session.beginExecution.value.2.find? ⟨"tools"⟩ = some (ref, build) ∧
        build.substitutions = .resolved subs ∧
        subs.find? ⟨"org", "core"⟩ = some ⟨⟨"tools"⟩, ":core"⟩ ∧
        subs.find? ⟨"org", "cli"⟩ = some ⟨⟨"tools"⟩, ":cli"⟩ ∧
        subs.find? ⟨"org", "none"⟩ = none := by
  intro provider
  have valid : overlapping.validate = .ok () := by decide +kernel
  obtain ⟨session, made, accepted⟩ := accepted_configurations_start overlapping provider 0
  obtain ⟨-, listed, -, -, -, returned, started⟩ := accepted valid
  obtain ⟨ref, build, subs, found, -, resolved, -, lookups⟩ := started _ (List.mem_cons_self ..)
  refine ⟨valid, session, made, listed, returned, ref, build, subs, found, resolved, ?_, ?_, ?_⟩
  · rw [lookups]
    decide +kernel
  · rw [lookups]
    decide +kernel
  · rw [lookups]
    decide +kernel

end Session

end CompositeBuild
