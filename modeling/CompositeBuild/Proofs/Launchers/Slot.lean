import CompositeBuild.Build.Included

/-!
# What a build does with its slot

Sweeps and loads meet at the slot of a build.  Both use the launcher in it and make one if there is
none; a sweep takes it away, and a load leaves it there with the model that it has returned.  The
lemmas of this module say so, one for each case, so that nobody has to look into the operations.
-/

namespace CompositeBuild

variable {σ ρ : Type}

/-! ### The slot -/

namespace LauncherSlot

variable (slot : LauncherSlot)

/-- A slot after settings were loaded through its launcher, or failed to be. -/
def withSettings : Outcome BuildFailure Settings → LauncherSlot
  | .returned settings => { slot with settings := some settings }
  | _ => slot

/-- A slot after its launcher has configured the build, or failed to. -/
def withConfigured : Outcome BuildFailure ConfiguredBuild → LauncherSlot
  | .returned configured =>
    { slot with settings := some configured.settings, configured := some configured }
  | _ => slot

/-- Loading settings keeps the launcher in the slot. -/
@[simp] theorem withSettings_launcher (outcome : Outcome BuildFailure Settings) :
    (slot.withSettings outcome).launcher = slot.launcher := by
  cases outcome <;> rfl

/-- Configuring keeps the launcher in the slot. -/
@[simp] theorem withConfigured_launcher (outcome : Outcome BuildFailure ConfiguredBuild) :
    (slot.withConfigured outcome).launcher = slot.launcher := by
  cases outcome <;> rfl

/-- Settings that are not returned are not stored. -/
theorem withSettings_of_failed {outcome : Outcome BuildFailure Settings}
    (failed : ∀ settings, outcome ≠ .returned settings) : slot.withSettings outcome = slot := by
  cases outcome with
  | returned settings => exact absurd rfl (failed settings)
  | _ => rfl

/-- A configured build that is not returned is not stored. -/
theorem withConfigured_of_failed {outcome : Outcome BuildFailure ConfiguredBuild}
    (failed : ∀ configured, outcome ≠ .returned configured) :
    slot.withConfigured outcome = slot := by
  cases outcome with
  | returned configured => exact absurd rfl (failed configured)
  | _ => rfl

end LauncherSlot

/-! ### What a build does with its slot -/

namespace IncludedBuild

variable (build : IncludedBuild σ ρ)

/-- Load the settings through a launcher. -/
def loadThrough (launcher : LauncherId) :
    Outcome BuildFailure Settings × IncludedBuild σ ρ :=
  let (outcome, launchers) := (build.factory.loadSettings launcher build.launchers).value
  (outcome, { build with launchers, slot := build.slot.withSettings outcome })

/-- Configure the build through a launcher. -/
def configureThrough (launcher : LauncherId) :
    Outcome BuildFailure ConfiguredBuild × IncludedBuild σ ρ :=
  let (outcome, launchers) := (build.factory.configure launcher build.launchers).value
  (outcome, { build with launchers, slot := build.slot.withConfigured outcome })

/-- The build with a new launcher in its slot. -/
def withNewLauncher : IncludedBuild σ ρ :=
  let (launcher, launchers) := (build.factory.create build.launchers).value
  { build with launchers, slot := { launcher := some launcher } }

/-- A launcher in the slot is used for loading. -/
theorem ensureLauncher_held {launcher : LauncherId}
    (held : build.slot.launcher = some launcher) :
    build.ensureLauncher.value = (launcher, build) := by
  simp [ensureLauncher, held]

/-- A launcher is made for loading if there is none in the slot, and put there. -/
theorem ensureLauncher_none (none : build.slot.launcher = none) :
    build.ensureLauncher.value =
      ((build.factory.create build.launchers).value.1, build.withNewLauncher) := by
  simp only [ensureLauncher, none, createLauncher]
  rfl

/-- A sweep takes the launcher in the slot. -/
theorem takeLauncher_held {launcher : LauncherId} (held : build.slot.launcher = some launcher) :
    build.takeLauncher.value =
      (launcher, { build with slot := { build.slot with launcher := none } }) := by
  simp [takeLauncher, held]

/-- A sweep makes a launcher if there is none in the slot.  What was loaded before is forgotten. -/
theorem takeLauncher_none (none : build.slot.launcher = none) :
    build.takeLauncher.value =
      ((build.factory.create build.launchers).value.1,
        { build with
          slot := {}
          launchers := (build.factory.create build.launchers).value.2 }) := by
  simp only [takeLauncher, none, createLauncher]
  rfl

/-- Settings that are known are not loaded again. -/
theorem loadedSettings_known {settings : Settings} (known : build.slot.settings = some settings) :
    build.loadedSettings.value = (.returned settings, build) := by
  simp [loadedSettings, known]

/-- Settings that are not known are loaded through the launcher in the slot. -/
theorem loadedSettings_unknown (unknown : build.slot.settings = none) :
    build.loadedSettings.value =
      build.ensureLauncher.value.2.loadThrough build.ensureLauncher.value.1 := by
  simp only [loadedSettings, unknown, Logged.bind_value, loadThrough]
  cases (build.ensureLauncher.value.2.factory.loadSettings build.ensureLauncher.value.1
    build.ensureLauncher.value.2.launchers).value.1 <;> rfl

/-- A configured build that is known is not computed again. -/
theorem configuredBuild_known {configured : ConfiguredBuild}
    (known : build.slot.configured = some configured) :
    build.configuredBuild.value = (.returned configured, build) := by
  simp [configuredBuild, known]

/-- A configured build that is not known is computed by the launcher in the slot. -/
theorem configuredBuild_unknown (unknown : build.slot.configured = none) :
    build.configuredBuild.value =
      build.ensureLauncher.value.2.configureThrough build.ensureLauncher.value.1 := by
  simp only [configuredBuild, unknown, Logged.bind_value, configureThrough]
  cases (build.ensureLauncher.value.2.factory.configure build.ensureLauncher.value.1
    build.ensureLauncher.value.2.launchers).value.1 <;> rfl

/-! Whoever has to do with launchers changes the slot and the launchers of the build, and nothing
else. -/

/-- Taking a launcher changes nothing but the slot and the launchers. -/
theorem takeLauncher_changes :
    ∃ slot launchers, build.takeLauncher.value.2 = { build with slot, launchers } := by
  cases here : build.slot.launcher with
  | none => exact ⟨_, _, by rw [takeLauncher_none build here]⟩
  | some launcher => exact ⟨_, build.launchers, by rw [takeLauncher_held build here]⟩

/-- Making sure of a launcher changes nothing but the slot and the launchers. -/
theorem ensureLauncher_changes :
    ∃ slot launchers, build.ensureLauncher.value.2 = { build with slot, launchers } := by
  cases here : build.slot.launcher with
  | none => exact ⟨_, _, by rw [ensureLauncher_none build here]; rfl⟩
  | some launcher => exact ⟨build.slot, build.launchers, by rw [ensureLauncher_held build here]⟩

/-- Loading the settings changes nothing but the slot and the launchers. -/
theorem loadedSettings_changes :
    ∃ slot launchers, build.loadedSettings.value.2 = { build with slot, launchers } := by
  cases known : build.slot.settings with
  | some settings =>
    exact ⟨build.slot, build.launchers, by rw [loadedSettings_known build known]⟩
  | none =>
    obtain ⟨slot, launchers, same⟩ := build.ensureLauncher_changes
    rw [loadedSettings_unknown build known, same]
    exact ⟨_, _, rfl⟩

/-- Configuring changes nothing but the slot and the launchers. -/
theorem configuredBuild_changes :
    ∃ slot launchers, build.configuredBuild.value.2 = { build with slot, launchers } := by
  cases known : build.slot.configured with
  | some configured =>
    exact ⟨build.slot, build.launchers, by rw [configuredBuild_known build known]⟩
  | none =>
    obtain ⟨slot, launchers, same⟩ := build.ensureLauncher_changes
    rw [configuredBuild_unknown build known, same]
    exact ⟨_, _, rfl⟩

end IncludedBuild

/-! ### What loading keeps

Loading calls the factory to make a launcher, to load settings and to configure, and for nothing
else.  So what these three keep of the state of the launchers is kept by every load. -/

/-- Making a launcher and loading models through one keep what `P` says of the state of the
launchers. -/
structure LauncherFactory.LoadingKeeps (factory : LauncherFactory σ ρ) (P : σ → Prop) : Prop where
  create {launchers : σ} (holds : P launchers) : P (factory.create launchers).value.2
  loadSettings {launchers : σ} (launcher : LauncherId) (holds : P launchers) :
    P (factory.loadSettings launcher launchers).value.2
  configure {launchers : σ} (launcher : LauncherId) (holds : P launchers) :
    P (factory.configure launcher launchers).value.2

namespace IncludedBuild

variable {build : IncludedBuild σ ρ} {P : σ → Prop}

/-- Taking a launcher keeps what making one keeps. -/
theorem takeLauncher_keeps (keeps : build.factory.LoadingKeeps P) (holds : P build.launchers) :
    P build.takeLauncher.value.2.launchers := by
  cases here : build.slot.launcher with
  | some launcher => rwa [takeLauncher_held build here]
  | none =>
    rw [takeLauncher_none build here]
    exact keeps.create holds

/-- Making sure of a launcher keeps what making one keeps, and the factory stays. -/
theorem ensureLauncher_keeps (keeps : build.factory.LoadingKeeps P) (holds : P build.launchers) :
    P build.ensureLauncher.value.2.launchers ∧
      build.ensureLauncher.value.2.factory.LoadingKeeps P := by
  cases here : build.slot.launcher with
  | some launcher =>
    rw [ensureLauncher_held build here]
    exact ⟨holds, keeps⟩
  | none =>
    rw [ensureLauncher_none build here]
    exact ⟨keeps.create holds, keeps⟩

/-- Loading the settings keeps what the factory keeps. -/
theorem loadedSettings_keeps (keeps : build.factory.LoadingKeeps P) (holds : P build.launchers) :
    P build.loadedSettings.value.2.launchers := by
  cases known : build.slot.settings with
  | some settings => rwa [loadedSettings_known build known]
  | none =>
    obtain ⟨ensured, still⟩ := ensureLauncher_keeps keeps holds
    rw [loadedSettings_unknown build known]
    exact still.loadSettings _ ensured

/-- Configuring keeps what the factory keeps. -/
theorem configuredBuild_keeps (keeps : build.factory.LoadingKeeps P) (holds : P build.launchers) :
    P build.configuredBuild.value.2.launchers := by
  cases known : build.slot.configured with
  | some configured => rwa [configuredBuild_known build known]
  | none =>
    obtain ⟨ensured, still⟩ := ensureLauncher_keeps keeps holds
    rw [configuredBuild_unknown build known]
    exact still.configure _ ensured

end IncludedBuild

end CompositeBuild
