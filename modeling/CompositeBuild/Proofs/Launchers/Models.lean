import CompositeBuild.Proofs.Launchers.Journal

/-!
# Models and the launchers they come from

The slot of a build keeps the models that were loaded through its newest launcher, also after a
sweep has taken the launcher away, and forgets them when the next launcher is made.  `Loading` says
what the loads of one launcher make of its slot.  A slot is coherent with the journal of the
launchers if it is as the loads of the newest launcher have left it, with or without that launcher,
or empty (`LauncherSlot.Coherent`).  Every move keeps it so, whether loads return, fail or panic.

So a model that is known was returned by a successful call of the newest launcher, no launcher loads
the same model twice, and a load that goes wrong stores nothing (`Callers.models_are_coherent`).
-/

namespace CompositeBuild

variable {σ ρ : Type}

/-! ### The loads of one launcher -/

namespace JournalEntry

/-- A call that loads a model through a launcher, whatever came of it. -/
def isLoadOf (launcher : LauncherId) (entry : JournalEntry) : Bool :=
  entry.call.isLoad && decide (entry.call.launcher = launcher)

/-- The loads of one launcher, in order. -/
def loadsOf (launcher : LauncherId) (entries : List JournalEntry) : List JournalEntry :=
  entries.filter (isLoadOf launcher)

/-- The launcher that was made last. -/
def newest? (entries : List JournalEntry) : Option LauncherId :=
  (LauncherCall.made (entries.map call)).getLast?

variable {entries : List JournalEntry} {entry : JournalEntry} {launcher : LauncherId}

/-- A load is the last one of its launcher. -/
theorem loadsOf_concat_self (own : entry.isLoadOf launcher = true) :
    loadsOf launcher (entries ++ [entry]) = loadsOf launcher entries ++ [entry] := by
  simp [loadsOf, own]

/-- Other calls are no loads of a launcher. -/
theorem loadsOf_concat_other (other : entry.isLoadOf launcher = false) :
    loadsOf launcher (entries ++ [entry]) = loadsOf launcher entries := by
  simp [loadsOf, other]

/-- A launcher that has just been made is the newest. -/
@[simp] theorem newest?_concat_created (entries : List JournalEntry) (launcher : LauncherId) :
    newest? (entries ++ [.created launcher]) = some launcher := by
  simp [newest?, call]

/-- Other calls leave the newest launcher the newest. -/
theorem newest?_concat (other : entry.call.made? = none) :
    newest? (entries ++ [entry]) = newest? entries := by
  simp [newest?, LauncherCall.made_concat _ other]

@[simp] theorem isLoadOf_loaded (launcher : LauncherId) (outcome : Outcome BuildFailure Settings) :
    (loaded launcher outcome).isLoadOf launcher = true := by
  simp [isLoadOf, call, LauncherCall.isLoad, LauncherCall.launcher]

@[simp] theorem isLoadOf_configured (launcher : LauncherId)
    (outcome : Outcome BuildFailure ConfiguredBuild) :
    (configured launcher outcome).isLoadOf launcher = true := by
  simp [isLoadOf, call, LauncherCall.isLoad, LauncherCall.launcher]

/-- Successful loads of settings are loads. -/
theorem isLoadOf_of_loads (loaded : entry.loads launcher = true) :
    entry.isLoadOf launcher = true := by
  cases entry with
  | loaded number outcome => cases outcome <;> simp_all [loads]
  | _ => simp [loads] at loaded

/-- Successful calls that configure are loads. -/
theorem isLoadOf_of_configures (configured : entry.configures launcher = true) :
    entry.isLoadOf launcher = true := by
  cases entry with
  | configured number outcome => cases outcome <;> simp_all [configures]
  | _ => simp [configures] at configured

end JournalEntry

open JournalEntry (loadsOf newest?)

/-- What the loads of a launcher have made of its slot.  Settings are loaded only as long as they
are not known, and so is the configured build. -/
inductive Loading (launcher : LauncherId) : LauncherSlot → List JournalEntry → Prop
  | nothing : Loading launcher { launcher := some launcher } []
  | load {slot : LauncherSlot} {entries : List JournalEntry}
      (loading : Loading launcher slot entries) (unknown : slot.settings = none)
      (outcome : Outcome BuildFailure Settings) :
      Loading launcher (slot.withSettings outcome) (entries ++ [.loaded launcher outcome])
  | configure {slot : LauncherSlot} {entries : List JournalEntry}
      (loading : Loading launcher slot entries) (unknown : slot.configured = none)
      (outcome : Outcome BuildFailure ConfiguredBuild) :
      Loading launcher (slot.withConfigured outcome) (entries ++ [.configured launcher outcome])

namespace Loading

variable {launcher : LauncherId} {slot : LauncherSlot} {entries : List JournalEntry}

/-- The settings of a configured build are those that are known. -/
theorem settings_of_configured (loading : Loading launcher slot entries)
    {configured : ConfiguredBuild} (known : slot.configured = some configured) :
    slot.settings = some configured.settings := by
  induction loading with
  | nothing => simp at known
  | load loading unknown outcome ih =>
    cases outcome with
    | returned settings =>
      have earlier := ih known
      simp [unknown] at earlier
    | _ => exact ih known
  | configure loading unknown outcome ih =>
    cases outcome with
    | returned value =>
      obtain rfl : value = configured := Option.some.inj known
      rfl
    | _ => exact ih known

/-- If the settings are not known, then neither is the configured build. -/
theorem configured_of_settings (loading : Loading launcher slot entries)
    (unknown : slot.settings = none) : slot.configured = none := by
  cases known : slot.configured with
  | none => rfl
  | some configured => simp [loading.settings_of_configured known] at unknown

/-- A configured build that is known was returned by the launcher. -/
theorem mem_of_configured (loading : Loading launcher slot entries) {configured : ConfiguredBuild}
    (known : slot.configured = some configured) :
    .configured launcher (.returned configured) ∈ entries := by
  induction loading with
  | nothing => simp at known
  | load loading unknown outcome ih =>
    cases outcome <;> exact List.mem_append_left _ (ih known)
  | configure loading unknown outcome ih =>
    cases outcome with
    | returned value =>
      obtain rfl : value = configured := Option.some.inj known
      exact List.mem_append_right _ (List.mem_singleton_self _)
    | _ => exact List.mem_append_left _ (ih known)

/-- Settings that are known were returned by the launcher, alone or with a configured build. -/
theorem mem_of_settings (loading : Loading launcher slot entries) {settings : Settings}
    (known : slot.settings = some settings) :
    .loaded launcher (.returned settings) ∈ entries ∨
      ∃ configured, .configured launcher (.returned configured) ∈ entries ∧
        configured.settings = settings := by
  have weaken {entries : List JournalEntry} (entry : JournalEntry) :
      .loaded launcher (.returned settings) ∈ entries ∨
        (∃ configured, .configured launcher (.returned configured) ∈ entries ∧
          configured.settings = settings) →
      .loaded launcher (.returned settings) ∈ entries ++ [entry] ∨
        ∃ configured, .configured launcher (.returned configured) ∈ entries ++ [entry] ∧
          configured.settings = settings :=
    Or.imp (List.mem_append_left _) fun ⟨configured, member, same⟩ =>
      ⟨configured, List.mem_append_left _ member, same⟩
  induction loading with
  | nothing => simp at known
  | load loading unknown outcome ih =>
    cases outcome with
    | returned value =>
      obtain rfl : value = settings := Option.some.inj known
      exact .inl (List.mem_append_right _ (List.mem_singleton_self _))
    | _ => exact weaken _ (ih known)
  | configure loading unknown outcome ih =>
    cases outcome with
    | returned value =>
      exact .inr ⟨value, List.mem_append_right _ (List.mem_singleton_self _),
        Option.some.inj known⟩
    | _ => exact weaken _ (ih known)

/-- The settings are loaded once at most, and not at all if they are not known. -/
theorem countP_loads_le (loading : Loading launcher slot entries) :
    entries.countP (JournalEntry.loads launcher) ≤ slot.settings.isSome.toNat := by
  induction loading with
  | nothing => simp
  | load loading unknown outcome ih =>
    rw [unknown] at ih
    cases outcome <;> simp_all [LauncherSlot.withSettings, JournalEntry.loads]
  | @configure slot entries loading unknown outcome ih =>
    have kept : slot.settings.isSome.toNat ≤
        (slot.withConfigured outcome).settings.isSome.toNat := by
      cases outcome with
      | returned configured => exact Bool.toNat_le _
      | _ => exact Nat.le_refl _
    simpa [List.countP_append, JournalEntry.loads] using Nat.le_trans ih kept

/-- The build is configured once at most, and not at all if it is not known. -/
theorem countP_configures_le (loading : Loading launcher slot entries) :
    entries.countP (JournalEntry.configures launcher) ≤ slot.configured.isSome.toNat := by
  induction loading with
  | nothing => simp
  | load loading unknown outcome ih =>
    cases outcome <;> simpa [LauncherSlot.withSettings, JournalEntry.configures] using ih
  | configure loading unknown outcome ih =>
    rw [unknown] at ih
    cases outcome <;> simp_all [LauncherSlot.withConfigured, JournalEntry.configures]

/-- Once a launcher has configured the build, no settings are loaded through it. -/
theorem pairwise (loading : Loading launcher slot entries) :
    entries.Pairwise fun earlier later =>
      earlier.configures launcher = true → later.call ≠ .loadSettings launcher := by
  induction loading with
  | nothing => exact .nil
  | @load slot entries loading unknown outcome ih =>
    refine List.pairwise_append.mpr ⟨ih, List.pairwise_singleton _ _, ?_⟩
    intro earlier member later _ configures
    -- Unknown settings leave the configured build unknown, so nothing has configured it so far.
    have counted := loading.countP_configures_le
    rw [loading.configured_of_settings unknown] at counted
    have none := List.countP_eq_zero.mp (Nat.le_zero.mp counted) earlier member
    exact absurd configures none
  | configure loading unknown outcome ih =>
    refine List.pairwise_append.mpr ⟨ih, List.pairwise_singleton _ _, ?_⟩
    intro earlier member later last configures
    obtain rfl := List.mem_singleton.mp last
    simp [JournalEntry.call]

end Loading

/-! ### Coherent slots -/

/-- A slot is coherent with a journal if every launcher has loaded as it may, and the slot is empty
or as the loads of the newest launcher have left it, with the launcher or without. -/
structure LauncherSlot.Coherent (slot : LauncherSlot) (entries : List JournalEntry) : Prop where
  lives : ∀ launcher, ∃ known, Loading launcher known (loadsOf launcher entries)
  models : slot = {} ∨ ∃ launcher known, newest? entries = some launcher ∧
    Loading launcher known (loadsOf launcher entries) ∧
    (slot = known ∨ slot = { known with launcher := none })

/-- The loads of a launcher have left it where it was. -/
theorem Loading.launcher_eq {launcher : LauncherId} {slot : LauncherSlot}
    {entries : List JournalEntry} (loading : Loading launcher slot entries) :
    slot.launcher = some launcher := by
  induction loading with
  | nothing => rfl
  | load loading unknown outcome ih => simpa using ih
  | configure loading unknown outcome ih => simpa using ih

namespace LauncherSlot.Coherent

variable {slot : LauncherSlot} {entries : List JournalEntry} {launcher : LauncherId}

/-- An empty slot is coherent with an empty journal. -/
theorem nil : Coherent {} [] where
  lives _ := ⟨_, .nothing⟩
  models := .inl rfl

/-- A launcher in the slot is the newest, and its loads have left the slot as it is. -/
theorem of_held (coherent : slot.Coherent entries) (held : slot.launcher = some launcher) :
    newest? entries = some launcher ∧ Loading launcher slot (loadsOf launcher entries) := by
  rcases coherent.models with rfl | ⟨number, known, newest, loading, rfl | rfl⟩
  · simp at held
  · obtain rfl : number = launcher := Option.some.inj (loading.launcher_eq.symm.trans held)
    exact ⟨newest, loading⟩
  · simp at held

/-- A call that is no load and makes no launcher is no matter for a slot. -/
theorem other (coherent : slot.Coherent entries) {entry : JournalEntry}
    (noLoad : entry.call.isLoad = false) (makesNone : entry.call.made? = none) :
    slot.Coherent (entries ++ [entry]) := by
  have same (number : LauncherId) : loadsOf number (entries ++ [entry]) = loadsOf number entries :=
    JournalEntry.loadsOf_concat_other (by simp [JournalEntry.isLoadOf, noLoad])
  constructor
  · simpa only [same] using coherent.lives
  · simpa only [same, JournalEntry.newest?_concat makesNone] using coherent.models

/-- A launcher without loads comes into the slot. -/
theorem make (coherent : slot.Coherent entries) (unused : loadsOf launcher entries = []) :
    Coherent { launcher := some launcher } (entries ++ [.created launcher]) := by
  have same (number : LauncherId) :
      loadsOf number (entries ++ [.created launcher]) = loadsOf number entries :=
    JournalEntry.loadsOf_concat_other rfl
  constructor
  · simpa only [same] using coherent.lives
  · refine .inr ⟨launcher, _, JournalEntry.newest?_concat_created entries launcher, ?_, .inl rfl⟩
    rw [same, unused]
    exact .nothing

/-- A model is loaded through the launcher in the slot, or fails to be. -/
theorem load (coherent : slot.Coherent entries) (held : slot.launcher = some launcher)
    {entry : JournalEntry} (own : entry.isLoadOf launcher = true) {after : LauncherSlot}
    (loading : Loading launcher after (loadsOf launcher entries ++ [entry])) :
    after.Coherent (entries ++ [entry]) := by
  have makesNone : entry.call.made? = none := by
    cases entry <;> simp_all [JournalEntry.isLoadOf, JournalEntry.call, LauncherCall.isLoad,
      LauncherCall.made?]
  rw [← JournalEntry.loadsOf_concat_self own] at loading
  constructor
  · intro number
    by_cases same : number = launcher
    · subst same
      exact ⟨after, loading⟩
    · have other : entry.isLoadOf number = false := by
        simp only [JournalEntry.isLoadOf, Bool.and_eq_true, decide_eq_true_eq] at own
        simp [JournalEntry.isLoadOf, own.2, Ne.symm same]
      rw [JournalEntry.loadsOf_concat_other other]
      exact coherent.lives number
  · refine .inr ⟨launcher, after, ?_, loading, .inl rfl⟩
    rw [JournalEntry.newest?_concat makesNone]
    exact (coherent.of_held held).1

/-- A sweep takes the launcher in the slot and leaves the models. -/
theorem take (coherent : slot.Coherent entries) (held : slot.launcher = some launcher) :
    Coherent { slot with launcher := none } entries := by
  obtain ⟨newest, loading⟩ := coherent.of_held held
  exact ⟨coherent.lives, .inr ⟨launcher, slot, newest, loading, .inr rfl⟩⟩

/-- The models are forgotten. -/
theorem forget (coherent : slot.Coherent entries) : Coherent {} entries :=
  ⟨coherent.lives, .inl rfl⟩

end LauncherSlot.Coherent

/-! ### Coherence on the bench -/

namespace Bench

variable {inner : LauncherFactory σ ρ}

/-- The calls in the journal of the launchers of a build are in order with its bench, and the slot
is coherent with the journal. -/
structure Coherent (inner : LauncherFactory σ ρ) (now : Bench (Journaled σ)) : Prop where
  orderly : now.Orderly inner.journalRecorder
  coherent : now.slot.Coherent now.launchers.entries

/-- The next launcher has no loads. -/
theorem Coherent.loadsOf_next {now : Bench (Journaled σ)} (coherent : now.Coherent inner)
    (none : now.slot.launcher = Option.none) :
    loadsOf now.launchers.next now.launchers.entries = [] := by
  have orderly := coherent.orderly
  unfold Bench.Orderly at orderly
  rw [none] at orderly
  have unused := (orderly.of_next rfl).1
  refine List.filter_eq_nil_iff.mpr fun entry member load => ?_
  have noCall := List.filter_eq_nil_iff.mp unused entry.call
    (List.mem_map_of_mem (f := JournalEntry.call) member)
  simp only [JournalEntry.isLoadOf, Bool.and_eq_true] at load
  exact noCall load.2

/-- Every move keeps the slot coherent with the journal. -/
theorem Coherent.move {now next : Bench (Journaled σ)} (coherent : now.Coherent inner)
    (move : Move inner.journaled Journaled.entries now next) : next.Coherent inner := by
  refine ⟨coherent.orderly.move (move.of_view (List.map JournalEntry.call)), ?_⟩
  cases move with
  | make none => exact coherent.coherent.make (coherent.loadsOf_next none)
  | @loadSettings launcher held unknown =>
    have loading := (coherent.coherent.of_held held).2
    exact coherent.coherent.load held (JournalEntry.isLoadOf_loaded launcher _)
      (loading.load unknown _)
  | @configure launcher held unknown =>
    have loading := (coherent.coherent.of_held held).2
    exact coherent.coherent.load held (JournalEntry.isLoadOf_configured launcher _)
      (loading.configure unknown _)
  | take held something once => exact coherent.coherent.take held
  | request inHand => exact coherent.coherent.other rfl rfl
  | beginRun inHand => exact coherent.coherent.other rfl rfl
  | endRun launcher run => exact coherent.coherent
  | drop => exact coherent.coherent
  | forget none => exact coherent.coherent.forget
  | change launchers kept => exact kept ▸ coherent.coherent

end Bench

/-! ### What a load does -/

/-- A load that has failed or panicked has stored nothing and has left its launcher in the slot.  It
has made the launcher, and so forgotten the models of earlier ones, only if there was none.  The
journal gets the given entry for the launcher. -/
def IncludedBuild.LoadFailed (build after : IncludedBuild (Journaled σ) ρ)
    (entry : LauncherId → JournalEntry) : Prop :=
  ∃ launcher,
    (build.slot.launcher = some launcher ∧ after.slot = build.slot ∧
        after.launchers.entries = build.launchers.entries ++ [entry launcher] ∨
      build.slot.launcher = none ∧ after.slot = { launcher := some launcher } ∧
        after.launchers.entries =
          build.launchers.entries ++ [.created launcher, entry launcher]) ∧
    after.ensureLauncher.value = (launcher, after) ∧ after.takeLauncher.value.1 = launcher

namespace IncludedBuild

variable {inner : LauncherFactory σ ρ} (build : IncludedBuild (Journaled σ) ρ)

/-- Settings that are returned are known from then on. -/
theorem loadedSettings_returned (build : IncludedBuild σ ρ) {settings : Settings}
    (returned : build.loadedSettings.value.1 = .returned settings) :
    build.loadedSettings.value.2.slot.settings = some settings := by
  cases known : build.slot.settings with
  | some earlier =>
    rw [loadedSettings_known build known] at returned ⊢
    rw [known, Outcome.returned.inj returned]
  | none =>
    rw [loadedSettings_unknown build known] at returned ⊢
    simp only [loadThrough] at returned ⊢
    rw [returned]
    rfl

/-- A configured build that is returned is known from then on. -/
theorem configuredBuild_returned (build : IncludedBuild σ ρ) {configured : ConfiguredBuild}
    (returned : build.configuredBuild.value.1 = .returned configured) :
    build.configuredBuild.value.2.slot.configured = some configured := by
  cases known : build.slot.configured with
  | some earlier =>
    rw [configuredBuild_known build known] at returned ⊢
    rw [known, Outcome.returned.inj returned]
  | none =>
    rw [configuredBuild_unknown build known] at returned ⊢
    simp only [configureThrough] at returned ⊢
    rw [returned]
    rfl

variable {build}

/-- A load fails if it makes sure of a launcher, calls it, and leaves the slot alone after that. -/
theorem LoadFailed.of_ensured (journaled : build.factory = inner.journaled)
    {entry : LauncherId → JournalEntry} {after : IncludedBuild (Journaled σ) ρ}
    (slot : after.slot = build.ensureLauncher.value.2.slot)
    (noted : after.launchers.entries = build.ensureLauncher.value.2.launchers.entries ++
      [entry build.ensureLauncher.value.1]) : LoadFailed build after entry := by
  have held := slot ▸ (build.ensureLauncher_moves (fun _ => ()) none []).2.1
  refine ⟨build.ensureLauncher.value.1, ?_, ensureLauncher_held after held, ?_⟩
  · cases here : build.slot.launcher with
    | some launcher =>
      rw [ensureLauncher_held build here] at slot noted ⊢
      exact .inl ⟨rfl, slot, noted⟩
    | none =>
      rw [ensureLauncher_none build here] at slot noted ⊢
      simp only [withNewLauncher, journaled] at slot noted ⊢
      refine .inr ⟨trivial, slot, noted.trans ?_⟩
      exact List.append_assoc _ [_] [_]
  · rw [takeLauncher_held after held]

/-- Settings that cannot be loaded are not stored. -/
theorem loadedSettings_failed (journaled : build.factory = inner.journaled)
    (failed : ∀ settings, build.loadedSettings.value.1 ≠ .returned settings) :
    LoadFailed build build.loadedSettings.value.2
      (.loaded · build.loadedSettings.value.1) := by
  cases known : build.slot.settings with
  | some settings =>
    rw [loadedSettings_known build known] at failed
    exact absurd rfl (failed settings)
  | none =>
    have same := (build.ensureLauncher_moves (fun _ => ()) none []).2.2
    rw [loadedSettings_unknown build known] at failed ⊢
    refine .of_ensured journaled (LauncherSlot.withSettings_of_failed _ failed) ?_
    simp only [loadThrough, same, journaled]
    rfl

/-- A build that cannot be configured is not stored. -/
theorem configuredBuild_failed (journaled : build.factory = inner.journaled)
    (failed : ∀ configured, build.configuredBuild.value.1 ≠ .returned configured) :
    LoadFailed build build.configuredBuild.value.2
      (.configured · build.configuredBuild.value.1) := by
  cases known : build.slot.configured with
  | some configured =>
    rw [configuredBuild_known build known] at failed
    exact absurd rfl (failed configured)
  | none =>
    have same := (build.ensureLauncher_moves (fun _ => ()) none []).2.2
    rw [configuredBuild_unknown build known] at failed ⊢
    refine .of_ensured journaled (LauncherSlot.withConfigured_of_failed _ failed) ?_
    simp only [configureThrough, same, journaled]
    rfl

end IncludedBuild

/-! ### The law of models -/

namespace LauncherSlot.Coherent

variable {slot : LauncherSlot} {entries : List JournalEntry}

/-- Models that are known were left by the loads of the newest launcher. -/
theorem newest_of_known (coherent : slot.Coherent entries) (known : slot ≠ {}) :
    ∃ launcher left, newest? entries = some launcher ∧
      Loading launcher left (loadsOf launcher entries) ∧ slot.settings = left.settings ∧
      slot.configured = left.configured := by
  rcases coherent.models with empty | ⟨launcher, left, newest, loading, rfl | rfl⟩
  · exact absurd empty known
  · exact ⟨launcher, slot, newest, loading, rfl, rfl⟩
  · exact ⟨launcher, left, newest, loading, rfl, rfl⟩

/-- Settings that are known were returned by the newest launcher. -/
theorem newest_of_settings (coherent : slot.Coherent entries) {settings : Settings}
    (known : slot.settings = some settings) :
    ∃ launcher, newest? entries = some launcher ∧
      (.loaded launcher (.returned settings) ∈ entries ∨
        ∃ configured, .configured launcher (.returned configured) ∈ entries ∧
          configured.settings = settings) := by
  obtain ⟨launcher, left, newest, loading, same, -⟩ :=
    coherent.newest_of_known (by rintro rfl; simp at known)
  refine ⟨launcher, newest, ?_⟩
  exact (loading.mem_of_settings (same ▸ known)).imp List.mem_of_mem_filter
    fun ⟨configured, member, rest⟩ => ⟨configured, List.mem_of_mem_filter member, rest⟩

/-- A configured build that is known was returned by the newest launcher, and its settings are the
known ones. -/
theorem newest_of_configured (coherent : slot.Coherent entries) {configured : ConfiguredBuild}
    (known : slot.configured = some configured) :
    slot.settings = some configured.settings ∧
      ∃ launcher, newest? entries = some launcher ∧
        .configured launcher (.returned configured) ∈ entries := by
  obtain ⟨launcher, left, newest, loading, sameSettings, same⟩ :=
    coherent.newest_of_known (by rintro rfl; simp at known)
  refine ⟨sameSettings.trans (loading.settings_of_configured (same ▸ known)), launcher, newest, ?_⟩
  exact List.mem_of_mem_filter (loading.mem_of_configured (same ▸ known))

/-- Every launcher loads the settings and configures the build once at most, and loads no settings
after it has configured. -/
theorem loads_once (coherent : slot.Coherent entries) (launcher : LauncherId) :
    entries.countP (JournalEntry.loads launcher) ≤ 1 ∧
      entries.countP (JournalEntry.configures launcher) ≤ 1 ∧
      entries.Pairwise fun earlier later =>
        earlier.configures launcher = true → later.call ≠ .loadSettings launcher := by
  obtain ⟨left, loading⟩ := coherent.lives launcher
  -- What is counted in the journal is counted among the loads of the launcher.
  have among (p : JournalEntry → Bool)
      (loads : ∀ entry, p entry = true → entry.isLoadOf launcher = true) :
      entries.countP p = (loadsOf launcher entries).countP p := by
    rw [loadsOf, List.countP_filter]
    refine List.countP_congr fun entry _ => ?_
    simpa using loads entry
  refine ⟨?_, ?_, ?_⟩
  · rw [among _ fun _ => JournalEntry.isLoadOf_of_loads]
    exact Nat.le_trans loading.countP_loads_le (Bool.toNat_le _)
  · rw [among _ fun _ => JournalEntry.isLoadOf_of_configures]
    exact Nat.le_trans loading.countP_configures_le (Bool.toNat_le _)
  · refine (List.pairwise_filter.mp loading.pairwise).imp ?_
    intro earlier later apart configures loads
    refine apart (JournalEntry.isLoadOf_of_configures configures) ?_ configures loads
    simp [JournalEntry.isLoadOf, loads, LauncherCall.isLoad, LauncherCall.launcher]

end LauncherSlot.Coherent

namespace Callers

/-- **Models are coherent.**  Take launchers whose loads return any values, fail or panic, and any
interleaving of loads, of calls of await with their runs, and of whatever else may happen, in which
nobody tampers with the journal.  Then settings that are known were returned by a successful call on
the newest launcher; a configured build that is known was so too, and its settings are the known
ones; every launcher gets at most one successful call that loads settings and one that configures,
and none that loads settings after it has configured; what a load returns is known from then on; and
a load that fails or panics stores nothing, keeps its launcher in the slot and forgets models only
if it had to make that launcher. -/
theorem models_are_coherent (inner : LauncherFactory σ ρ) (name : BuildId) (projectDir : String)
    (launchers : σ) (actions : List (Action (Journaled σ)))
    (kept : (start name projectDir inner.journaled { state := launchers }).KeptAlong
      Journaled.entries actions) :
    let build := ((start name projectDir inner.journaled { state := launchers }).run actions).build
    let slot := build.slot
    let entries := build.launchers.entries
    let loaded := build.loadedSettings.value
    let computed := build.configuredBuild.value
    (∀ settings, slot.settings = some settings → ∃ launcher, newest? entries = some launcher ∧
      (.loaded launcher (.returned settings) ∈ entries ∨
        ∃ configured, .configured launcher (.returned configured) ∈ entries ∧
          configured.settings = settings)) ∧
    (∀ configured, slot.configured = some configured →
      slot.settings = some configured.settings ∧
      ∃ launcher, newest? entries = some launcher ∧
        .configured launcher (.returned configured) ∈ entries) ∧
    (∀ launcher, entries.countP (JournalEntry.loads launcher) ≤ 1 ∧
      entries.countP (JournalEntry.configures launcher) ≤ 1 ∧
      entries.Pairwise fun earlier later =>
        earlier.configures launcher = true → later.call ≠ .loadSettings launcher) ∧
    (∀ settings, loaded.1 = .returned settings → loaded.2.slot.settings = some settings) ∧
    ((∀ settings, loaded.1 ≠ .returned settings) →
      build.LoadFailed loaded.2 (.loaded · loaded.1)) ∧
    (∀ configured, computed.1 = .returned configured →
      computed.2.slot.configured = some configured) ∧
    ((∀ configured, computed.1 ≠ .returned configured) →
      build.LoadFailed computed.2 (.configured · computed.1)) := by
  intro build slot entries loaded computed
  have begins : Bench.Coherent inner
      (Custody.start name projectDir inner.journaled { state := launchers }).bench :=
    ⟨LauncherCall.Orderly.nil, .nil⟩
  obtain ⟨sound, bench⟩ := Custody.run_law Journaled.entries (P := Bench.Coherent inner)
    (.start name projectDir inner.journaled { state := launchers })
    (fun _ _ move coherent => coherent.move move) kept begins
  have same : ((Custody.start name projectDir inner.journaled { state := launchers }).run
      actions).callers.build = build := congrArg Callers.build (Custody.callers_run _ actions)
  have journaled : build.factory = inner.journaled := same ▸ sound.factory_eq
  have coherent : slot.Coherent entries := by
    have reached := bench.coherent
    simpa only [Custody.bench, IncludedBuild.bench, same] using reached
  exact ⟨fun _ => coherent.newest_of_settings, fun _ => coherent.newest_of_configured,
    coherent.loads_once,
    fun _ => build.loadedSettings_returned, IncludedBuild.loadedSettings_failed journaled,
    fun _ => build.configuredBuild_returned, IncludedBuild.configuredBuild_failed journaled⟩

/-- Settings cannot be loaded, then the build is configured through the same launcher, and a sweep
takes it; settings are asked for once more. -/
def loadAfterFailure : List (Action (Journaled (ScriptedLaunchers Unit))) :=
  let deploy : TaskPath := { text := ":deploy", qualified := by decide }
  [.beside .loadSettings, .beside .configure, .beside (.queue [deploy]), .enter, .proceed 0,
    .proceed 0, .proceed 0, .beside .loadSettings, .proceed 0, .proceed 0]

/-- In `loadAfterFailure` there is one launcher, which loads no settings after it has configured. -/
theorem models_are_coherent_afterFailure :
    let failure : BuildFailure := .ofMessage "no disk"
    let script : ScriptedLaunchers Unit :=
      { ScriptedLaunchers.ofProject "app" [] with settingsTroubles := [.failure failure] }
    let callers := start ⟨"app"⟩ "/app" ScriptedLaunchers.factory.journaled { state := script }
    let build := (callers.run loadAfterFailure).build
    let deploy : TaskPath := { text := ":deploy", qualified := by decide }
    let configured : ConfiguredBuild := { settings := script.settings, tasks := [] }
    callers.KeptAlong Journaled.entries loadAfterFailure ∧
    build.launchers.entries = [.created 1, .loaded 1 (.failed failure),
      .configured 1 (.returned configured), .requested 1 [deploy], .ran 1 [deploy]] ∧
    build.slot = { settings := some script.settings, configured := some configured } ∧
    build.launchers.entries.countP (JournalEntry.configures 1) ≤ 1 := by
  have kept : (start ⟨"app"⟩ "/app" ScriptedLaunchers.factory.journaled
      { state := { ScriptedLaunchers.ofProject "app" [] with
        settingsTroubles := [.failure (.ofMessage "no disk")] } }).KeptAlong Journaled.entries
      loadAfterFailure := .of_keepsLaunchers (by decide +kernel)
  obtain ⟨-, -, once, -⟩ := models_are_coherent ScriptedLaunchers.factory ⟨"app"⟩ "/app" _
    loadAfterFailure kept
  exact ⟨kept, by decide +kernel, by decide +kernel, (once 1).2.1⟩

end Callers

end CompositeBuild
