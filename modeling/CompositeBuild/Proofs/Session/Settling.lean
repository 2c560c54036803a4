import CompositeBuild.Proofs.Session.Workspace

/-!
# Settling the rules of builds

An attempt to settle the rules of a build either settles them or leaves the build as it is
(`SubstitutionState.resolve_cases`), so a second one after it changes nothing
(`IncludedBuild.settled_settled`) and it does not matter whether a build occurs twice among those
that are settled.  As long as it goes well every one of them is settled, and all others stay as they
are (`Session.settleAll_append`, `Session.build?_settleEach`).
-/

namespace CompositeBuild

variable {σ ρ : Type}

/-- Either the rules are settled for good, or nothing changes. -/
theorem SubstitutionState.resolve_cases (state : SubstitutionState) (build : BuildId) :
    (∃ subs, state.resolve build = (.returned subs, .resolved subs)) ∨
      ∃ trouble, (∀ subs, trouble ≠ .returned subs) ∧ state.resolve build = (trouble, state) := by
  cases state with
  | resolved subs => exact .inl ⟨subs, rfl⟩
  | collecting actions =>
    cases applied : applyAll actions { build } with
    | returned subs => exact .inl ⟨subs, by simp only [resolve, applied]⟩
    | failed error => exact .inr ⟨.failed error, by simp, by simp only [resolve, applied]⟩
    | panicked message => exact .inr ⟨.panicked message, by simp, by simp only [resolve, applied]⟩

namespace IncludedBuild

variable (build : IncludedBuild σ ρ)

/-- The build after an attempt to settle its rules. -/
def settled : IncludedBuild σ ρ := build.resolveSubstitutions.value.2

/-- The rules of the build can be settled. -/
def Settles : Prop := ∃ subs, build.resolveSubstitutions.value.1 = .returned subs

/-- Settling the rules of a build comes to what it comes to for the rules alone. -/
theorem resolveSubstitutions_outcome :
    build.resolveSubstitutions.value.1 = (build.substitutions.resolve build.name).1 := by
  unfold resolveSubstitutions
  obtain ⟨outcome, substitutions⟩ := build.substitutions.resolve build.name
  cases outcome with
  | returned subs => cases build.substitutions.isResolved <;> rfl
  | _ => rfl

variable {build} {subs : DependencySubstitutions}

/-- Rules that can be settled are settled for good. -/
theorem settled_of_returned (returned : build.resolveSubstitutions.value.1 = .returned subs) :
    build.settled = { build with substitutions := .resolved subs } := by
  rw [resolveSubstitutions_outcome] at returned
  rw [settled, resolveSubstitutions_build]
  rcases build.substitutions.resolve_cases build.name with
    ⟨rules, settles⟩ | ⟨trouble, differs, fails⟩
  · obtain rfl : rules = subs := by simpa [settles] using returned
    rw [settles]
  · exact absurd (by simpa [fails] using returned) (differs subs)

/-- A build whose rules cannot be settled stays as it is. -/
theorem settled_of_not_settles (fails : ¬build.Settles) : build.settled = build := by
  rw [Settles, resolveSubstitutions_outcome] at fails
  rw [settled, resolveSubstitutions_build]
  rcases build.substitutions.resolve_cases build.name with ⟨rules, settles⟩ | ⟨trouble, -, same⟩
  · exact absurd ⟨rules, by rw [settles]⟩ fails
  · rw [same]

/-- A second attempt to settle rules changes nothing. -/
theorem settled_settled (build : IncludedBuild σ ρ) : build.settled.settled = build.settled := by
  by_cases settles : build.Settles
  · obtain ⟨subs, returned⟩ := settles
    rw [settled_of_returned returned]
    rfl
  · rw [settled_of_not_settles settles, settled_of_not_settles settles]

/-- Settled rules can be settled. -/
theorem Settles.settled (settles : build.Settles) : build.settled.Settles := by
  obtain ⟨subs, returned⟩ := settles
  exact ⟨subs, by rw [settled_of_returned returned]; rfl⟩

end IncludedBuild

namespace Session

variable {session : Session σ ρ} {front back : List BuildRef}

/-- Settle the rules of one build, if there is one. -/
def settle (session : Session σ ρ) (ref : BuildRef) : Session σ ρ :=
  match session.build? ref with
  | some build => session.setBuild ref build.settled
  | none => session

/-- Settle the rules of builds, one after the other. -/
def settleEach (session : Session σ ρ) (refs : List BuildRef) : Session σ ρ :=
  refs.foldl settle session

/-- Settling the rules of a build changes no other one. -/
theorem build?_settle (session : Session σ ρ) (ref sought : BuildRef) :
    (session.settle ref).build? sought =
      if ref = sought then (session.build? sought).map (·.settled) else session.build? sought := by
  unfold settle
  by_cases same : ref = sought
  · subst same
    cases found : session.build? ref with
    | none => simp [found]
    | some build => simp [build?_setBuild, found]
  · cases session.build? ref with
    | none => simp [same]
    | some build => simp [build?_setBuild, same]

/-- Settling the rules of builds changes no other ones. -/
theorem build?_settleEach (session : Session σ ρ) (refs : List BuildRef) (sought : BuildRef) :
    (session.settleEach refs).build? sought =
      if sought ∈ refs then (session.build? sought).map (·.settled) else session.build? sought := by
  induction refs generalizing session with
  | nil => rfl
  | cons ref refs ih =>
    rw [settleEach, List.foldl_cons, ← settleEach, ih, build?_settle]
    by_cases same : ref = sought
    · subst same
      cases session.build? ref <;> simp [IncludedBuild.settled_settled]
    · simp [same, Ne.symm same]

/-- Settling rules never changes which builds there are by name. -/
theorem settleEach_registry (session : Session σ ρ) (refs : List BuildRef) :
    (session.settleEach refs).registry = session.registry := by
  induction refs generalizing session with
  | nil => rfl
  | cons ref refs ih =>
    rw [settleEach, List.foldl_cons, ← settleEach, ih, settle]
    split <;> rfl

/-- Builds whose rules can be settled are settled before those behind them. -/
theorem settleAll_append
    (settles : ∀ ref ∈ front, ∀ build, session.build? ref = some build → build.Settles) :
    (settleAll (front ++ back) session).value =
      (settleAll back (session.settleEach front)).value := by
  induction front generalizing session with
  | nil => rfl
  | cons ref front ih =>
    -- The first build may occur again behind itself; it is settled then.
    have rest : ∀ other ∈ front, ∀ build, (session.settle ref).build? other = some build →
        build.Settles := by
      intro other member build found
      rw [build?_settle] at found
      split at found
      · obtain ⟨before, there, rfl⟩ := Option.map_eq_some_iff.mp found
        exact (settles other (List.mem_cons_of_mem _ member) before there).settled
      · exact settles other (List.mem_cons_of_mem _ member) build found
    rw [settleEach, List.foldl_cons, ← settleEach, ← ih rest, List.cons_append]
    cases found : session.build? ref with
    | none => simp only [settleAll, settle, found]
    | some build =>
      obtain ⟨subs, returned⟩ := settles ref (List.mem_cons_self ..) build found
      simp only [settleAll, settle, found, Logged.bind_value, returned, IncludedBuild.settled]

/-- Builds whose rules can be settled are settled. -/
theorem settleAll_of_settles
    (settles : ∀ ref ∈ front, ∀ build, session.build? ref = some build → build.Settles) :
    (settleAll front session).value = (.returned (), session.settleEach front) := by
  have all : (settleAll (front ++ []) session).value =
      (settleAll [] (session.settleEach front)).value := settleAll_append settles
  rwa [List.append_nil] at all

/-- The execution begins well if the rules of every registered build can be settled. -/
theorem beginExecution_of_settles (settles : ∀ ref ∈ session.registry.builds.values,
      ∀ build, session.build? ref = some build → build.Settles) :
    session.beginExecution.value =
      (.returned (), session.close.value.settleEach session.registry.builds.values) := by
  have closed : ∀ ref ∈ session.registry.builds.values, ∀ build,
      session.close.value.build? ref = some build → build.Settles := by
    rw [close_value]
    exact settles
  have builds : session.close.value.registry.builds = session.registry.builds := by
    rw [close_value]
    rfl
  simp only [beginExecution, Logged.bind_value, builds, settleAll_of_settles closed,
    Logged.pure_value]

end Session

end CompositeBuild
