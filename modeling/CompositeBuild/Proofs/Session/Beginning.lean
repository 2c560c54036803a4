import CompositeBuild.Proofs.Session.Closing
import CompositeBuild.Proofs.Session.Starting
import CompositeBuild.Proofs.Substitution.Settlement

/-!
# The beginning of the execution

When the execution begins the configuration ends, and the rules of the registered builds are settled
in the order of their names, up to the first build whose actions do not all return
(`Session.beginExecution_of_fails`).  The builds in front of it keep what they got, it keeps its
actions, and so does every build behind it and every build that is not registered.

A second beginning comes to the same, whatever happens in between, as long as no action is
registered: what was settled stays settled, what would be settled still would be, and the build that
failed still fails in the same way (`IncludedBuild.Endures`).

For this an action has to do the same at every attempt, as a function of the rule set does.  An
action that looks at something outside its build may do something else the next time
(`RuleEvent.change`), and then so may a second beginning.  No other law is touched by that: one
beginning attempts each build once, and what was settled is never attempted again.
-/

namespace CompositeBuild

open SubstitutionState

variable {σ ρ : Type}

/-! ### What becomes of the rules of one build -/

/-- A second attempt to settle rules changes nothing. -/
theorem SubstitutionState.resolve_resolve (state : SubstitutionState) (build : BuildId) :
    ((state.resolve build).2.resolve build).2 = (state.resolve build).2 := by
  rcases state.resolve_cases build with ⟨subs, settles⟩ | ⟨trouble, -, fails⟩
  · rw [settles]
    rfl
  · rw [fails, fails]

namespace IncludedBuild

/-- The rules of a build are `subs` already, or its actions all return and lead to them. -/
inductive Freezes (build : IncludedBuild σ ρ) (subs : DependencySubstitutions) : Prop
  | already (resolved : build.substitutions = .resolved subs)
  | now {actions : List SubstitutionAction}
      (collecting : build.substitutions = .collecting actions)
      (applies : Applies actions { build := build.name } subs)

/-- The first action of a build that does not return ends in `trouble`. -/
def FailsWith (build : IncludedBuild σ ρ)
    (trouble : Outcome SubstitutionError DependencySubstitutions) : Prop :=
  ∃ actions, build.substitutions = .collecting actions ∧
    Breaks actions { build := build.name } trouble

variable {build later : IncludedBuild σ ρ} {subs : DependencySubstitutions}
  {trouble : Outcome SubstitutionError DependencySubstitutions}

/-- An attempt to settle rules returns what they are then. -/
theorem resolveSubstitutions_eq_returned_iff :
    build.resolveSubstitutions.value.1 = .returned subs ↔ build.Freezes subs := by
  cases rules : build.substitutions with
  | resolved settled =>
    rw [(attempt_of_resolved rules).1, Logged.pure_value, Outcome.returned.injEq]
    constructor
    · rintro rfl
      exact .already rules
    · rintro (resolved | ⟨collecting, -⟩)
      · exact SubstitutionState.resolved.inj (rules.symm.trans resolved)
      · cases rules.symm.trans collecting
  | collecting actions =>
    obtain ⟨-, returns, -⟩ := attempt_of_collecting rules
    rw [returns]
    constructor
    · exact .now rules
    · rintro (resolved | ⟨collecting, applies⟩)
      · cases rules.symm.trans resolved
      · exact SubstitutionState.collecting.inj (rules.symm.trans collecting) ▸ applies

/-- An attempt to settle the rules of a build that fails leaves it as it is. -/
theorem FailsWith.resolveSubstitutions (fails : build.FailsWith trouble) :
    build.resolveSubstitutions.value = (trouble, build) := by
  obtain ⟨actions, collecting, breaks⟩ := fails
  have outcome : build.resolveSubstitutions.value.1 = trouble := by
    rw [resolveSubstitutions_outcome, collecting, resolve_of_breaks breaks]
  refine Prod.ext outcome ?_
  rw [resolveSubstitutions_build, collecting, resolve_of_breaks breaks, ← collecting]

/-- The rules of a build freeze, or it fails. -/
theorem freezes_or_failsWith (build : IncludedBuild σ ρ) :
    (∃ subs, build.Freezes subs) ∨ ∃ trouble, build.FailsWith trouble := by
  cases rules : build.substitutions with
  | resolved subs => exact .inl ⟨subs, .already rules⟩
  | collecting actions =>
    exact (applies_or_breaks actions { build := build.name }).imp
      (fun ⟨subs, applies⟩ => ⟨subs, .now rules applies⟩)
      (fun ⟨trouble, breaks⟩ => ⟨trouble, actions, rules, breaks⟩)

/-- Who fails returns nothing. -/
theorem FailsWith.ne_returned (fails : build.FailsWith trouble) (subs : DependencySubstitutions) :
    trouble ≠ .returned subs := by
  obtain ⟨-, -, -, -, -, -, -, -, -, differs⟩ := fails
  exact differs subs

/-- A build that fails cannot be settled. -/
theorem FailsWith.not_settles (fails : build.FailsWith trouble) : ¬build.Settles := by
  rintro ⟨subs, returned⟩
  rw [fails.resolveSubstitutions] at returned
  exact fails.ne_returned subs returned

/-- Rules that freeze can be settled. -/
theorem Freezes.settles (freezes : build.Freezes subs) : build.Settles :=
  ⟨subs, resolveSubstitutions_eq_returned_iff.mpr freezes⟩

/-- Rules that freeze are settled. -/
theorem Freezes.settled (freezes : build.Freezes subs) :
    build.settled = { build with substitutions := .resolved subs } :=
  settled_of_returned (resolveSubstitutions_eq_returned_iff.mpr freezes)

/-- A build whose rules are settled is not changed by settling them. -/
theorem settled_of_resolved (resolved : build.substitutions = .resolved subs) :
    build.settled = build := by
  rw [IncludedBuild.settled, (attempt_of_resolved resolved).1, Logged.pure_value]

/-! ### What endures -/

/-- Later the build has still its name, and its rules are as they were or as an attempt to settle
them would have left them. -/
def Endures (build later : IncludedBuild σ ρ) : Prop :=
  later.name = build.name ∧
    (later.substitutions = build.substitutions ∨
      later.substitutions = (build.substitutions.resolve build.name).2)

theorem Endures.refl (build : IncludedBuild σ ρ) : build.Endures build := ⟨rfl, .inl rfl⟩

theorem Endures.trans {middle : IncludedBuild σ ρ} (first : build.Endures middle)
    (second : middle.Endures later) : build.Endures later := by
  obtain ⟨name, rules⟩ := first
  obtain ⟨name', rules'⟩ := second
  rw [name] at name' rules'
  refine ⟨name', ?_⟩
  rcases rules with same | attempted
  · rwa [same] at rules'
  · rw [attempted, resolve_resolve, or_self] at rules'
    exact .inr rules'

/-- Failing endures. -/
theorem FailsWith.endures (fails : build.FailsWith trouble) (endures : build.Endures later) :
    later.FailsWith trouble := by
  obtain ⟨actions, collecting, breaks⟩ := fails
  obtain ⟨name, same | attempted⟩ := endures
  · exact ⟨actions, same.trans collecting, name ▸ breaks⟩
  · rw [collecting, resolve_of_breaks breaks] at attempted
    exact ⟨actions, attempted, name ▸ breaks⟩

end IncludedBuild

/-- Whether an action registers one that writes rules. -/
def Action.registers : Action σ → Bool
  | .beside (.registerSubstitution _) => true
  | _ => false

namespace Callers

/-- What happens to a build endures, if no action is registered. -/
theorem endures_step (callers : Callers σ ρ) {action : Action σ}
    (quiet : action.registers = false) : callers.build.Endures (callers.step action).build := by
  refine ⟨callers.step_name action, ?_⟩
  rw [substitutions_step]
  cases action with
  | beside side =>
    cases side with
    | registerSubstitution action => simp [Action.registers] at quiet
    | resolveSubstitutions => exact .inr rfl
    | _ => exact .inl rfl
  | _ => exact .inl rfl

/-- Whatever happens to a build endures, if no action is registered. -/
theorem endures_run (callers : Callers σ ρ) {actions : List (Action σ)}
    (quiet : ∀ action ∈ actions, action.registers = false) :
    callers.build.Endures (callers.run actions).build :=
  run_preserves (P := fun later => callers.build.Endures later.build)
    (fun action member before endures => endures.trans (before.endures_step (quiet action member)))
    (.refl _)

end Callers

/-! ### Up to the first build that fails -/

namespace Session

/-- What the execution begins with when settling the rules of a build ends in trouble. -/
def beginningOf : Outcome SubstitutionError DependencySubstitutions → Outcome CompositeError Unit
  | .returned _ => .returned ()
  | .failed error => .failed (.substitution error)
  | .panicked message => .panicked message

variable {session begun : Session σ ρ} {refs front back : List BuildRef} {ref : BuildRef}
  {build : IncludedBuild σ ρ} {trouble : Outcome SubstitutionError DependencySubstitutions}

/-- The execution begins with the first build that fails, and leaves it and those behind it alone.
-/
theorem beginExecution_of_fails (split : session.registry.builds.values = front ++ ref :: back)
    (settles : ∀ other ∈ front, ∀ build, session.build? other = some build → build.Settles)
    (found : session.build? ref = some build) (fails : build.FailsWith trouble) :
    session.beginExecution.value = (beginningOf trouble, session.close.value.settleEach front) := by
  have builds : session.close.value.registry.builds.values = front ++ ref :: back := by
    rw [close_value]
    exact split
  have closed : ∀ other ∈ front, ∀ build, session.close.value.build? other = some build →
      build.Settles := by
    rw [close_value]
    exact settles
  have apart : ref ∉ front := fun member => fails.not_settles (settles ref member build found)
  have here : (session.close.value.settleEach front).build? ref = some build := by
    rw [build?_settleEach, if_neg apart, close_value]
    exact found
  cases trouble with
  | returned subs => exact absurd rfl (fails.ne_returned subs)
  | failed error =>
    simp only [beginExecution, Logged.bind_value, builds, settleAll_append closed, settleAll, here,
      fails.resolveSubstitutions, setBuild_self here]
    rfl
  | panicked message =>
    simp only [beginExecution, Logged.bind_value, builds, settleAll_append closed, settleAll, here,
      fails.resolveSubstitutions, setBuild_self here]
    rfl

/-- Builds that are listed are those that names stand for. -/
theorem Sound.map_fst_registered (sound : session.Sound) :
    session.registered.map (·.1) = session.registry.builds.values := by
  have found : ∀ ref ∈ session.registry.builds.values,
      Option.map (·.1) (do return (ref, ← session.build? ref)) = some ref := by
    intro ref member
    obtain ⟨name, bound⟩ := NameMap.mem_values_iff.mp member
    obtain ⟨build, found, -⟩ := sound.bound ⟨name⟩ ref bound
    simp [found]
  rw [registered, List.map_filterMap, List.filterMap_congr found, List.filterMap_some]

/-- Some listed build is the first that fails, if not all rules freeze. -/
theorem exists_first_failing (listed : List (BuildRef × IncludedBuild σ ρ)) :
    (∀ entry ∈ listed, ∃ subs, entry.2.Freezes subs) ∨
      ∃ front ref build back trouble, listed = front ++ (ref, build) :: back ∧
        (∀ entry ∈ front, ∃ subs, entry.2.Freezes subs) ∧ build.FailsWith trouble := by
  induction listed with
  | nil => exact .inl (by simp)
  | cons first listed ih =>
    rcases first.2.freezes_or_failsWith with freezes | ⟨trouble, fails⟩
    · have extended {others : List (BuildRef × IncludedBuild σ ρ)}
          (all : ∀ entry ∈ others, ∃ subs, entry.2.Freezes subs) :
          ∀ entry ∈ first :: others, ∃ subs, entry.2.Freezes subs :=
        List.forall_mem_cons.mpr ⟨freezes, all⟩
      rcases ih with all | ⟨front, ref, build, back, trouble, rfl, all, fails⟩
      · exact .inl (extended all)
      · exact .inr ⟨first :: front, ref, build, back, trouble, rfl, extended all, fails⟩
    · exact .inr ⟨[], first.1, first.2, listed, trouble, rfl, by simp, fails⟩

/-- Closing again changes nothing. -/
theorem close_of_closed (closed : session.registry.closed = true) :
    session.close.value = session := by
  simp only [close_value, Registry.close, ← closed]

/-- Settling settled rules changes nothing. -/
theorem settleEach_eq_self
    (fixed : ∀ ref ∈ refs, ∀ build, session.build? ref = some build → build.settled = build) :
    session.settleEach refs = session := by
  induction refs with
  | nil => rfl
  | cons ref refs ih =>
    have same : session.settle ref = session := by
      unfold settle
      split
      · next build found =>
        rw [fixed ref (List.mem_cons_self ..) build found]
        exact setBuild_self found
      · rfl
    rw [settleEach, List.foldl_cons, same]
    exact ih fun ref member => fixed ref (List.mem_cons_of_mem _ member)

/-- How the execution begins with the builds in front and those at the back: the rules of the ones
in front freeze, and no other build changes.  Either there are no others, or the next one fails. -/
structure Begins (session begun : Session σ ρ) (outcome : Outcome CompositeError Unit)
    (front back : List (BuildRef × IncludedBuild σ ρ)) : Prop where
  split : session.registered = front ++ back
  frozen : ∀ ref build, (ref, build) ∈ front → ∃ subs, build.Freezes subs ∧
    begun.build? ref = some { build with substitutions := .resolved subs }
  others : ∀ ref build, session.build? ref = some build → (ref, build) ∉ front →
    begun.build? ref = some build
  absent : ∀ ref, session.build? ref = none → begun.build? ref = none
  outcome : (back = [] ∧ outcome = .returned ()) ∨
    ∃ ref build behind trouble, back = (ref, build) :: behind ∧ build.FailsWith trouble ∧
      outcome = beginningOf trouble

namespace Begins

variable {outcome : Outcome CompositeError Unit} {front back : List (BuildRef × IncludedBuild σ ρ)}
  (begins : session.Begins begun outcome front back)

include begins

/-- The execution begins well exactly if the rules of all listed builds freeze. -/
theorem eq_returned_iff :
    outcome = .returned () ↔ ∀ entry ∈ session.registered, ∃ subs, entry.2.Freezes subs := by
  rw [begins.split]
  rcases begins.outcome with ⟨rfl, rfl⟩ | ⟨ref, build, behind, trouble, rfl, fails, rfl⟩
  · refine iff_of_true rfl fun entry member => ?_
    rw [List.append_nil] at member
    obtain ⟨subs, freezes, -⟩ := begins.frozen entry.1 entry.2 member
    exact ⟨subs, freezes⟩
  · refine iff_of_false ?_ fun all => ?_
    · cases trouble with
      | returned subs => exact absurd rfl (fails.ne_returned subs)
      | _ => simp [beginningOf]
    · obtain ⟨subs, freezes⟩ := all (ref, build) (by simp)
      exact fails.not_settles freezes.settles

/-- Builds whose rules were settled before stay as they are. -/
theorem build?_of_resolved {subs : DependencySubstitutions}
    (found : session.build? ref = some build) (resolved : build.substitutions = .resolved subs) :
    begun.build? ref = some build := by
  by_cases member : (ref, build) ∈ front
  · obtain ⟨other, freezes, there⟩ := begins.frozen ref build member
    rw [there, ← freezes.settled, IncludedBuild.settled_of_resolved resolved]
  · exact begins.others ref build found member

/-- Builds whose rules are not settled then have stayed as they were. -/
theorem build?_of_collecting {actions : List SubstitutionAction}
    (found : begun.build? ref = some build)
    (collecting : build.substitutions = .collecting actions) :
    session.build? ref = some build := by
  cases before : session.build? ref with
  | none =>
    rw [begins.absent ref before] at found
    cases found
  | some earlier =>
    by_cases member : (ref, earlier) ∈ front
    · obtain ⟨subs, -, there⟩ := begins.frozen ref earlier member
      rw [there, Option.some.injEq] at found
      rw [← found] at collecting
      cases collecting
    · exact (begins.others ref earlier before member).symm.trans found

/-- Rules are settled then exactly if the build is in front or they were settled before. -/
theorem isResolved_iff (found : session.build? ref = some build) :
    ∃ after, begun.build? ref = some after ∧ (after.substitutions.isResolved ↔
      (ref, build) ∈ front ∨ build.substitutions.isResolved) := by
  by_cases member : (ref, build) ∈ front
  · obtain ⟨subs, -, there⟩ := begins.frozen ref build member
    exact ⟨_, there, by simp [isResolved, member]⟩
  · exact ⟨build, begins.others ref build found member, by simp [member]⟩

end Begins

/-- Listed builds are builds of the session. -/
theorem Sound.build?_of_mem_registered (sound : session.Sound)
    (member : (ref, build) ∈ session.registered) : session.build? ref = some build :=
  (Session.find?_eq_some_iff.mp (sound.mem_registered_iff.mp member)).2

/-- Settling builds in front whose rules freeze changes these and no others. -/
theorem Sound.settleEach_front (sound : session.Sound)
    {front back : List (BuildRef × IncludedBuild σ ρ)} (split : session.registered = front ++ back)
    (freezes : ∀ entry ∈ front, ∃ subs, entry.2.Freezes subs) :
    let begun := session.close.value.settleEach (front.map (·.1))
    (∀ ref build, (ref, build) ∈ front → ∃ subs, build.Freezes subs ∧
      begun.build? ref = some { build with substitutions := .resolved subs }) ∧
    (∀ ref build, session.build? ref = some build → (ref, build) ∉ front →
      begun.build? ref = some build) ∧
    ∀ ref, session.build? ref = none → begun.build? ref = none := by
  have here {ref : BuildRef} {build : IncludedBuild σ ρ} (member : (ref, build) ∈ front) :
      session.build? ref = some build :=
    sound.build?_of_mem_registered (split ▸ List.mem_append_left back member)
  have there (sought : BuildRef) : session.close.value.build? sought = session.build? sought := by
    rw [close_value]
    rfl
  refine ⟨fun ref build member => ?_, fun ref build found apart => ?_, fun ref absent => ?_⟩
  · obtain ⟨subs, frozen⟩ := freezes _ member
    refine ⟨subs, frozen, ?_⟩
    rw [build?_settleEach, if_pos (List.mem_map.mpr ⟨_, member, rfl⟩), there, here member,
      Option.map_some, frozen.settled]
  · have unsettled : ref ∉ front.map (·.1) := by
      intro member
      obtain ⟨⟨other, listed⟩, inFront, rfl⟩ := List.mem_map.mp member
      obtain rfl : build = listed := Option.some.inj (found.symm.trans (here inFront))
      exact apart inFront
    rw [build?_settleEach, if_neg unsettled, there, found]
  · rw [build?_settleEach, there, absent, Option.map_none, ite_self]

/-- The execution begins with all builds up to the first that fails. -/
theorem Sound.begins (sound : session.Sound) :
    ∃ front back, session.Begins session.beginExecution.value.2 session.beginExecution.value.1
      front back := by
  have settles {front back : List (BuildRef × IncludedBuild σ ρ)}
      (split : session.registered = front ++ back)
      (freezes : ∀ entry ∈ front, ∃ subs, entry.2.Freezes subs) :
      ∀ ref ∈ front.map (·.1), ∀ build, session.build? ref = some build → build.Settles := by
    intro ref member build found
    obtain ⟨⟨other, listed⟩, inFront, rfl⟩ := List.mem_map.mp member
    have here := sound.build?_of_mem_registered (split ▸ List.mem_append_left back inFront)
    obtain rfl : build = listed := Option.some.inj (found.symm.trans here)
    obtain ⟨subs, frozen⟩ := freezes _ inFront
    exact frozen.settles
  rcases exists_first_failing session.registered with
    all | ⟨front, ref, build, back, trouble, split, freezes, fails⟩
  · have split : session.registered = session.registered ++ [] := (List.append_nil _).symm
    obtain ⟨frozen, others, absent⟩ := sound.settleEach_front split all
    have value : session.beginExecution.value = (.returned (),
        session.close.value.settleEach (session.registered.map (·.1))) := by
      have every := settles split all
      rw [sound.map_fst_registered] at every ⊢
      exact beginExecution_of_settles every
    rw [value]
    exact ⟨session.registered, [], split, frozen, others, absent, .inl ⟨rfl, rfl⟩⟩
  · obtain ⟨frozen, others, absent⟩ := sound.settleEach_front split freezes
    have refs : session.registry.builds.values = front.map (·.1) ++ ref :: back.map (·.1) := by
      rw [← sound.map_fst_registered, split, List.map_append, List.map_cons]
    have found : session.build? ref = some build :=
      sound.build?_of_mem_registered (split ▸ by simp)
    rw [beginExecution_of_fails refs (settles split freezes) found fails]
    exact ⟨front, (ref, build) :: back, split, frozen, others, absent,
      .inr ⟨ref, build, back, trouble, rfl, fails, rfl⟩⟩

/-- Beginning again comes to the same and changes nothing, if nothing was registered since. -/
theorem Sound.beginExecution_again (sound : session.Sound) {again : Session σ ρ}
    (same : again.registry = session.registry.close)
    (endures : ∀ ref build, session.beginExecution.value.2.build? ref = some build →
      ∃ later, again.build? ref = some later ∧ build.Endures later) :
    again.beginExecution.value = (session.beginExecution.value.1, again) := by
  obtain ⟨front, back, begins⟩ := sound.begins
  have closed : again.close.value = again := close_of_closed (by rw [same]; rfl)
  have refs : again.registry.builds.values = (front ++ back).map (·.1) := by
    rw [← begins.split, sound.map_fst_registered, same]
    rfl
  -- What was settled at the first beginning still is.
  have resolved {ref : BuildRef} {later : IncludedBuild σ ρ} (member : ref ∈ front.map (·.1))
      (found : again.build? ref = some later) : ∃ subs, later.substitutions = .resolved subs := by
    obtain ⟨⟨other, build⟩, inFront, rfl⟩ := List.mem_map.mp member
    obtain ⟨subs, -, there⟩ := begins.frozen other build inFront
    obtain ⟨changed, here, -, rules⟩ := endures other _ there
    obtain rfl : later = changed := Option.some.inj (found.symm.trans here)
    exact ⟨subs, (or_self_iff.mp rules)⟩
  have settles : ∀ ref ∈ front.map (·.1), ∀ later, again.build? ref = some later →
      later.Settles := by
    intro ref member later found
    obtain ⟨subs, rules⟩ := resolved member found
    exact (IncludedBuild.Freezes.already rules).settles
  have unchanged : again.settleEach (front.map (·.1)) = again := by
    refine settleEach_eq_self fun ref member later found => ?_
    obtain ⟨subs, rules⟩ := resolved member found
    exact IncludedBuild.settled_of_resolved rules
  rcases begins.outcome with ⟨rfl, outcome⟩ | ⟨ref, build, behind, trouble, rfl, fails, outcome⟩
  · rw [List.append_nil] at refs
    rw [beginExecution_of_settles (refs ▸ settles), outcome, refs, closed, unchanged]
  · have listed : (ref, build) ∈ session.registered := begins.split ▸ by simp
    have apart : (ref, build) ∉ front := by
      intro member
      obtain ⟨subs, frozen, -⟩ := begins.frozen ref build member
      exact fails.not_settles frozen.settles
    obtain ⟨later, found, endured⟩ := endures ref build
      (begins.others ref build (sound.build?_of_mem_registered listed) apart)
    rw [List.map_append, List.map_cons] at refs
    rw [beginExecution_of_fails refs settles found (fails.endures endured), outcome, closed,
      unchanged]

end Session

/-! ### Whatever happens afterwards -/

namespace Workspace

variable {workspace : Workspace σ ρ} {ref : BuildRef} {build : IncludedBuild σ ρ}

/-- Every build becomes what it becomes by actions that happen to it as operations, attempts to
settle its rules, and what a session lets happen to it when it is asked for something else. -/
theorem exists_actions (operations : List (Operation σ ρ))
    (found : workspace.session.build? ref = some build) :
    ∃ (callers : Callers σ ρ) (actions : List (Action σ)), callers.build = build ∧
      (workspace.run operations).session.build? ref = some (callers.run actions).build ∧
      ∀ action ∈ actions, .act ref action ∈ operations ∨
        action = .beside .resolveSubstitutions ∨ action.isRoutine = true := by
  obtain ⟨turns, happened, among⟩ := workspace.exists_turns operations
  obtain ⟨chronicle, there, rfl⟩ := Concourse.exists_chronicle found
  refine ⟨chronicle.callers, Concourse.actionsOf ref workspace.concourse turns, rfl, ?_,
    fun action member => ?_⟩
  · rw [session, Concourse.build?_session, happened, Concourse.chronicle_run there,
      Option.map_some, Chronicle.callers_run]
  · rcases Concourse.mem_actionsOf member with turn | routine
    · exact (among ref action turn).imp_right .inl
    · exact .inr (.inr routine)

/-- Operations that register no action let every build endure. -/
theorem endures_run {operations : List (Operation σ ρ)}
    (quiet : ∀ ref action, .act ref action ∈ operations → action.registers = false)
    (found : workspace.session.build? ref = some build) :
    ∃ later, (workspace.run operations).session.build? ref = some later ∧ build.Endures later := by
  obtain ⟨callers, actions, rfl, there, among⟩ := exists_actions operations found
  refine ⟨_, there, callers.endures_run fun action member => ?_⟩
  rcases among action member with operation | rfl | routine
  · exact quiet ref action operation
  · rfl
  · cases action with
    | beside side => cases side <;> simp [Action.isRoutine, Action.registers] at routine ⊢
    | _ => rfl

/-- Settled rules stay what they are, whatever happens. -/
theorem resolved_run {subs : DependencySubstitutions} (operations : List (Operation σ ρ))
    (found : workspace.session.build? ref = some build)
    (resolved : build.substitutions = .resolved subs) :
    ∃ later, (workspace.run operations).session.build? ref = some later ∧
      later.substitutions = .resolved subs := by
  obtain ⟨callers, actions, rfl, there, -⟩ := exists_actions operations found
  refine ⟨_, there, ?_⟩
  have run := Callers.resolved_run resolved (actions.map .act)
  rwa [List.foldl_map] at run

/-- **The execution begins with a prefix of the builds in name order.**  Whatever has happened to a
session, when its execution begins the configuration is over, and nothing else of the registry
changes.  The execution begins well exactly if the rules of every registered build were settled
before or all actions of the build return.  Otherwise it begins with the trouble of the first action
that does not return of the first build, by name, that has one; the rules of the builds in front of
that one are settled, and no other build changes (`Session.Begins`).

So rules are settled then exactly if the build is in front or they were settled before.  A build
that was displaced from the registry is left alone; so is one whose rules were settled before, and
one whose rules are not settled then, which still accepts actions.

Beginning again at once comes to the same and changes nothing, and so it does later, whatever
happens in between, if no action is registered.  This is about actions that do the same at every
attempt, which all actions of a session here do; `Callers.substitutions_run` follows those that
change.  Rules that were settled stay what they are in any case. -/
theorem execution_begins_in_name_order (history : List (Operation σ ρ)) :
    let session := (({} : Workspace σ ρ).run history).session
    let outcome := session.beginExecution.value.1
    let begun := session.beginExecution.value.2
    session.registered.Pairwise (fun one other => one.2.name.text < other.2.name.text) ∧
    begun.isConfiguring = false ∧ begun.registry = session.registry.close ∧
    (outcome = .returned () ↔ ∀ entry ∈ session.registered, ∃ subs, entry.2.Freezes subs) ∧
    (∃ front back, session.Begins begun outcome front back ∧
      ∀ ref build, session.build? ref = some build → ∃ after, begun.build? ref = some after ∧
        (after.substitutions.isResolved ↔
          (ref, build) ∈ front ∨ build.substitutions.isResolved)) ∧
    (∀ ref build, session.build? ref = some build →
      session.registry.find? build.name ≠ some ref → begun.build? ref = some build) ∧
    (∀ ref build actions, begun.build? ref = some build →
      build.substitutions = .collecting actions →
      session.build? ref = some build ∧ ∀ action, build.registerSubstitution action =
        .ok { build with substitutions := .collecting (actions ++ [action]) }) ∧
    (∀ ref build subs, session.build? ref = some build → build.substitutions = .resolved subs →
      begun.build? ref = some build) ∧
    begun.beginExecution.value = (outcome, begun) ∧
    (∀ after ref build subs, begun.build? ref = some build →
      build.substitutions = .resolved subs →
      ∃ later, (({} : Workspace σ ρ).run (history ++ .beginExecution :: after)).session.build? ref =
          some later ∧
        later.resolveSubstitutions = pure (.returned subs, later)) ∧
    ∀ between, (∀ ref action, .act ref action ∈ between → action.registers = false) →
      let again := (({} : Workspace σ ρ).run (history ++ .beginExecution :: between)).session
      again.beginExecution.value = (outcome, again) := by
  intro session outcome begun
  have sound : session.Sound := sound_run history
  have registry : begun.registry = session.registry.close := session.beginExecution_registry
  -- What happens afterwards happens to a workspace with the session that has begun.
  let earlier : Workspace σ ρ := ({} : Workspace σ ρ).run history
  have same : (earlier.step .beginExecution).session = begun := session_beginExecution sound
  have later (after : List (Operation σ ρ)) :
      ({} : Workspace σ ρ).run (history ++ .beginExecution :: after) =
        (earlier.step .beginExecution).run after := run_append _ history _
  obtain ⟨front, back, begins⟩ := sound.begins
  refine ⟨sound.pairwise_registered, ?_, registry, begins.eq_returned_iff,
    ⟨front, back, begins, fun ref build found => begins.isResolved_iff found⟩,
    fun ref build found displaced => ?_, fun ref build actions found collecting => ?_,
    fun ref build subs found resolved => begins.build?_of_resolved found resolved,
    sound.beginExecution_again registry fun ref build found => ⟨build, found, .refl build⟩,
    fun after ref build subs found resolved => ?_, fun between quiet => ?_⟩
  · rw [Session.isConfiguring, registry]
    rfl
  · -- What is in front is listed, so its name stands for it.
    refine begins.others ref build found fun member => displaced ?_
    have listed : (ref, build) ∈ session.registered :=
      begins.split ▸ List.mem_append_left back member
    exact (Session.find?_eq_some_iff.mp (sound.mem_registered_iff.mp listed)).1
  · exact ⟨begins.build?_of_collecting found collecting,
      (IncludedBuild.attempt_of_collecting collecting).1⟩
  · obtain ⟨last, there, settled⟩ := resolved_run after (same ▸ found) resolved
    exact ⟨last, by rw [later, there], (IncludedBuild.attempt_of_resolved settled).1⟩
  · rw [later]
    refine sound.beginExecution_again ?_ fun ref build found => endures_run quiet (same ▸ found)
    have closed : (earlier.step .beginExecution).session.registry.closed = true := by
      rw [same, registry]
      rfl
    rw [registry_run_of_closed closed, same, registry]

/-- `app` is displaced by another `app`, and the second action of `lib` cannot write its rule. -/
def halfWritten : List (Operation (ScriptedLaunchers Unit) (ScriptedRun Unit)) :=
  let included name dir :=
    .includeBuild ⟨name⟩ dir ScriptedLaunchers.factory (.ofProject name [])
  let ruled ref module := .act ref (.beside (.registerSubstitution (.ofRule module ":")))
  [included "tools" "/tools", included "lib" "/lib", included "app" "/old", included "app" "/app",
    ruled 0 "org:tools", ruled 1 "org:lib", ruled 1 "nonsense", ruled 2 "org:old",
    ruled 3 "org:app"]

/-- The rules of `tools` are settled directly, those of `lib` cannot be, and `app` is awaited. -/
def meanwhile : List (Operation (ScriptedLaunchers Unit) (ScriptedRun Unit)) :=
  [.act 0 (.beside .resolveSubstitutions), .act 1 (.beside .resolveSubstitutions), .act 3 .enter]

/-- The execution begins with the new `app` and fails with `lib`.  `tools` behind it and the
displaced `app` are left alone, and beginning again fails in the same way. -/
theorem execution_begins_in_name_order_halfWritten :
    let session := (({} : Workspace _ _).run halfWritten).session
    let begun := session.beginExecution.value.2
    let trouble : Outcome CompositeError Unit :=
      .failed (.substitution (.invalidModule "nonsense"))
    session.beginExecution.value.1 = trouble ∧
    (session.registered.map fun listed => (listed.1, listed.2.name.text)) =
      [(3, "app"), (1, "lib"), (0, "tools")] ∧
    (begun.builds.map fun build => build.substitutions.isResolved) = [false, false, false, true] ∧
    begun.build? 2 = session.build? 2 ∧
    begun.beginExecution.value = (trouble, begun) ∧
    let again := (({} : Workspace _ _).run (halfWritten ++ .beginExecution :: meanwhile)).session
    again.beginExecution.value = (trouble, again) := by
  intro session begun trouble
  have outcome : session.beginExecution.value.1 = trouble := by cbv
  have quiet : ∀ ref action, .act ref action ∈ meanwhile → action.registers = false := by
    intro ref action member
    simp only [meanwhile, List.mem_cons, Operation.act.injEq, List.not_mem_nil, or_false] at member
    rcases member with ⟨-, rfl⟩ | ⟨-, rfl⟩ | ⟨-, rfl⟩ <;> rfl
  obtain ⟨old, found⟩ : ∃ old, session.build? 2 = some old := ⟨_, rfl⟩
  obtain ⟨-, -, -, -, -, displaced, -, -, again, -, later⟩ :=
    execution_begins_in_name_order halfWritten
  have unlisted : session.registry.find? old.name ≠ some 2 := by
    obtain rfl := Option.some.inj found
    decide +kernel
  have alone : begun.build? 2 = some old := displaced 2 old found unlisted
  refine ⟨outcome, by cbv, by decide +kernel, alone.trans found.symm, ?_, ?_⟩
  · rw [again, outcome]
  · intro last
    rw [later meanwhile quiet, outcome]

end Workspace

end CompositeBuild
