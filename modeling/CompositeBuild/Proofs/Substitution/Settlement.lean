import CompositeBuild.Proofs.Await.Twins
import CompositeBuild.Proofs.Session.Settling
import CompositeBuild.Proofs.Substitution.Writing

/-!
# Settling the rules of a build

Settling the rules of a build applies the registered actions one after the other to an empty rule
set.  Either all of them return, and the last rule set is what the build gets
(`SubstitutionState.Applies`), or the first that does not return decides what becomes of the attempt
(`SubstitutionState.Breaks`).

Whatever happens to a build with its callers, only registering an action and an attempt to settle
touch its rules (`Callers.substitutions_step`).  So the rules of a build are determined by what was
registered and attempted (`Callers.substitutions_run`): before the first attempt that succeeds they
are still collected, and all that was registered is there; from that attempt on they are settled.

Actions may look at things outside the build, and so they may do something else at every attempt.
A history of a build says when that happens (`RuleEvent.change`).
-/

namespace CompositeBuild

variable {σ ρ : Type}

/-! ### Applying actions -/

namespace SubstitutionState

variable {action : SubstitutionAction} {actions : List SubstitutionAction}
  {subs next last : DependencySubstitutions}
  {trouble : Outcome SubstitutionError DependencySubstitutions}

/-- Applied one after the other, the actions all return and lead from the first rule set to the
second. -/
inductive Applies :
    List SubstitutionAction → DependencySubstitutions → DependencySubstitutions → Prop
  | nil {subs : DependencySubstitutions} : Applies [] subs subs
  | cons {action : SubstitutionAction} {actions : List SubstitutionAction}
      {subs next last : DependencySubstitutions} (returned : action subs = .returned next)
      (rest : Applies actions next last) : Applies (action :: actions) subs last

/-- Applied one after the other, some action does not return, and the first of these ends in
`trouble`. -/
def Breaks (actions : List SubstitutionAction) (subs : DependencySubstitutions)
    (trouble : Outcome SubstitutionError DependencySubstitutions) : Prop :=
  ∃ front action back middle, actions = front ++ action :: back ∧ Applies front subs middle ∧
    action middle = trouble ∧ ∀ next, trouble ≠ .returned next

/-- An action that returns hands its rule set on to the others. -/
theorem breaks_cons_of_returned (returned : action subs = .returned next) :
    Breaks (action :: actions) subs trouble ↔ Breaks actions next trouble := by
  constructor
  · rintro ⟨front, breaking, back, middle, split, applied, broken, differs⟩
    cases applied with
    | nil =>
      obtain ⟨rfl, -⟩ := List.cons.inj split
      exact absurd (broken.symm.trans returned) (differs next)
    | cons first rest =>
      obtain ⟨rfl, behind⟩ := List.cons.inj split
      obtain rfl := Outcome.returned.inj (first.symm.trans returned)
      exact ⟨_, breaking, back, middle, behind, rest, broken, differs⟩
  · rintro ⟨front, breaking, back, middle, rfl, applied, broken, differs⟩
    exact ⟨action :: front, breaking, back, middle, rfl, .cons returned applied, broken, differs⟩

/-- An action that does not return decides, and no other one is applied. -/
theorem breaks_cons_of_trouble (differs : ∀ next, action subs ≠ .returned next) :
    Breaks (action :: actions) subs trouble ↔ action subs = trouble := by
  constructor
  · rintro ⟨front, breaking, back, middle, split, applied, broken, -⟩
    cases applied with
    | nil =>
      obtain ⟨rfl, -⟩ := List.cons.inj split
      exact broken
    | cons first rest =>
      obtain ⟨rfl, -⟩ := List.cons.inj split
      exact absurd first (differs _)
  · rintro rfl
    exact ⟨[], action, actions, subs, rfl, .nil, rfl, differs⟩

/-- Applying actions returns a rule set exactly if all of them return and lead to it. -/
theorem applyAll_eq_returned_iff :
    applyAll actions subs = .returned last ↔ Applies actions subs last := by
  induction actions generalizing subs with
  | nil =>
    rw [applyAll, Outcome.returned.injEq]
    constructor
    · rintro rfl
      exact .nil
    · rintro ⟨⟩
      rfl
  | cons action actions ih =>
    have inverted : Applies (action :: actions) subs last ↔
        ∃ next, action subs = .returned next ∧ Applies actions next last := by
      constructor
      · rintro (_ | ⟨first, rest⟩)
        exact ⟨_, first, rest⟩
      · rintro ⟨next, first, rest⟩
        exact .cons first rest
    rw [inverted, applyAll]
    cases first : action subs <;> simp [ih]

/-- Applying actions ends in trouble exactly if the first that does not return ends in it. -/
theorem applyAll_eq_trouble_iff (differs : ∀ next, trouble ≠ .returned next) :
    applyAll actions subs = trouble ↔ Breaks actions subs trouble := by
  induction actions generalizing subs with
  | nil =>
    constructor
    · rintro rfl
      exact absurd rfl (differs subs)
    · rintro ⟨front, breaking, back, middle, split, -⟩
      simp at split
  | cons action actions ih =>
    rw [applyAll]
    cases first : action subs with
    | returned next => simp only [ih, breaks_cons_of_returned first]
    | failed error => rw [breaks_cons_of_trouble (by simp [first]), first]
    | panicked message => rw [breaks_cons_of_trouble (by simp [first]), first]

/-- Actions that all return do not break. -/
theorem Applies.not_breaks (applied : Applies actions subs last) :
    ¬Breaks actions subs trouble := by
  intro broken
  obtain ⟨-, -, -, -, -, -, -, differs⟩ := id broken
  have both := (applyAll_eq_trouble_iff differs).mpr broken
  rw [applyAll_eq_returned_iff.mpr applied] at both
  exact differs last both.symm

/-- An attempt to settle collected rules comes to what the actions come to. -/
theorem resolve_collecting (actions : List SubstitutionAction) (build : BuildId) :
    ((collecting actions).resolve build).1 = applyAll actions { build } := by
  rw [resolve]
  cases applyAll actions { build } <;> rfl

/-- Collected rules are settled if all actions return. -/
theorem resolve_of_applies {build : BuildId} (applied : Applies actions { build } subs) :
    (collecting actions).resolve build = (.returned subs, .resolved subs) := by
  simp only [resolve, applyAll_eq_returned_iff.mpr applied]

/-- Collected rules are collected still if an action does not return. -/
theorem resolve_of_breaks {build : BuildId} (broken : Breaks actions { build } trouble) :
    (collecting actions).resolve build = (trouble, .collecting actions) := by
  obtain ⟨-, -, -, -, -, -, -, differs⟩ := id broken
  have applied := (applyAll_eq_trouble_iff differs).mpr broken
  cases trouble with
  | returned next => exact absurd rfl (differs next)
  | failed error => simp only [resolve, applied]
  | panicked message => simp only [resolve, applied]

/-- Actions all return, or break. -/
theorem applies_or_breaks (actions : List SubstitutionAction) (subs : DependencySubstitutions) :
    (∃ last, Applies actions subs last) ∨ ∃ trouble, Breaks actions subs trouble := by
  cases applied : applyAll actions subs with
  | returned last => exact .inl ⟨last, applyAll_eq_returned_iff.mp applied⟩
  | failed error => exact .inr ⟨_, (applyAll_eq_trouble_iff (by simp)).mp applied⟩
  | panicked message => exact .inr ⟨_, (applyAll_eq_trouble_iff (by simp)).mp applied⟩

/-- The rules after something that may touch them has happened to the build of that name. -/
def after (name : BuildId) (state : SubstitutionState) : Action σ → SubstitutionState
  | .beside (.registerSubstitution action) =>
    match state.register action with
    | .ok next => next
    | .error _ => state
  | .beside .resolveSubstitutions => (state.resolve name).2
  | _ => state

/-- The rules when the registered actions, given by their places, do something else. -/
def changed (shift : Nat → SubstitutionAction → SubstitutionAction) :
    SubstitutionState → SubstitutionState
  | .collecting actions => .collecting (actions.mapIdx shift)
  | .resolved subs => .resolved subs

end SubstitutionState

/-! ### What touches the rules of a build -/

/-- Registering an action and an attempt to settle do to the rules what they do to rules, and
nothing else that happens to a build touches them. -/
theorem Callers.substitutions_step (callers : Callers σ ρ) (action : Action σ) :
    (callers.step action).build.substitutions =
      callers.build.substitutions.after callers.build.name action := by
  by_cases beside : ∃ side, action = .beside side
  · obtain ⟨side, rfl⟩ := beside
    cases side with
    | loadSettings =>
      obtain ⟨slot, launchers, same⟩ := callers.build.loadedSettings_changes
      simp only [step, SideStep.apply, same, SubstitutionState.after]
    | configure =>
      obtain ⟨slot, launchers, same⟩ := callers.build.configuredBuild_changes
      simp only [step, SideStep.apply, same, SubstitutionState.after]
    | registerSubstitution action =>
      simp only [step, SideStep.apply, IncludedBuild.registerSubstitution, SubstitutionState.after]
      cases callers.build.substitutions.register action <;> rfl
    | resolveSubstitutions =>
      simp only [step, SideStep.apply, IncludedBuild.resolveSubstitutions_build,
        SubstitutionState.after]
    | _ => rfl
  · have ofCall (side : SideStep σ) : action ≠ .beside side := fun same => beside ⟨side, same⟩
    obtain ⟨schedule, slot, launchers, same⟩ := callers.step_changes_of_call ofCall
    rw [same]
    cases action with
    | beside side => exact absurd rfl (ofCall side)
    | _ => rfl

/-! ### Attempts to settle -/

namespace IncludedBuild

open SubstitutionState

variable {build : IncludedBuild σ ρ} {actions : List SubstitutionAction}
  {subs : DependencySubstitutions}

/-- While rules are collected every action is accepted, and an attempt to settle them comes to what
the actions come to.  Either it settles them, or it leaves the build alone. -/
theorem attempt_of_collecting (collecting : build.substitutions = .collecting actions) :
    let attempted := build.resolveSubstitutions.value
    (∀ action, build.registerSubstitution action =
      .ok { build with substitutions := .collecting (actions ++ [action]) }) ∧
    (∀ subs, attempted.1 = .returned subs ↔ Applies actions { build := build.name } subs) ∧
    (∀ error, attempted.1 = .failed error ↔
      Breaks actions { build := build.name } (.failed error)) ∧
    (∀ message, attempted.1 = .panicked message ↔
      Breaks actions { build := build.name } (.panicked message)) ∧
    attempted.2 = match attempted.1 with
      | .returned subs => { build with substitutions := .resolved subs }
      | _ => build := by
  intro attempted
  have outcome : attempted.1 = applyAll actions { build := build.name } := by
    rw [resolveSubstitutions_outcome, collecting, resolve_collecting]
  refine ⟨fun action => ?_, fun subs => ?_, fun error => ?_, fun message => ?_, ?_⟩
  · simp only [registerSubstitution, collecting, register]
    rfl
  · rw [outcome, applyAll_eq_returned_iff]
  · rw [outcome, applyAll_eq_trouble_iff (by simp)]
  · rw [outcome, applyAll_eq_trouble_iff (by simp)]
  · cases returned : attempted.1 with
    | returned subs => exact settled_of_returned returned
    | failed error =>
      refine settled_of_not_settles ?_
      rintro ⟨subs, other⟩
      cases returned.symm.trans other
    | panicked message =>
      refine settled_of_not_settles ?_
      rintro ⟨subs, other⟩
      cases returned.symm.trans other

/-- Settled rules are handed out by every attempt, which leaves the build alone, and every action is
refused. -/
theorem attempt_of_resolved (resolved : build.substitutions = .resolved subs) :
    build.resolveSubstitutions = pure (.returned subs, build) ∧
    ∀ action, build.registerSubstitution action = .error .alreadyResolved := by
  obtain ⟨⟩ := build
  subst resolved
  exact ⟨rfl, fun _ => rfl⟩

end IncludedBuild

/-! ### Histories of a build with rules -/

/-- Something that happens to a build, or to what its registered actions do. -/
inductive RuleEvent (σ : Type) where
  | act (action : Action σ)
  /-- The registered actions, given by their places, do something else from now on. -/
  | change (shift : Nat → SubstitutionAction → SubstitutionAction)

namespace RuleEvent

/-- An attempt to settle the rules. -/
def attempt : RuleEvent σ := .act (.beside .resolveSubstitutions)

/-- The registered actions after an event, if registering is not refused. -/
def collect (actions : List SubstitutionAction) : RuleEvent σ → List SubstitutionAction
  | .act (.beside (.registerSubstitution action)) => actions ++ [action]
  | .act _ => actions
  | .change shift => actions.mapIdx shift

/-- What was registered by all events, as it is at the end. -/
def registered (events : List (RuleEvent σ)) : List SubstitutionAction := events.foldl collect []

/-- No attempt among the events could settle the rules of the build of that name. -/
def Unsettled (name : BuildId) (events : List (RuleEvent σ)) : Prop :=
  ∀ earlier later, events = earlier ++ attempt :: later →
    ∀ subs, ¬SubstitutionState.Applies (registered earlier) { build := name } subs

/-- The first attempt that could settle the rules made them `subs`. -/
def SettledAs (name : BuildId) (events : List (RuleEvent σ)) (subs : DependencySubstitutions) :
    Prop :=
  ∃ earlier later, events = earlier ++ attempt :: later ∧ Unsettled name earlier ∧
    SubstitutionState.Applies (registered earlier) { build := name } subs

variable {name : BuildId} {events : List (RuleEvent σ)} {subs : DependencySubstitutions}

@[simp] theorem registered_concat (event : RuleEvent σ) :
    registered (events ++ [event]) = event.collect (registered events) :=
  List.foldl_concat ..

/-- Nothing is settled at first. -/
theorem unsettled_nil : Unsettled name ([] : List (RuleEvent σ)) := by
  intro earlier later split
  simp at split

/-- Nothing is settled by one more event that is no attempt, or an attempt that cannot settle. -/
theorem Unsettled.concat (unsettled : Unsettled name events) {event : RuleEvent σ}
    (fails : event = attempt →
      ∀ subs, ¬SubstitutionState.Applies (registered events) { build := name } subs) :
    Unsettled name (events ++ [event]) := by
  intro earlier later split
  rcases List.eq_nil_or_concat' later with rfl | ⟨front, last, rfl⟩
  · obtain ⟨rfl, same⟩ := List.append_inj' split rfl
    exact fails (List.cons.inj same).1
  · rw [← List.cons_append, ← List.append_assoc] at split
    exact unsettled earlier front (List.append_inj' split rfl).1

/-- What is settled stays settled. -/
theorem SettledAs.concat (settled : SettledAs name events subs) (event : RuleEvent σ) :
    SettledAs name (events ++ [event]) subs := by
  obtain ⟨earlier, later, rfl, unsettled, applied⟩ := settled
  exact ⟨earlier, later ++ [event], by simp, unsettled, applied⟩

end RuleEvent

namespace Callers

open SubstitutionState RuleEvent

/-- Let an event of a history happen. -/
def happen (callers : Callers σ ρ) : RuleEvent σ → Callers σ ρ
  | .act action => callers.step action
  | .change shift =>
    { callers with build := { callers.build with
        substitutions := callers.build.substitutions.changed shift } }

/-- A build is never renamed. -/
theorem happen_name (callers : Callers σ ρ) (event : RuleEvent σ) :
    (callers.happen event).build.name = callers.build.name := by
  cases event with
  | act action => exact callers.step_name action
  | change shift => rfl

variable {name : BuildId} {events : List (RuleEvent σ)} {subs : DependencySubstitutions}

/-- While rules are collected, an event either settles them or leaves them to be collected. -/
theorem happen_of_collecting {callers : Callers σ ρ} {actions : List SubstitutionAction}
    (collecting : callers.build.substitutions = .collecting actions) (event : RuleEvent σ) :
    (∃ subs, event = attempt ∧ Applies actions { build := callers.build.name } subs ∧
      (callers.happen event).build.substitutions = .resolved subs) ∨
    ((event = attempt → ∀ subs, ¬Applies actions { build := callers.build.name } subs) ∧
      (callers.happen event).build.substitutions = .collecting (event.collect actions)) := by
  cases event with
  | change shift =>
    refine .inr ⟨nofun, ?_⟩
    simp only [happen, collecting, changed, collect]
  | act action =>
    simp only [happen, substitutions_step, collecting]
    cases action with
    | beside side =>
      cases side with
      | resolveSubstitutions =>
        rcases applies_or_breaks actions { build := callers.build.name } with
          ⟨subs, applied⟩ | ⟨trouble, broken⟩
        · exact .inl ⟨subs, rfl, applied, by simp only [after, resolve_of_applies applied]⟩
        · refine .inr ⟨fun _ subs applied => applied.not_breaks broken, ?_⟩
          simp only [after, resolve_of_breaks broken, collect]
      | _ => exact .inr ⟨nofun, rfl⟩
    | _ => exact .inr ⟨nofun, rfl⟩

/-- No event touches settled rules. -/
theorem happen_of_resolved {callers : Callers σ ρ}
    (resolved : callers.build.substitutions = .resolved subs) (event : RuleEvent σ) :
    (callers.happen event).build.substitutions = .resolved subs := by
  cases event with
  | change shift => simp only [happen, resolved, changed]
  | act action =>
    simp only [happen, substitutions_step, resolved]
    cases action with
    | beside side => cases side <;> rfl
    | _ => rfl

/-- The rules of a build are collected until the first attempt that can settle them, and settled
from then on. -/
theorem substitutions_run (name : BuildId) (projectDir : String) (factory : LauncherFactory σ ρ)
    (launchers : σ) (events : List (RuleEvent σ)) :
    let build := (events.foldl happen (start name projectDir factory launchers)).build
    build.name = name ∧
      ((Unsettled name events ∧ build.substitutions = .collecting (registered events)) ∨
        ∃ subs, SettledAs name events subs ∧ build.substitutions = .resolved subs) := by
  induction events using List.reverseRecOn with
  | nil => exact ⟨rfl, .inl ⟨unsettled_nil, rfl⟩⟩
  | append_singleton events event ih =>
    rw [List.foldl_concat]
    generalize events.foldl happen (start name projectDir factory launchers) = callers at ih ⊢
    obtain ⟨rfl, ih⟩ := ih
    refine ⟨callers.happen_name event, ?_⟩
    rcases ih with ⟨unsettled, collecting⟩ | ⟨subs, settled, resolved⟩
    · rcases happen_of_collecting collecting event with
        ⟨subs, rfl, applied, resolved⟩ | ⟨fails, still⟩
      · exact .inr ⟨subs, ⟨events, [], rfl, unsettled, applied⟩, resolved⟩
      · exact .inl ⟨unsettled.concat fails, by rw [still, registered_concat]⟩
    · exact .inr ⟨subs, settled.concat event, happen_of_resolved resolved event⟩

/-- An action that is refused changes nothing. -/
theorem step_of_refused {callers : Callers σ ρ} {action : SubstitutionAction}
    {error : SubstitutionError}
    (refused : callers.build.registerSubstitution action = .error error) :
    callers.step (.beside (.registerSubstitution action)) = callers := by
  simp only [step, SideStep.apply, refused, List.append_nil]

/-- From the settling of the rules on, whatever happens, they stay as they are. -/
theorem resolved_run {callers : Callers σ ρ}
    (resolved : callers.build.substitutions = .resolved subs) (later : List (RuleEvent σ)) :
    (later.foldl happen callers).build.substitutions = .resolved subs := by
  induction later generalizing callers with
  | nil => exact resolved
  | cons event later ih => exact ih (happen_of_resolved resolved event)

/-- **The rules of a build are settled once, and all of them or none.**  Whatever happens to a build
with its callers, and whatever its registered actions do from time to time:

Before the first attempt that could settle the rules no registration is refused, and all actions
registered are there, in order.  An attempt returns a rule set exactly if all actions, applied in
this order to an empty rule set of the build, return and lead to it, and then it is settled.  It
ends in an error or a panic exactly if the first action that does not return does, and then the
build stays as it is: it keeps its actions and no rule.

From that attempt on, whatever else happens, every attempt returns the rule set it was settled to
and leaves the build as it is, and every registration is refused and changes nothing. -/
theorem rules_are_settled_once (name : BuildId) (projectDir : String)
    (factory : LauncherFactory σ ρ) (launchers : σ) (events : List (RuleEvent σ)) :
    let callers := events.foldl happen (start name projectDir factory launchers)
    let build := callers.build
    let attempted := build.resolveSubstitutions.value
    (Unsettled name events ∧
      build.substitutions = .collecting (registered events) ∧
      (∀ action, build.registerSubstitution action =
        .ok { build with substitutions := .collecting (registered events ++ [action]) }) ∧
      (∀ subs, attempted.1 = .returned subs ↔
        Applies (registered events) { build := name } subs) ∧
      (∀ error, attempted.1 = .failed error ↔
        Breaks (registered events) { build := name } (.failed error)) ∧
      (∀ message, attempted.1 = .panicked message ↔
        Breaks (registered events) { build := name } (.panicked message)) ∧
      attempted.2 = match attempted.1 with
        | .returned subs => { build with substitutions := .resolved subs }
        | _ => build) ∨
    ∃ subs, SettledAs name events subs ∧ ∀ later : List (RuleEvent σ),
      let callers := later.foldl happen callers
      callers.build.substitutions = .resolved subs ∧
      callers.build.resolveSubstitutions = pure (.returned subs, callers.build) ∧
      ∀ action, callers.build.registerSubstitution action = .error .alreadyResolved ∧
        callers.step (.beside (.registerSubstitution action)) = callers := by
  intro callers build attempted
  obtain ⟨named, course⟩ := substitutions_run name projectDir factory launchers events
  rcases course with ⟨unsettled, collecting⟩ | ⟨subs, settled, resolved⟩
  · obtain ⟨accepted, returns, fails, panics, left⟩ :=
      IncludedBuild.attempt_of_collecting collecting
    rw [named] at returns fails panics
    exact .inl ⟨unsettled, collecting, accepted, returns, fails, panics, left⟩
  · refine .inr ⟨subs, settled, fun later => ?_⟩
    obtain ⟨handed, refused⟩ := IncludedBuild.attempt_of_resolved (resolved_run resolved later)
    exact ⟨resolved_run resolved later, handed, fun action =>
      ⟨refused action, step_of_refused (refused action)⟩⟩

/-- The second rule of the first action is nonsense, so the first attempt fails.  A second action is
registered, the first one writes only its first rule from then on, and the second attempt settles
the rules.  A third action comes too late. -/
def mended : List (RuleEvent (ScriptedLaunchers Unit)) :=
  let register action := .act (.beside (.registerSubstitution action))
  [register (.ofRules [("org:core", ":"), ("nonsense", ":")] none), attempt,
    register (.ofRule "org:cli" ":cli"),
    .change fun place action => if place = 0 then .ofRule "org:core" ":" else action,
    attempt, register (.ofRule "org:late" ":late")]

/-- The rules are settled to the two that could be written at the second attempt. -/
theorem rules_are_settled_once_mended :
    let subs : DependencySubstitutions :=
      { build := ⟨"lib"⟩
        rules := [(⟨"org", "core"⟩, ⟨⟨"lib"⟩, ":"⟩), (⟨"org", "cli"⟩, ⟨⟨"lib"⟩, ":cli"⟩)] }
    let callers := mended.foldl happen
      (start ⟨"lib"⟩ "/lib" ScriptedLaunchers.factory (.ofProject "lib" []))
    SettledAs ⟨"lib"⟩ mended subs ∧
    callers.build.resolveSubstitutions = pure (.returned subs, callers.build) ∧
    callers.build.registerSubstitution (.ofRule "org:late" ":late") = .error .alreadyResolved := by
  intro subs callers
  have applied : Applies (registered (mended.take 4)) { build := ⟨"lib"⟩ } subs := by
    rw [← applyAll_eq_returned_iff]
    decide +kernel
  rcases rules_are_settled_once ⟨"lib"⟩ "/lib" ScriptedLaunchers.factory (.ofProject "lib" [])
    mended with ⟨unsettled, -⟩ | ⟨other, settled, standing⟩
  · exact absurd applied (unsettled (mended.take 4) (mended.drop 5) rfl subs)
  · obtain ⟨resolved, handed, refused⟩ := standing []
    have made : callers.build.substitutions = .resolved subs := by cbv
    obtain rfl := SubstitutionState.resolved.inj (resolved.symm.trans made)
    exact ⟨settled, handed, (refused _).1⟩

end Callers

end CompositeBuild
