import CompositeBuild.Outcome
import CompositeBuild.Substitution.Rules

/-!
# Collecting and settling substitution rules

While a composite is configured, actions that write substitution rules are registered on a build.
Resolving applies all of them, in the order of their registration, to an empty rule set and settles
the result for good.  If an action fails or panics nothing is kept: the actions stay registered and
a later attempt applies all of them again.
-/

namespace CompositeBuild

/-- Something that writes substitution rules.  It may fail or panic, and then what it wrote is
lost. -/
abbrev SubstitutionAction :=
  DependencySubstitutions → Outcome SubstitutionError DependencySubstitutions

namespace SubstitutionAction

/-- The action that writes one rule. -/
def ofRule (module project : String) : SubstitutionAction :=
  fun subs => .ofExcept (subs.substitute module project)

/-- The action that writes rules one after the other, up to the first refused one, and panics at the
end if it is given a message. -/
def ofRules (rules : List (String × String)) (panic : Option String) : SubstitutionAction :=
  fun subs =>
    match rules.foldlM (fun subs rule => subs.substitute rule.1 rule.2) subs with
    | .error error => .failed error
    | .ok subs =>
      match panic with
      | some message => .panicked message
      | none => .returned subs

end SubstitutionAction

/-- The substitution rules of a build: still collected, or settled. -/
inductive SubstitutionState where
  /-- The actions registered so far, in order. -/
  | collecting (actions : List SubstitutionAction)
  /-- The settled rules. -/
  | resolved (subs : DependencySubstitutions)

namespace SubstitutionState

/-- Whether the rules are settled. -/
def isResolved : SubstitutionState → Bool
  | .collecting _ => false
  | .resolved _ => true

/-- Register an action, which is refused once the rules are settled. -/
def register (state : SubstitutionState) (action : SubstitutionAction) :
    Except SubstitutionError SubstitutionState :=
  match state with
  | .collecting actions => .ok (.collecting (actions ++ [action]))
  | .resolved _ => .error .alreadyResolved

/-- Apply actions one after the other, up to the first that does not return. -/
def applyAll : List SubstitutionAction → SubstitutionAction
  | [], subs => .returned subs
  | action :: actions, subs =>
    match action subs with
    | .returned subs => applyAll actions subs
    | trouble => trouble

/-- Settle the rules of a build, unless they are settled already. -/
def resolve (state : SubstitutionState) (build : BuildId) :
    Outcome SubstitutionError DependencySubstitutions × SubstitutionState :=
  match state with
  | .resolved subs => (.returned subs, state)
  | .collecting actions =>
    match applyAll actions { build } with
    | .returned subs => (.returned subs, .resolved subs)
    | trouble => (trouble, state)

end SubstitutionState

end CompositeBuild
