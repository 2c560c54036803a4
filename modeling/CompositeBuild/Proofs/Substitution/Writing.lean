import CompositeBuild.Substitution.Collection

/-!
# Writing substitution rules

A rule can be written if its module is coordinates and its project is qualified
(`DependencySubstitutions.IsWritable`), which is all that `substitute` checks.  Writing it changes
what stands for that module and nothing else (`find?_write`).

Rules that are written one after the other leave, for each module, the project of the last one for
it (`exists_writeAll`), and this is what the actions for these rules do when they are applied in
that order (`SubstitutionState.applyAll_ofRule`).
-/

namespace CompositeBuild

/-! ### One rule -/

namespace DependencySubstitutions

variable {subs next : DependencySubstitutions} {module project : String} {id sought : ModuleId}
  {rules : List (String × String)}

/-- A rule that can be written: its module is coordinates and its project is qualified. -/
def IsWritable (module project : String) : Prop :=
  (ModuleId.parse? module).isSome ∧ IsQualified project

/-- The rule set with a rule for a module, in place of an earlier one for it. -/
def write (subs : DependencySubstitutions) (id : ModuleId) (project : String) :
    DependencySubstitutions :=
  { subs with rules := (subs.rules.filter fun rule => rule.1 ≠ id) ++
      [(id, { build := subs.build, path := project })] }

/-- A rule that can be written is. -/
theorem substitute_of_parse (parsed : ModuleId.parse? module = some id)
    (qualified : IsQualified project) (subs : DependencySubstitutions) :
    subs.substitute module project = .ok (subs.write id project) := by
  simp only [substitute, ModuleId.parse, parsed, qualified, if_true]
  rfl

/-- A rule is written exactly if it can be. -/
theorem isOk_substitute :
    (∃ next, subs.substitute module project = .ok next) ↔ IsWritable module project := by
  constructor
  · rintro ⟨next, written⟩
    simp only [substitute, ModuleId.parse] at written
    cases parsed : ModuleId.parse? module with
    | none =>
      rw [parsed] at written
      cases written
    | some id =>
      rw [parsed] at written
      by_cases qualified : IsQualified project
      · exact ⟨Option.isSome_of_eq_some parsed, qualified⟩
      · simp only [qualified, if_false] at written
        cases written
  · rintro ⟨parses, qualified⟩
    obtain ⟨id, parsed⟩ := Option.isSome_iff_exists.mp parses
    exact ⟨_, substitute_of_parse parsed qualified subs⟩

/-- A rule is refused, by whatever rule set, for a module that is no coordinates, and else for a
project that is not qualified. -/
theorem substitute_eq_error_iff {error : SubstitutionError} :
    subs.substitute module project = .error error ↔
      (ModuleId.parse? module = none ∧ error = .invalidModule module) ∨
      ((ModuleId.parse? module).isSome ∧ ¬IsQualified project ∧
        error = .invalidProjectPath project) := by
  cases parsed : ModuleId.parse? module with
  | none =>
    have refused : subs.substitute module project = .error (.invalidModule module) := by
      simp only [substitute, ModuleId.parse, parsed]
      rfl
    simp [refused, eq_comm]
  | some id =>
    by_cases qualified : IsQualified project
    · simp [substitute_of_parse parsed qualified, qualified]
    · have refused : subs.substitute module project = .error (.invalidProjectPath project) := by
        simp only [substitute, ModuleId.parse, parsed, qualified, if_false]
        rfl
      simp [refused, qualified, eq_comm]

/-- Taking the rule for a module away hides it and no other one. -/
theorem find?_filter_ne (rules : List (ModuleId × ProjectSelector)) (id sought : ModuleId) :
    (rules.filter fun rule => rule.1 ≠ id).find? (fun rule => rule.1 = sought) =
      if id = sought then none else rules.find? fun rule => rule.1 = sought := by
  rw [List.find?_filter]
  split
  · next same => simp [same]
  · next other =>
    refine congrArg (List.find? · rules) (funext fun rule => ?_)
    by_cases here : rule.1 = sought
    · simp [here, Ne.symm other]
    · simp [here]

/-- Writing a rule changes what stands for its module and nothing else. -/
theorem find?_write (subs : DependencySubstitutions) (id : ModuleId) (project : String)
    (sought : ModuleId) :
    (subs.write id project).find? sought =
      if id = sought then some { build := subs.build, path := project } else subs.find? sought := by
  simp only [find?, write, List.find?_append, find?_filter_ne, List.find?_singleton]
  by_cases same : id = sought <;> simp [same]

/-! ### Many rules -/

/-- Write rules one after the other, up to the first that cannot be written. -/
def writeAll (subs : DependencySubstitutions) (rules : List (String × String)) :
    Except SubstitutionError DependencySubstitutions :=
  rules.foldlM (fun subs rule => subs.substitute rule.1 rule.2) subs

/-- The last of the rules for a module. -/
def lastFor (id : ModuleId) (rules : List (String × String)) : Option (String × String) :=
  rules.reverse.find? fun rule => ModuleId.parse? rule.1 = some id

/-- Rules that can be written are, and for each module the project of the last one for it stands
from then on. -/
theorem exists_writeAll (writable : ∀ rule ∈ rules, IsWritable rule.1 rule.2)
    (subs : DependencySubstitutions) :
    ∃ next, subs.writeAll rules = .ok next ∧ next.build = subs.build ∧
      ∀ sought, next.find? sought =
        ((lastFor sought rules).map fun rule => { build := subs.build, path := rule.2 }).or
          (subs.find? sought) := by
  induction rules generalizing subs with
  | nil => exact ⟨subs, rfl, rfl, fun sought => by simp [lastFor]⟩
  | cons rule rules ih =>
    obtain ⟨parses, qualified⟩ := writable rule (List.mem_cons_self ..)
    obtain ⟨id, parsed⟩ := Option.isSome_iff_exists.mp parses
    obtain ⟨next, written, build, found⟩ :=
      ih (fun rule member => writable rule (List.mem_cons_of_mem _ member)) (subs.write id rule.2)
    refine ⟨next, ?_, build, fun sought => ?_⟩
    · rw [writeAll, List.foldlM_cons, substitute_of_parse parsed qualified]
      exact written
    · rw [found, find?_write]
      by_cases same : id = sought
      · subst same
        simp [lastFor, List.find?_append, parsed, write]
      · simp [lastFor, List.find?_append, parsed, same, write]

end DependencySubstitutions

/-! ### Actions -/

namespace SubstitutionState

/-- Applying the actions for rules writes the rules. -/
theorem applyAll_ofRule (rules : List (String × String)) (subs : DependencySubstitutions) :
    applyAll (rules.map fun rule => .ofRule rule.1 rule.2) subs =
      .ofExcept (subs.writeAll rules) := by
  induction rules generalizing subs with
  | nil => rfl
  | cons rule rules ih =>
    rw [List.map_cons, applyAll, SubstitutionAction.ofRule, DependencySubstitutions.writeAll,
      List.foldlM_cons]
    cases subs.substitute rule.1 rule.2 with
    | error error => rfl
    | ok next => exact ih next

end SubstitutionState

end CompositeBuild
