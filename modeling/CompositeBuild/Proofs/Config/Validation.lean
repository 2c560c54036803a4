import CompositeBuild.Config.Basic
import CompositeBuild.Proofs.Substitution.Writing

/-!
# Configurations that are accepted

Validation reads the entries of a configuration and writes no rule.  It accepts a configuration
exactly if no name is blank, no name is given twice, and every rule of every build can be written
(`CompositeConfig.validate_eq_ok_iff`).
-/

namespace CompositeBuild

/-- The substitution rules of a configured build, in the order of the file. -/
def IncludedBuildConfig.rules (build : IncludedBuildConfig) : List (String × String) :=
  build.substitute.map fun entry => (entry.module, entry.project)

namespace CompositeConfig

open DependencySubstitutions (IsWritable)

/-- An entry is accepted exactly if its rule can be written. -/
theorem validateEntry_eq_ok_iff {build : String} {entry : SubstitutionConfig} :
    validateEntry build entry = .ok () ↔ IsWritable entry.module entry.project := by
  simp only [validateEntry, ModuleId.parse, IsWritable]
  cases ModuleId.parse? entry.module with
  | none => simp
  | some id => by_cases qualified : IsQualified entry.project <;> simp [qualified]

/-- Entries are accepted exactly if each of them is. -/
theorem forM_validateEntry_eq_ok_iff {build : String} {entries : List SubstitutionConfig} :
    forM entries (validateEntry build) = .ok () ↔
      ∀ entry ∈ entries, IsWritable entry.module entry.project := by
  induction entries with
  | nil => simp [pure, Except.pure]
  | cons entry entries ih =>
    have first : validateEntry build entry = .ok () ↔ IsWritable entry.module entry.project :=
      validateEntry_eq_ok_iff
    rw [List.forM_cons, List.forall_mem_cons, ← first, ← ih]
    cases validateEntry build entry with
    | error error => simp [bind, Except.bind]
    | ok accepted => simp [bind, Except.bind]

/-- Builds are accepted behind others exactly if none has a blank name or one of theirs, no two have
the same, and every rule of them can be written. -/
theorem validateBuilds_eq_ok_iff {seen : List String} {builds : List IncludedBuildConfig} :
    validateBuilds seen builds = .ok () ↔
      (∀ build ∈ builds, Text.isBlank build.name = false) ∧
      (∀ build ∈ builds, build.name ∉ seen) ∧
      (builds.map (·.name)).Nodup ∧
      ∀ build ∈ builds, ∀ rule ∈ build.rules, IsWritable rule.1 rule.2 := by
  induction builds generalizing seen with
  | nil => simp [validateBuilds]
  | cons build builds ih =>
    have entries : (∀ rule ∈ build.rules, IsWritable rule.1 rule.2) ↔
        forM build.substitute (validateEntry build.name) = .ok () := by
      rw [forM_validateEntry_eq_ok_iff, IncludedBuildConfig.rules, List.forall_mem_map]
    simp only [List.forall_mem_cons, List.map_cons, List.nodup_cons, entries]
    unfold validateBuilds
    split
    · next blank => simp [blank]
    · next visible =>
      split
      · next twice => simp [twice]
      · next new =>
        -- That the later names are new and none of them is this one says that they are new
        -- behind this build.
        have behind : (∀ later ∈ builds, later.name ∉ build.name :: seen) ↔
            (∀ later ∈ builds, later.name ∉ seen) ∧ build.name ∉ builds.map (·.name) := by
          simp only [List.mem_cons, not_or, List.mem_map, not_exists, not_and]
          exact ⟨fun apart => ⟨fun later member => (apart later member).2,
            fun later member => (apart later member).1⟩,
            fun apart later member => ⟨apart.2 later member, apart.1 later member⟩⟩
        rw [List.forM_eq_forM]
        cases forM build.substitute (validateEntry build.name) with
        | error error => simp [bind, Except.bind]
        | ok accepted =>
          simp only [bind, Except.bind, ih, behind, visible, new, not_false_eq_true, true_and,
            and_assoc]

/-- A configuration is accepted exactly if no name is blank, no two builds have the same, and every
rule can be written. -/
theorem validate_eq_ok_iff {config : CompositeConfig} :
    config.validate = .ok () ↔
      (∀ build ∈ config.builds, Text.isBlank build.name = false) ∧
      (config.builds.map (·.name)).Nodup ∧
      ∀ build ∈ config.builds, ∀ rule ∈ build.rules, IsWritable rule.1 rule.2 := by
  rw [validate, validateBuilds_eq_ok_iff]
  simp

end CompositeConfig

end CompositeBuild
