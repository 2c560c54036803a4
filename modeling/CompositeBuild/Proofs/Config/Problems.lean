import CompositeBuild.Proofs.Config.Validation

/-!
# The problem that is reported

A configuration may have many problems.  `CompositeConfig.problems` lists them all in the order of
the file, each found by itself: for every build, that its name shows nothing, that an earlier build
has its name, and then, entry by entry, the error with which `substitute` would refuse the rule.

Validation looks for problems in this order and stops at the first one, so it reports the head of
this list (`CompositeConfig.validate_eq_report`).  It never writes a rule, and finds the same fault
in an entry as `substitute` does, in the same words (`CompositeConfig.validateEntry_eq_report`).
-/

namespace CompositeBuild

/-! ### All problems -/

namespace IncludedBuildConfig

/-- The problem of an entry of a build, if its rule cannot be written. -/
def entryProblem? (build : IncludedBuildConfig) (entry : SubstitutionConfig) : Option ConfigError :=
  match ({ build := build.id } : DependencySubstitutions).substitute entry.module entry.project with
  | .ok _ => none
  | .error error => some (.invalidSubstitution build.name error.message)

/-- The problems of the name of a build behind others: that no character of it shows, and that an
earlier build has it. -/
def nameProblems (earlier : List IncludedBuildConfig) (build : IncludedBuildConfig) :
    List ConfigError :=
  (if build.name.toList.any (!Text.isBlankChar ·) then [] else [.emptyName]) ++
    (if build.name ∈ earlier.map (·.name) then [.duplicateBuild build.name] else [])

/-- The problems of a build behind others: those of its name, and then those of its entries. -/
def problems (earlier : List IncludedBuildConfig) (build : IncludedBuildConfig) :
    List ConfigError :=
  build.nameProblems earlier ++ build.substitute.filterMap build.entryProblem?

end IncludedBuildConfig

namespace CompositeConfig

open DependencySubstitutions
  (IsWritable isOk_substitute substitute_of_parse substitute_eq_error_iff)

/-- The problems of builds behind others, in the order of the file. -/
def problemsBehind (earlier builds : List IncludedBuildConfig) : List ConfigError :=
  builds.zipIdx.flatMap fun (build, place) => build.problems (earlier ++ builds.take place)

/-- The problems of a configuration, in the order of the file. -/
def problems (config : CompositeConfig) : List ConfigError := problemsBehind [] config.builds

/-- The first build has the problems that it has behind the earlier ones, and it is an earlier one
for the others. -/
theorem problemsBehind_cons (earlier : List IncludedBuildConfig) (build : IncludedBuildConfig)
    (builds : List IncludedBuildConfig) :
    problemsBehind earlier (build :: builds) =
      build.problems earlier ++ problemsBehind (earlier ++ [build]) builds := by
  simp only [problemsBehind, List.zipIdx_cons', List.flatMap_cons, List.flatMap_map, Prod.map_fst,
    Prod.map_snd, id_eq, List.take_zero, List.append_nil, List.take_succ_cons, List.append_assoc,
    List.singleton_append]

/-! ### The first of them -/

/-- Report the first of some problems. -/
def report (problems : List ConfigError) : Except ConfigError Unit :=
  problems.head?.elim (.ok ()) .error

@[simp] theorem report_nil : report [] = .ok () := rfl

@[simp] theorem report_cons (problem : ConfigError) (problems : List ConfigError) :
    report (problem :: problems) = .error problem := rfl

/-- The problems of a part are looked for when there are none in the part before it. -/
theorem report_append (first second : List ConfigError) :
    report (first ++ second) = (do report first; report second) := by
  cases first <;> rfl

/-- Exactly the first problem is reported. -/
theorem report_eq_error_iff {problems : List ConfigError} {error : ConfigError} :
    report problems = .error error ↔ problems.head? = some error := by
  cases problems <;> simp

/-- An entry is refused in the words in which its rule would be. -/
theorem validateEntry_eq_report (build : IncludedBuildConfig) (entry : SubstitutionConfig) :
    validateEntry build.name entry = report (build.entryProblem? entry).toList := by
  let empty : DependencySubstitutions := { build := build.id }
  unfold validateEntry IncludedBuildConfig.entryProblem? ModuleId.parse
  cases parsed : ModuleId.parse? entry.module with
  | none =>
    have refused : empty.substitute entry.module entry.project =
        .error (.invalidModule entry.module) := substitute_eq_error_iff.mpr (.inl ⟨parsed, rfl⟩)
    rw [refused]
    rfl
  | some id =>
    by_cases qualified : IsQualified entry.project
    · simp [substitute_of_parse parsed qualified, qualified]
    · have refused : empty.substitute entry.module entry.project =
          .error (.invalidProjectPath entry.project) :=
        substitute_eq_error_iff.mpr (.inr ⟨Option.isSome_of_eq_some parsed, qualified, rfl⟩)
      rw [refused]
      simp only [qualified, if_false]
      rfl

/-- Of the entries of a build the first problem is reported. -/
theorem forM_validateEntry_eq_report (build : IncludedBuildConfig)
    (entries : List SubstitutionConfig) :
    forM entries (validateEntry build.name) = report (entries.filterMap build.entryProblem?) := by
  induction entries with
  | nil => rfl
  | cons entry entries ih =>
    rw [List.forM_cons, ih, validateEntry_eq_report, ← report_append]
    cases found : build.entryProblem? entry <;> simp [found]

/-- A name is not blank exactly if some character of it shows. -/
theorem isBlank_eq_false_iff {name : String} :
    Text.isBlank name = false ↔ ∃ c ∈ name.toList, Text.isBlankChar c = false := by
  simp [Text.isBlank]

/-- The checks of a build behind others are those of its name, and then those of its entries. -/
theorem validateBuilds_cons {seen : List String} {earlier : List IncludedBuildConfig}
    (same : ∀ name, name ∈ seen ↔ name ∈ earlier.map (·.name)) (build : IncludedBuildConfig)
    (builds : List IncludedBuildConfig) :
    validateBuilds seen (build :: builds) = (do
      report (build.nameProblems earlier)
      forM build.substitute (validateEntry build.name)
      validateBuilds (build.name :: seen) builds) := by
  rw [validateBuilds]
  simp only [IncludedBuildConfig.nameProblems, List.any_eq_true, Bool.not_eq_true',
    ← isBlank_eq_false_iff, ← same]
  by_cases blank : Text.isBlank build.name = true
  · simp [blank]
    rfl
  · by_cases twice : build.name ∈ seen
    · simp [blank, twice]
      rfl
    · simp [blank, twice]
      rfl

/-- Of the problems of builds behind others the first is reported. -/
theorem validateBuilds_eq_report {seen : List String} {earlier : List IncludedBuildConfig}
    (same : ∀ name, name ∈ seen ↔ name ∈ earlier.map (·.name))
    (builds : List IncludedBuildConfig) :
    validateBuilds seen builds = report (problemsBehind earlier builds) := by
  induction builds generalizing seen earlier with
  | nil => rfl
  | cons build builds ih =>
    have behind : ∀ name, name ∈ build.name :: seen ↔
        name ∈ (earlier ++ [build]).map (·.name) := by
      intro name
      simp [same, or_comm]
    calc validateBuilds seen (build :: builds)
      _ = (do
          report (build.nameProblems earlier)
          report (build.substitute.filterMap build.entryProblem?)
          report (problemsBehind (earlier ++ [build]) builds)) := by
        rw [validateBuilds_cons same, forM_validateEntry_eq_report, ih behind]
      _ = report (problemsBehind earlier (build :: builds)) := by
        rw [problemsBehind_cons, IncludedBuildConfig.problems, report_append, report_append,
          bind_assoc]

/-- Validation reports the first problem of a configuration. -/
theorem validate_eq_report (config : CompositeConfig) :
    config.validate = report config.problems :=
  validateBuilds_eq_report (by simp) config.builds

/-- **Exactly the usable configurations are accepted, and of any other one the first problem is
reported.**  A configuration is accepted exactly if some character shows in every name, no two
builds have the same name, and every rule set would grant the rules of all entries.  The error of
any other one is the first of its problems in the order of the file, where the problems of a build
are that no character of its name shows, that an earlier build has its name, and then, for each
entry in order, the text of the error with which its rule is refused.

A rule is refused for its module if that is no coordinates, and else for its project if that is not
qualified, by every rule set alike. -/
theorem first_problem_is_reported (config : CompositeConfig) :
    (config.validate = .ok () ↔
      (∀ build ∈ config.builds, ∃ c ∈ build.name.toList, Text.isBlankChar c = false) ∧
      (config.builds.map (·.name)).Nodup ∧
      ∀ build ∈ config.builds, ∀ entry ∈ build.substitute, ∀ subs : DependencySubstitutions,
        ∃ next, subs.substitute entry.module entry.project = .ok next) ∧
    (∀ error, config.validate = .error error ↔ config.problems.head? = some error) ∧
    ∀ (subs : DependencySubstitutions) (module project : String) (error : SubstitutionError),
      subs.substitute module project = .error error ↔
        (ModuleId.parse? module = none ∧ error = .invalidModule module) ∨
        ((ModuleId.parse? module).isSome ∧ ¬IsQualified project ∧
          error = .invalidProjectPath project) := by
  refine ⟨?_, fun error => ?_, fun subs module project error => substitute_eq_error_iff⟩
  · have granted (entry : SubstitutionConfig) :
        (∀ subs : DependencySubstitutions,
          ∃ next, subs.substitute entry.module entry.project = .ok next) ↔
          IsWritable entry.module entry.project :=
      ⟨fun always => isOk_substitute.mp (always { build := default }),
        fun writable subs => isOk_substitute.mpr writable⟩
    simp only [validate_eq_ok_iff, isBlank_eq_false_iff, granted, IncludedBuildConfig.rules,
      List.forall_mem_map]
  · rw [validate_eq_report, report_eq_error_iff]

/-- The second build has a name that is taken and an entry whose module is no coordinates, and the
name of the third one is blank.  The name that is taken is what is reported. -/
example :
    let tools : IncludedBuildConfig :=
      { name := "tools", dir := "tools", substitute := [⟨"org:tools", ":"⟩, ⟨"org", ":"⟩] }
    let config : CompositeConfig :=
      { builds := [{ name := "tools", dir := "first" }, tools, { name := " ", dir := "third" }] }
    config.problems =
      [.duplicateBuild "tools",
        .invalidSubstitution "tools" "invalid module id 'org': expected 'group:name'",
        .emptyName] := by
  decide

end CompositeConfig

end CompositeBuild
