import CompositeBuild.BuildId
import CompositeBuild.TaskPath
import CompositeBuild.Substitution.ModuleId
import CompositeBuild.Text.Quoted

/-!
# Dependency substitution rules

An included build can say that an external module is satisfied by one of its own projects.  The
rules of a build are a list in the order in which they were last written, with at most one rule
for a module.
-/

namespace CompositeBuild

/-- Why a substitution is refused. -/
inductive SubstitutionError where
  /-- The text is no module coordinates. -/
  | invalidModule (text : String)
  /-- The text is no project path. -/
  | invalidProjectPath (text : String)
  /-- The rules of the build are settled. -/
  | alreadyResolved
  deriving DecidableEq, Repr

/-- The text of a substitution error. -/
def SubstitutionError.message : SubstitutionError → String
  | .invalidModule text => s!"invalid module id '{text}': expected 'group:name'"
  | .invalidProjectPath text => s!"invalid project path '{text}': must start with ':'"
  | .alreadyResolved =>
    "Cannot configure included build after dependency substitutions are resolved."

/-- Read the coordinates of a module. -/
def ModuleId.parse (text : String) : Except SubstitutionError ModuleId :=
  match parse? text with
  | some id => .ok id
  | none => .error (.invalidModule text)

/-- A project of an included build. -/
structure ProjectSelector where
  build : BuildId
  path : String
  deriving DecidableEq, Repr

instance : ToString ProjectSelector where
  toString selector := s!"project '{selector.path}' in build {selector.build}"

/-- The substitution rules of one included build, in the order of their last writing. -/
structure DependencySubstitutions where
  build : BuildId
  rules : List (ModuleId × ProjectSelector) := []
  deriving DecidableEq, Repr

namespace DependencySubstitutions

/-- Replace a module by the project at `project`.  The new rule goes to the end and takes the place
of an earlier one for the same module. -/
def substitute (subs : DependencySubstitutions) (module project : String) :
    Except SubstitutionError DependencySubstitutions := do
  let module ← ModuleId.parse module
  if IsQualified project then
    let kept := subs.rules.filter fun rule => rule.1 ≠ module
    return { subs with rules := kept ++ [(module, { build := subs.build, path := project })] }
  else
    throw (.invalidProjectPath project)

/-- The project that stands for a module. -/
def find? (subs : DependencySubstitutions) (module : ModuleId) : Option ProjectSelector :=
  (subs.rules.find? fun rule => rule.1 = module).map (·.2)

/-- The number of rules. -/
def size (subs : DependencySubstitutions) : Nat := subs.rules.length

/-! ### The written form of a rule set -/

/-- A build name as it appears in a report of values. -/
def inspectBuild (build : BuildId) : String :=
  s!"BuildId({Text.quoted build.text})"

/-- One rule as it appears in a report of values. -/
def inspectRule (rule : ModuleId × ProjectSelector) : String :=
  let module := "ModuleId \x7b group: " ++ Text.quoted rule.1.group ++ ", name: " ++
    Text.quoted rule.1.name ++ " \x7d"
  let selector := "ProjectSelector \x7b build: " ++ inspectBuild rule.2.build ++ ", path: " ++
    Text.quoted rule.2.path ++ " \x7d"
  s!"({module}, {selector})"

/-- The rule set with all its rules in order, as it appears in a report of values. -/
def inspect (subs : DependencySubstitutions) : String :=
  "DependencySubstitutions \x7b build: " ++ inspectBuild subs.build ++ ", rules: [" ++
    ", ".intercalate (subs.rules.map inspectRule) ++ "] \x7d"

end DependencySubstitutions

end CompositeBuild
