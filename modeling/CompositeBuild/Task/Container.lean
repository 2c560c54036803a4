import CompositeBuild.Task.Basic

/-!
# The tasks of one consuming build

`BuildTasks` lists the tasks of one build in name order, at most one for a name.  Code that resolves
references to tasks of other builds needs only to find tasks by name and to add them, so it works on
any `TaskContainer`.
-/

namespace CompositeBuild

/-- Why a reference to a task of another build is not resolved, or a task not added. -/
inductive ResolveError where
  /-- No build of this name is registered. -/
  | unknownBuild (build : BuildId)
  /-- The name of the delegate belongs to a task of another kind. -/
  | nameCollision (name : String)
  /-- The name of the new task is taken. -/
  | duplicateTask (name : String)
  deriving DecidableEq, Repr

/-- The text of a resolve error. -/
def ResolveError.message : ResolveError → String
  | .unknownBuild build => unknownBuildMessage build
  | .nameCollision name =>
    s!"Cannot create delegating task '{name}' as task with same name already exists."
  | .duplicateTask name => s!"task '{name}' already exists"

/-- How tasks are found in, and added to, a value of type `τ`. -/
structure TaskContainer (τ : Type) where
  find? : τ → String → Option Task
  add : τ → Task → Logged (Except ResolveError τ)

/-- The same container with all its tasks hidden from a search by name. -/
def TaskContainer.blind {τ : Type} (container : TaskContainer τ) : TaskContainer τ :=
  { container with find? := fun _ _ => none }

/-- The tasks of one build. -/
structure BuildTasks where
  owner : BuildId
  tasks : NameMap Task := .empty

namespace BuildTasks

/-- The number of tasks. -/
def size (tasks : BuildTasks) : Nat := tasks.tasks.entries.length

/-- The tasks in name order. -/
def toList (tasks : BuildTasks) : List Task := tasks.tasks.values

/-- The delegates in name order. -/
def delegates (tasks : BuildTasks) : List Delegate := tasks.toList.filterMap Task.delegate?

/-- The task of a name. -/
def find? (tasks : BuildTasks) (name : String) : Option Task := tasks.tasks.get? name

/-- Add a task, which is refused if its name is taken. -/
def add (tasks : BuildTasks) (task : Task) : Logged (Except ResolveError BuildTasks) :=
  if tasks.tasks.contains task.name then pure (.error (.duplicateTask task.name))
  else do
    .emit .trace "added task" [("build", tasks.owner.text), ("task", task.name)]
    return .ok { tasks with tasks := tasks.tasks.insert task.name task }

/-- Finding and adding tasks of a build. -/
def container : TaskContainer BuildTasks where
  find? := find?
  add := add

/-- The tasks of a build as they appear in a report of values. -/
def inspect (tasks : BuildTasks) : String :=
  let entry (task : Task) := Text.quoted task.name ++ ": " ++ task.inspect
  "BuildTasks \x7b owner: " ++ DependencySubstitutions.inspectBuild tasks.owner ++
    ", tasks: \x7b" ++ ", ".intercalate (tasks.toList.map entry) ++ "\x7d \x7d"

end BuildTasks

end CompositeBuild
