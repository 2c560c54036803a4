import CompositeBuild.Proofs.Registry.Edges
import CompositeBuild.Session.Resolve

/-!
# Resolving references for a consuming build

The tasks of a build are found under their own names (`BuildTasks.Keyed`), so the list of them is in
strictly increasing name order and has one task for a name (`BuildTasks.filter_name`).

`Session.Resolves` lists the answers to a reference with what they do to the tasks and to the
session.  `Session.resolve_resolves` says that there are no others: when a delegate has to be made
its name is free, so adding it is never refused.
-/

namespace CompositeBuild

variable {σ ρ : Type}

/-- A task that is taken for a delegate is one. -/
theorem Task.delegate?_eq_some {task : Task} {delegate : Delegate} :
    task.delegate? = some delegate ↔ task = .delegate delegate := by
  cases task <;> simp [Task.delegate?]

namespace BuildTasks

variable {tasks : BuildTasks} {task : Task} {name : String}

/-! ### Tasks and their names -/

/-- The tasks with one more. -/
def extend (tasks : BuildTasks) (task : Task) : BuildTasks :=
  { tasks with tasks := tasks.tasks.insert task.name task }

/-- Every task is found under its own name only. -/
def Keyed (tasks : BuildTasks) : Prop :=
  ∀ name task, tasks.find? name = some task → task.name = name

/-- A task is refused if its name is taken. -/
theorem add_of_taken {taken : Task} (found : tasks.find? task.name = some taken) :
    (tasks.add task).value = .error (.duplicateTask task.name) := by
  have contained : tasks.tasks.contains task.name = true := by
    rw [NameMap.contains_eq_isSome_get?]
    exact Option.isSome_of_eq_some found
  simp [add, contained]

/-- A task is added if its name is free. -/
theorem add_of_free (free : tasks.find? task.name = none) :
    (tasks.add task).value = .ok (tasks.extend task) := by
  have absent : tasks.tasks.contains task.name = false := by
    rw [NameMap.contains_eq_isSome_get?]
    exact Option.isSome_eq_false_iff.mpr (Option.isNone_iff_eq_none.mpr free)
  simp [add, absent, extend]

/-- One more task is found under its name and hides nothing under another one. -/
theorem find?_extend (tasks : BuildTasks) (task : Task) (name : String) :
    (tasks.extend task).find? name = if task.name = name then some task else tasks.find? name :=
  NameMap.get?_insert tasks.tasks task.name task name

namespace Keyed

theorem empty (owner : BuildId) : Keyed { owner } := fun name task found => by
  simp [find?] at found

theorem extend (keyed : tasks.Keyed) (task : Task) : (tasks.extend task).Keyed := by
  intro name found here
  rw [find?_extend] at here
  split at here
  · next named =>
    obtain rfl : task = found := by simpa using here
    exact named
  · exact keyed name found here

/-- The tasks that are listed are those that are found under their names. -/
theorem mem_toList_iff (keyed : tasks.Keyed) :
    task ∈ tasks.toList ↔ tasks.find? task.name = some task := by
  constructor
  · intro member
    obtain ⟨⟨name, _⟩, entry, rfl⟩ := List.mem_map.mp member
    have found := NameMap.get?_eq_some_iff.mpr entry
    rw [keyed name _ found]
    exact found
  · intro found
    exact List.mem_map.mpr ⟨_, NameMap.get?_eq_some_iff.mp found, rfl⟩

/-- The tasks are listed in strictly increasing name order. -/
theorem pairwise_toList (keyed : tasks.Keyed) :
    tasks.toList.Pairwise fun one other => one.name < other.name := by
  refine List.pairwise_map.mpr (tasks.tasks.increasing.imp_of_mem ?_)
  rintro ⟨name, task⟩ ⟨name', task'⟩ here there less
  rw [keyed name task (NameMap.get?_eq_some_iff.mpr here),
    keyed name' task' (NameMap.get?_eq_some_iff.mpr there)]
  exact less

/-- A task that is found is the only one of its name. -/
theorem filter_name (keyed : tasks.Keyed) (found : tasks.find? name = some task) :
    tasks.toList.filter (·.name = name) = [task] := by
  obtain rfl : task.name = name := keyed name task found
  obtain ⟨front, back, split⟩ := List.append_of_mem (keyed.mem_toList_iff.mpr found)
  have increasing := keyed.pairwise_toList
  rw [split, List.pairwise_append, List.pairwise_cons] at increasing
  obtain ⟨-, ⟨behind, -⟩, before⟩ := increasing
  have others {part : List Task} (differ : ∀ other ∈ part, other.name ≠ task.name) :
      part.filter (·.name = task.name) = [] :=
    List.filter_eq_nil_iff.mpr fun other member => by simpa using differ other member
  have ahead : ∀ other ∈ front, other.name ≠ task.name := by
    intro other member same
    exact String.lt_irrefl _ (same ▸ before other member task (List.mem_cons_self ..))
  have after : ∀ other ∈ back, other.name ≠ task.name := by
    intro other member same
    exact String.lt_irrefl _ (same ▸ behind other member)
  rw [split, List.filter_append, List.filter_cons_of_pos (by simp), others ahead, others after,
    List.nil_append]

/-- The delegates are the delegates among the tasks. -/
theorem mem_delegates_iff (keyed : tasks.Keyed) {delegate : Delegate} :
    delegate ∈ tasks.delegates ↔ tasks.find? delegate.build.text = some (.delegate delegate) := by
  have named : (Task.delegate delegate).name = delegate.build.text := rfl
  rw [← named, ← keyed.mem_toList_iff, delegates, List.mem_filterMap]
  simp only [Task.delegate?_eq_some, exists_eq_right]

/-- The delegates are listed in strictly increasing name order. -/
theorem pairwise_delegates (keyed : tasks.Keyed) :
    tasks.delegates.Pairwise fun one other => one.name < other.name := by
  refine keyed.pairwise_toList.filterMap Task.delegate? ?_
  intro one other less node here node' there
  rwa [Task.delegate?_eq_some.mp here, Task.delegate?_eq_some.mp there] at less

end Keyed

/-! ### More tasks -/

/-- Every task of the first is found in the second, under the same name. -/
def Keeps (tasks later : BuildTasks) : Prop :=
  ∀ name task, tasks.find? name = some task → later.find? name = some task

namespace Keeps

theorem refl (tasks : BuildTasks) : Keeps tasks tasks := fun _ _ found => found

theorem trans {tasks later last : BuildTasks} (first : Keeps tasks later)
    (second : Keeps later last) : Keeps tasks last :=
  fun name task found => second name task (first name task found)

/-- One more task of a free name takes no other's place. -/
theorem extend (free : tasks.find? task.name = none) : Keeps tasks (tasks.extend task) := by
  intro name found here
  rw [find?_extend]
  split
  · next named => simp [← named, free] at here
  · exact here

end Keeps

end BuildTasks

/-! ### The answers to a reference -/

namespace Session

variable {session : Session σ ρ} {reference : TaskReference} {tasks : BuildTasks}

/-- The answers to a reference that is resolved for a consuming build, with the tasks and the
session after it. -/
inductive Resolves (session : Session σ ρ) (reference : TaskReference) (tasks : BuildTasks) :
    Except ResolveError (Delegate × BuildTasks) → Session σ ρ → Prop
  /-- The build is not registered. -/
  | unknown (absent : session.find? reference.build = none) :
      Resolves session reference tasks (.error (.unknownBuild reference.build)) session
  /-- The delegate for the build is there. -/
  | shared {ref : BuildRef} {build : IncludedBuild σ ρ} {delegate : Delegate}
      (found : session.find? reference.build = some (ref, build))
      (known : tasks.find? reference.build.text = some (.delegate delegate)) :
      Resolves session reference tasks (.ok (delegate, tasks))
        (session.setBuild ref (build.queue [reference.path]).value)
  /-- An action has the name of the delegate. -/
  | collision {ref : BuildRef} {build : IncludedBuild σ ρ} {name : String}
      {result : Except BuildFailure Unit}
      (found : session.find? reference.build = some (ref, build))
      (known : tasks.find? reference.build.text = some (.action name result)) :
      Resolves session reference tasks (.error (.nameCollision name))
        (session.setBuild ref (build.queue [reference.path]).value)
  /-- The delegate for the build is made. -/
  | made {ref : BuildRef} {build : IncludedBuild σ ρ}
      (found : session.find? reference.build = some (ref, build))
      (free : tasks.find? reference.build.text = none) :
      Resolves session reference tasks
        (.ok (⟨session.delegates, reference.build⟩,
          tasks.extend (.delegate ⟨session.delegates, reference.build⟩)))
        { session.setBuild ref (build.queue [reference.path]).value with
          delegates := session.delegates + 1 }

/-- Every answer to a reference is one of the list. -/
theorem resolve_resolves (session : Session σ ρ) (reference : TaskReference) (tasks : BuildTasks) :
    Resolves session reference tasks (session.resolve BuildTasks.container reference tasks).value.1
      (session.resolve BuildTasks.container reference tasks).value.2 := by
  cases found : session.find? reference.build with
  | none => simpa [resolve, found] using Resolves.unknown found
  | some entry =>
    obtain ⟨ref, build⟩ := entry
    cases known : tasks.find? reference.build.text with
    | some task =>
      have here : BuildTasks.container.find? tasks reference.build.text = some task := known
      cases task with
      | delegate delegate => simpa [resolve, found, here] using Resolves.shared found known
      | action name result => simpa [resolve, found, here] using Resolves.collision found known
    | none =>
      have free : BuildTasks.container.find? tasks reference.build.text = none := known
      have added : (BuildTasks.container.add tasks
          (.delegate ⟨session.delegates, reference.build⟩)).value =
          .ok (tasks.extend (.delegate ⟨session.delegates, reference.build⟩)) :=
        BuildTasks.add_of_free known
      have delegates {ref : BuildRef} {build : IncludedBuild σ ρ} :
          (session.setBuild ref build).delegates = session.delegates := rfl
      simpa [resolve, found, free, delegates, added] using Resolves.made found known

end Session

end CompositeBuild
