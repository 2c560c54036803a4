import CompositeBuild.Proofs.Session.Workspace
import CompositeBuild.Proofs.Task.Resolution

/-!
# One delegate for a build

A consuming build starts without tasks and gets them one by one: actions from its owner, delegates
from references that are resolved for it.  `Workspace.Added` lists what one operation does to the
tasks of one consuming build, and everything here is read off that list.

A delegate takes the next number of the session, so the numbers in use stay below the next one, and
no two delegates of the session have the same (`Workspace.Apart`).  Tasks are never taken away, so
the delegate for a build, once there, is the answer to every later reference that is resolved to
that build (`Workspace.delegates_are_shared`).
-/

namespace CompositeBuild

variable {σ ρ : Type}

/-- Turns take no delegate back. -/
theorem Concourse.delegates_le_run (concourse : Concourse σ ρ) (turns : List (Turn σ ρ)) :
    concourse.delegates ≤ (concourse.run turns).delegates := by
  induction turns generalizing concourse with
  | nil => exact le_rfl
  | cons turn turns ih =>
    have more : concourse.delegates ≤ (concourse.step turn).delegates := by
      cases turn <;> simp [step]
    exact more.trans (ih _)

/-- A delegate that is found under the name of a build is a delegate for that build. -/
theorem BuildTasks.Keyed.build_eq {tasks : BuildTasks} {target : BuildId} {delegate : Delegate}
    (keyed : tasks.Keyed) (known : tasks.find? target.text = some (.delegate delegate)) :
    delegate.build = target :=
  Dependencies.text_inj.mp (keyed _ _ known)

namespace Workspace

variable (workspace : Workspace σ ρ)

/-- The delegates of a consuming build, none if there is no such build. -/
def delegatesOf (consumer : Nat) : List Delegate :=
  (workspace.taskSets[consumer]?).elim [] BuildTasks.delegates

/-- The build to which an operation resolves a reference for a consuming build. -/
def resolved (consumer : Nat) : Operation σ ρ → List BuildId
  | .resolve other reference =>
    if other = consumer then
      match workspace.resolution consumer reference with
      | some (.ok _) => [reference.build]
      | _ => []
    else []
  | _ => []

/-- The builds to which operations resolve references for a consuming build. -/
def resolvedOf (consumer : Nat) : Workspace σ ρ → List (Operation σ ρ) → List BuildId
  | _, [] => []
  | workspace, operation :: operations =>
    workspace.resolved consumer operation ++
      resolvedOf consumer (workspace.step operation) operations

/-- What an operation does to the tasks of one consuming build. -/
inductive Added (consumer : Nat) (tasks : BuildTasks) : Operation σ ρ → BuildTasks → Prop
  /-- Nothing is added, because everything that is asked for is there. -/
  | nothing {operation : Operation σ ρ}
      (known : ∀ target ∈ workspace.resolved consumer operation,
        ∃ delegate, tasks.find? target.text = some (.delegate delegate)) :
      Added consumer tasks operation tasks
  /-- An action of a free name is added. -/
  | action {name : String} {result : Except BuildFailure Unit} (free : tasks.find? name = none) :
      Added consumer tasks (.addAction consumer name result) (tasks.extend (.action name result))
  /-- The next delegate is added, for a build whose name is free. -/
  | delegate {reference : TaskReference} (free : tasks.find? reference.build.text = none)
      (wanted : workspace.resolved consumer (.resolve consumer reference) = [reference.build])
      (counted : (workspace.step (.resolve consumer reference)).session.delegates =
        workspace.session.delegates + 1) :
      Added consumer tasks (.resolve consumer reference)
        (tasks.extend (.delegate ⟨workspace.session.delegates, reference.build⟩))

variable {workspace} {consumer : Nat} {tasks after : BuildTasks} {operation : Operation σ ρ}
  {delegate : Delegate}

/-! ### What one operation adds -/

/-- Resolving a reference adds at most the delegate for it to the tasks. -/
theorem added_resolve (found : workspace.taskSets[consumer]? = some tasks)
    (reference : TaskReference) :
    ∃ after, (workspace.step (.resolve consumer reference)).taskSets[consumer]? = some after ∧
      Added workspace consumer tasks (.resolve consumer reference) after := by
  have wanted : workspace.resolved consumer (.resolve consumer reference) =
      match (workspace.session.resolve BuildTasks.container reference tasks).value.1 with
      | .ok _ => [reference.build]
      | .error _ => [] := by
    simp only [resolved, resolution, found, Option.map_some, if_true]
    cases (workspace.session.resolve BuildTasks.container reference tasks).value.1 <;> rfl
  have counted := congrArg Session.delegates (session_resolve found reference)
  simp only [step, List.getElem?_modify, found, if_true, Option.map_eq_map, Option.map_some,
    Option.some.injEq, exists_eq_left']
  have resolves := workspace.session.resolve_resolves reference tasks
  generalize (workspace.session.resolve BuildTasks.container reference tasks).value.1 = answer,
    (workspace.session.resolve BuildTasks.container reference tasks).value.2 = next
    at resolves wanted counted ⊢
  cases resolves with
  | unknown absent => exact .nothing (by simp [wanted])
  | shared here known => exact .nothing (by simp [wanted, known])
  | collision here known => exact .nothing (by simp [wanted])
  | made here free => exact .delegate free wanted counted

/-- An operation adds at most one task to those of a consuming build. -/
theorem exists_added (found : workspace.taskSets[consumer]? = some tasks)
    (operation : Operation σ ρ) :
    ∃ after, (workspace.step operation).taskSets[consumer]? = some after ∧
      Added workspace consumer tasks operation after := by
  have untouched {operation : Operation σ ρ}
      (same : (workspace.step operation).taskSets[consumer]? = workspace.taskSets[consumer]?)
      (nothing : workspace.resolved consumer operation = []) :
      ∃ after, (workspace.step operation).taskSets[consumer]? = some after ∧
        Added workspace consumer tasks operation after :=
    ⟨tasks, same.trans found, .nothing (by simp [nothing])⟩
  cases operation with
  | consume owner =>
    refine untouched ?_ rfl
    exact List.getElem?_append_left (List.getElem?_eq_some_iff.mp found).1
  | addAction other name result =>
    by_cases same : other = consumer
    · subst same
      simp only [step, List.getElem?_modify, found, if_true, Option.map_eq_map, Option.map_some,
        Option.some.injEq, exists_eq_left']
      cases taken : tasks.find? (Task.action name result).name with
      | some task =>
        rw [BuildTasks.add_of_taken taken]
        exact .nothing (by simp [resolved])
      | none =>
        rw [BuildTasks.add_of_free taken]
        exact .action taken
    · exact untouched (by simp [step, same]) rfl
  | resolve other reference =>
    by_cases same : other = consumer
    · subst same
      exact added_resolve found reference
    · exact untouched (by simp [step, same]) (by simp [resolved, same])
  | _ => exact untouched rfl rfl

/-- A consuming build that appears has no tasks. -/
theorem taskSets_step_of_absent (absent : workspace.taskSets[consumer]? = none)
    (found : (workspace.step operation).taskSets[consumer]? = some tasks) :
    ∃ owner, tasks = { owner } := by
  cases operation with
  | consume owner =>
    simp only [step, List.getElem?_append, List.getElem?_singleton] at found
    split at found
    · simp [absent] at found
    · split at found
      · exact ⟨owner, (Option.some.inj found).symm⟩
      · simp at found
  | addAction | resolve => simp [step, List.getElem?_modify, absent] at found
  | _ => simp [step, absent] at found

namespace Added

/-- The tasks that are there stay. -/
theorem keeps (added : Added workspace consumer tasks operation after) : tasks.Keeps after := by
  cases added with
  | nothing known => exact .refl tasks
  | action free => exact .extend free
  | delegate free wanted counted => exact .extend free

theorem keyed (added : Added workspace consumer tasks operation after) (keyed : tasks.Keyed) :
    after.Keyed := by
  cases added with
  | nothing known => exact keyed
  | action free => exact keyed.extend _
  | delegate free wanted counted => exact keyed.extend _

/-- A delegate that is there now was there before, or it is the next one and for the reference that
is resolved. -/
theorem origin {name : String} (added : Added workspace consumer tasks operation after)
    (here : after.find? name = some (.delegate delegate)) :
    tasks.find? name = some (.delegate delegate) ∨
      ∃ reference, operation = .resolve consumer reference ∧
        delegate = ⟨workspace.session.delegates, reference.build⟩ ∧
        workspace.resolved consumer operation = [reference.build] ∧
        (workspace.step operation).session.delegates = workspace.session.delegates + 1 := by
  cases added with
  | nothing known => exact .inl here
  | action free =>
    rw [BuildTasks.find?_extend] at here
    split at here
    · simp at here
    · exact .inl here
  | @delegate reference free wanted counted =>
    rw [BuildTasks.find?_extend] at here
    split at here
    · exact .inr ⟨reference, rfl, by simpa using here.symm, wanted, counted⟩
    · exact .inl here

/-- A build to which a reference is resolved has its delegate afterwards. -/
theorem known {target : BuildId} (added : Added workspace consumer tasks operation after)
    (asked : target ∈ workspace.resolved consumer operation) :
    ∃ delegate, after.find? target.text = some (.delegate delegate) := by
  cases added with
  | nothing known => exact known target asked
  | action free => simp [resolved] at asked
  | delegate free wanted counted =>
    obtain rfl : target = _ := by simpa [wanted] using asked
    exact ⟨_, by rw [BuildTasks.find?_extend]; exact if_pos rfl⟩

end Added

/-! ### Numbers -/

/-- The consuming build has the delegate. -/
def Holds (workspace : Workspace σ ρ) (consumer : Nat) (delegate : Delegate) : Prop :=
  ∃ tasks, workspace.taskSets[consumer]? = some tasks ∧
    tasks.find? delegate.build.text = some (.delegate delegate)

/-- The tasks of all consuming builds are in order, and the delegates among them are the only ones
of their numbers. -/
structure Apart (workspace : Workspace σ ρ) : Prop where
  keyed : ∀ (consumer : Nat) (tasks : BuildTasks),
    workspace.taskSets[consumer]? = some tasks → tasks.Keyed
  counted : ∀ consumer delegate, workspace.Holds consumer delegate →
    delegate.number < workspace.session.delegates
  apart : ∀ consumer other delegate twin, workspace.Holds consumer delegate →
    workspace.Holds other twin → delegate.number = twin.number → consumer = other ∧ delegate = twin

/-- The delegates that a consuming build has after an operation are those that it had, and the next
one if that is made for it. -/
theorem holds_step (held : (workspace.step operation).Holds consumer delegate) :
    workspace.Holds consumer delegate ∨
      ∃ reference, operation = .resolve consumer reference ∧
        delegate = ⟨workspace.session.delegates, reference.build⟩ ∧
        workspace.resolved consumer operation = [reference.build] ∧
        (workspace.step operation).session.delegates = workspace.session.delegates + 1 := by
  obtain ⟨after, there, here⟩ := held
  cases before : workspace.taskSets[consumer]? with
  | none =>
    obtain ⟨owner, rfl⟩ := taskSets_step_of_absent before there
    simp [BuildTasks.find?] at here
  | some tasks =>
    obtain ⟨same, present, added⟩ := exists_added before operation
    obtain rfl : after = same := Option.some.inj (there.symm.trans present)
    exact (added.origin here).imp_left fun known => ⟨tasks, before, known⟩

namespace Apart

/-- No delegates are there before there are consuming builds. -/
theorem empty : Apart ({} : Workspace σ ρ) where
  keyed consumer tasks found := by simp at found
  counted consumer delegate held := by
    obtain ⟨tasks, found, -⟩ := held
    simp at found
  apart consumer other delegate twin held := by
    obtain ⟨tasks, found, -⟩ := held
    simp at found

/-- Every operation leaves the delegates apart. -/
theorem step (apart : workspace.Apart) (operation : Operation σ ρ) :
    (workspace.step operation).Apart where
  keyed consumer after found := by
    cases before : workspace.taskSets[consumer]? with
    | none =>
      obtain ⟨owner, rfl⟩ := taskSets_step_of_absent before found
      exact .empty owner
    | some tasks =>
      obtain ⟨same, present, added⟩ := exists_added before operation
      obtain rfl : after = same := Option.some.inj (found.symm.trans present)
      exact added.keyed (apart.keyed consumer tasks before)
  counted consumer delegate held := by
    rcases holds_step held with old | ⟨reference, -, rfl, -, counted⟩
    · exact (apart.counted consumer delegate old).trans_le (Concourse.delegates_le_run _ _)
    · exact counted ▸ Nat.lt_succ_self _
  apart consumer other delegate twin held held' same := by
    -- A delegate that was there has a smaller number than the one that is made now.
    rcases holds_step held with old | ⟨reference, asked, rfl, -, -⟩ <;>
      rcases holds_step held' with old' | ⟨reference', asked', rfl, -, -⟩
    · exact apart.apart consumer other delegate twin old old' same
    · exact absurd same (apart.counted consumer delegate old).ne
    · exact absurd same.symm (apart.counted other twin old').ne
    · obtain ⟨rfl, rfl⟩ : consumer = other ∧ reference = reference' := by
        simpa using asked.symm.trans asked'
      exact ⟨rfl, rfl⟩

/-- The delegates are apart, whatever has happened. -/
theorem run (apart : workspace.Apart) (operations : List (Operation σ ρ)) :
    (workspace.run operations).Apart :=
  operations.foldlRecOn Workspace.step (motive := Apart) apart
    fun _ apart operation _ => apart.step operation

variable (apart : workspace.Apart)
include apart

/-- The delegates of a consuming build are those that it has. -/
theorem mem_delegatesOf : delegate ∈ workspace.delegatesOf consumer ↔
    workspace.Holds consumer delegate := by
  cases found : workspace.taskSets[consumer]? with
  | none => simp [delegatesOf, Holds, found]
  | some tasks =>
    simp only [delegatesOf, Holds, found, Option.elim_some, Option.some.injEq, exists_eq_left']
    exact (apart.keyed consumer tasks found).mem_delegates_iff

/-- The builds that have a delegate after an operation are those that had one, and the one to which
a reference is resolved. -/
theorem exists_holds_step {target : BuildId} :
    (∃ delegate, (workspace.step operation).Holds consumer delegate ∧ delegate.build = target) ↔
      (∃ delegate, workspace.Holds consumer delegate ∧ delegate.build = target) ∨
        target ∈ workspace.resolved consumer operation := by
  constructor
  · rintro ⟨delegate, held, rfl⟩
    rcases holds_step held with old | ⟨reference, -, rfl, wanted, -⟩
    · exact .inl ⟨delegate, old, rfl⟩
    · exact .inr (by simp [wanted])
  · rintro (⟨delegate, ⟨tasks, found, known⟩, rfl⟩ | asked)
    · obtain ⟨after, there, added⟩ := exists_added found operation
      exact ⟨delegate, ⟨after, there, added.keeps _ _ known⟩, rfl⟩
    · cases found : workspace.taskSets[consumer]? with
      | none =>
        cases operation with
        | resolve other reference => simp [resolved, resolution, found] at asked
        | _ => simp [resolved] at asked
      | some tasks =>
        obtain ⟨after, there, added⟩ := exists_added found operation
        obtain ⟨delegate, known⟩ := added.known asked
        obtain rfl := (added.keyed (apart.keyed consumer tasks found)).build_eq known
        exact ⟨delegate, ⟨after, there, known⟩, rfl⟩

/-- The builds that have a delegate after operations are those that had one, and those to which a
reference was resolved. -/
theorem exists_holds_run {target : BuildId} (operations : List (Operation σ ρ)) :
    (∃ delegate, (workspace.run operations).Holds consumer delegate ∧ delegate.build = target) ↔
      (∃ delegate, workspace.Holds consumer delegate ∧ delegate.build = target) ∨
        target ∈ resolvedOf consumer workspace operations := by
  induction operations generalizing workspace with
  | nil => simp [resolvedOf]
  | cons operation operations ih =>
    rw [run_cons, ih (apart.step operation), apart.exists_holds_step, resolvedOf, List.mem_append,
      or_assoc]

end Apart

/-! ### Tasks stay -/

/-- The tasks of a consuming build stay, whatever happens. -/
theorem exists_keeps_run (found : workspace.taskSets[consumer]? = some tasks)
    (operations : List (Operation σ ρ)) :
    ∃ later, (workspace.run operations).taskSets[consumer]? = some later ∧ tasks.Keeps later := by
  induction operations generalizing workspace tasks with
  | nil => exact ⟨tasks, found, .refl tasks⟩
  | cons operation operations ih =>
    obtain ⟨after, there, added⟩ := exists_added found operation
    obtain ⟨later, last, keeps⟩ := ih there
    exact ⟨later, last, added.keeps.trans keeps⟩

end Workspace

/-! ### Answers -/

namespace Session

variable {session : Session σ ρ} {reference : TaskReference} {tasks after : BuildTasks}
  {delegate : Delegate}

/-- The answers to a reference, and when each is given.  The name of a delegate that is made is
never refused. -/
theorem resolve_answers (sound : session.Sound) (keyed : tasks.Keyed) (reference : TaskReference) :
    let target := reference.build
    let registered := ∃ ref, session.registry.find? target = some ref
    let taken := ∃ result, Task.action target.text result ∈ tasks.toList
    let answer := (session.resolve BuildTasks.container reference tasks).value.1
    (answer = .error (.unknownBuild target) ↔ ¬registered) ∧
    (answer = .error (.nameCollision target.text) ↔ registered ∧ taken) ∧
    ((∃ granted, answer = .ok granted) ↔ registered ∧ ¬taken) ∧
    ∀ name, answer ≠ .error (.duplicateTask name) := by
  intro target registered taken answer
  have bound : registered ↔ ∃ ref build, session.find? target = some (ref, build) := by
    refine exists_congr fun ref => ⟨fun found => ?_, fun ⟨build, found⟩ => ?_⟩
    · obtain ⟨build, present, -⟩ := sound.bound target ref found
      exact ⟨build, Session.find?_eq_some_iff.mpr ⟨found, present⟩⟩
    · exact (Session.find?_eq_some_iff.mp found).1
  have listed : taken ↔ ∃ result, tasks.find? target.text = some (.action target.text result) :=
    exists_congr fun result => keyed.mem_toList_iff
  have resolves : session.Resolves reference tasks answer _ :=
    session.resolve_resolves reference tasks
  generalize answer = answer, (session.resolve BuildTasks.container reference tasks).value.2 = next
    at resolves ⊢
  cases resolves with
  | unknown absent =>
    have missing : ¬registered := by simp [bound, target, absent]
    simp [missing, target]
  | shared found known =>
    have here : registered := bound.mpr ⟨_, _, found⟩
    have free : ¬taken := by simp [listed, target, known]
    simp [here, free]
  | @collision ref build name result found known =>
    have here : registered := bound.mpr ⟨_, _, found⟩
    obtain rfl : name = target.text := keyed _ _ known
    have there : taken := listed.mpr ⟨result, known⟩
    simp [here, there]
  | made found unused =>
    have here : registered := bound.mpr ⟨_, _, found⟩
    have free : ¬taken := by simp [listed, target, unused]
    simp [here, free]

/-- A reference that is resolved gives the delegate that is found under the name of the build
afterwards, and it is the one that was found before, if there was one. -/
theorem resolve_ok (keyed : tasks.Keyed)
    (answer : (session.resolve BuildTasks.container reference tasks).value.1 =
      .ok (delegate, after)) :
    delegate.build = reference.build ∧
    after.find? reference.build.text = some (.delegate delegate) ∧
    ∀ known, tasks.find? reference.build.text = some (.delegate known) → known = delegate := by
  have resolves := session.resolve_resolves reference tasks
  rw [answer] at resolves
  generalize (session.resolve BuildTasks.container reference tasks).value.2 = next at resolves
  cases resolves with
  | shared found known => exact ⟨keyed.build_eq known, known, fun other here => by simp_all⟩
  | made found free =>
    exact ⟨rfl, by rw [BuildTasks.find?_extend]; exact if_pos rfl, fun other here => by simp_all⟩

end Session

namespace Workspace

variable {workspace : Workspace σ ρ} {consumer : Nat} {tasks after : BuildTasks}
  {reference : TaskReference} {delegate : Delegate}

/-- A reference that is not resolved changes no tasks. -/
theorem taskSets_step_of_refused {error : ResolveError}
    (found : workspace.taskSets[consumer]? = some tasks)
    (refused : (workspace.session.resolve BuildTasks.container reference tasks).value.1 =
      .error error) :
    (workspace.step (.resolve consumer reference)).taskSets = workspace.taskSets := by
  refine modify_eq_self fun other there => ?_
  obtain rfl : tasks = other := by simpa [found] using there
  rw [refused]

/-- A reference that is resolved changes the tasks of its consuming build only. -/
theorem taskSets_step_of_resolved (found : workspace.taskSets[consumer]? = some tasks)
    (resolved : (workspace.session.resolve BuildTasks.container reference tasks).value.1 =
      .ok (delegate, after)) :
    (workspace.step (.resolve consumer reference)).taskSets =
      workspace.taskSets.set consumer after := by
  have there : consumer < workspace.taskSets.length := (List.getElem?_eq_some_iff.mp found).1
  refine List.ext_getElem? fun other => ?_
  simp only [step, List.getElem?_modify, List.getElem?_set]
  by_cases same : consumer = other
  · subst same
    simp only [found, there, resolved, if_true, Option.map_eq_map, Option.map_some]
  · simp [same]

/-- A reference to a build whose delegate is there is answered with that delegate, whatever has
happened since. -/
theorem resolution_run_of_known (apart : workspace.Apart)
    (found : workspace.taskSets[consumer]? = some tasks)
    (known : tasks.find? reference.build.text = some (.delegate delegate))
    (operations : List (Operation σ ρ)) {answer : Delegate}
    (resolved : (workspace.run operations).resolution consumer reference =
      some (.ok (answer, after))) :
    answer = delegate := by
  obtain ⟨later, there, keeps⟩ := exists_keeps_run found operations
  have keyed := (apart.run operations).keyed consumer later there
  simp only [resolution, there, Option.map_some, Option.some.injEq] at resolved
  obtain ⟨-, -, same⟩ := Session.resolve_ok keyed resolved
  exact (same delegate (keeps _ _ known)).symm

namespace Apart

variable (apart : workspace.Apart) (found : workspace.taskSets[consumer]? = some tasks)
include apart found

/-- The delegates of a consuming build have different numbers. -/
theorem nodup_numbers : (tasks.delegates.map (·.number)).Nodup := by
  have keyed := apart.keyed consumer tasks found
  refine List.pairwise_map.mpr (keyed.pairwise_delegates.imp_of_mem ?_)
  intro one other here there less same
  obtain ⟨-, rfl⟩ := apart.apart _ _ one other
    ⟨tasks, found, keyed.mem_delegates_iff.mp here⟩
    ⟨tasks, found, keyed.mem_delegates_iff.mp there⟩ same
  exact String.lt_irrefl _ less

/-- The delegates of a consuming build are for different builds. -/
theorem nodup_builds : (tasks.delegates.map (·.build)).Nodup := by
  have keyed := apart.keyed consumer tasks found
  refine List.pairwise_map.mpr (keyed.pairwise_delegates.imp ?_)
  intro one other less same
  rw [Delegate.name, same] at less
  exact String.lt_irrefl _ less

/-- The builds that the delegates of a consuming build are for. -/
theorem mem_builds {target : BuildId} : target ∈ tasks.delegates.map (·.build) ↔
    ∃ delegate, workspace.Holds consumer delegate ∧ delegate.build = target := by
  have keyed := apart.keyed consumer tasks found
  simp only [List.mem_map, keyed.mem_delegates_iff, Holds, found, Option.some.injEq,
    exists_eq_left']

end Apart

/-- The builds that delegates are for are those to which a reference was resolved. -/
theorem mem_builds_run {operations : List (Operation σ ρ)}
    (found : (({} : Workspace σ ρ).run operations).taskSets[consumer]? = some tasks)
    (target : BuildId) :
    target ∈ tasks.delegates.map (·.build) ↔ target ∈ resolvedOf consumer {} operations := by
  rw [(Apart.empty.run operations).mem_builds found, Apart.empty.exists_holds_run]
  refine or_iff_right ?_
  rintro ⟨delegate, ⟨none, absent, -⟩, -⟩
  simp at absent

/-- **References to one build share a delegate.**  Let anything happen to a session, in any order:
references resolved and actions added for any number of consuming builds, builds registered anew,
the configuration ended.

* The tasks of a consuming build, and the delegates among them, are listed in strictly increasing
  name order.  The delegates are one for every build to which a reference was resolved for it, and
  no others.  All tasks stay there, whatever happens next.
* A reference is answered so that its build is unknown if and only if no build of that name is
  registered, that there is a collision if and only if one is and an action has its name, and with a
  delegate otherwise.  The name of a delegate that is made is never refused.
* A reference that is not resolved changes no tasks.  One that is leaves, for that consuming build
  and for no other, exactly one task with the name of the build, which is the delegate; and whenever
  a reference to that build is resolved there again, the answer is that very delegate.
* Different consuming builds have no delegate in common. -/
theorem delegates_are_shared (operations : List (Operation σ ρ)) :
    let workspace := ({} : Workspace σ ρ).run operations
    let session := workspace.session
    (∀ consumer tasks, workspace.taskSets[consumer]? = some tasks →
      (tasks.toList.Pairwise fun one other => one.name < other.name) ∧
      (tasks.delegates.Pairwise fun one other => one.name < other.name) ∧
      (tasks.delegates.map (·.number)).Nodup ∧
      (tasks.delegates.map (·.build)).Nodup ∧
      (∀ target, target ∈ tasks.delegates.map (·.build) ↔
        target ∈ resolvedOf consumer {} operations) ∧
      ∀ more, ∃ later, (workspace.run more).taskSets[consumer]? = some later ∧
        ∀ task ∈ tasks.toList, task ∈ later.toList) ∧
    (∀ consumer tasks reference, workspace.taskSets[consumer]? = some tasks →
      let target := reference.build
      let registered := ∃ ref, session.registry.find? target = some ref
      let taken := ∃ result, Task.action target.text result ∈ tasks.toList
      let answer := (session.resolve BuildTasks.container reference tasks).value.1
      let next := workspace.step (.resolve consumer reference)
      (answer = .error (.unknownBuild target) ↔ ¬registered) ∧
      (answer = .error (.nameCollision target.text) ↔ registered ∧ taken) ∧
      ((∃ granted, answer = .ok granted) ↔ registered ∧ ¬taken) ∧
      (∀ name, answer ≠ .error (.duplicateTask name)) ∧
      (∀ error, answer = .error error → next.taskSets = workspace.taskSets) ∧
      ∀ delegate after, answer = .ok (delegate, after) →
        next.taskSets = workspace.taskSets.set consumer after ∧
        delegate.build = target ∧
        after.toList.filter (·.name = target.text) = [.delegate delegate] ∧
        ∀ more again found latest, again.build = target →
          (next.run more).resolution consumer again = some (.ok (found, latest)) →
          found = delegate) ∧
    ∀ consumer other, consumer ≠ other → ∀ delegate ∈ workspace.delegatesOf consumer,
      ∀ twin ∈ workspace.delegatesOf other, delegate.number ≠ twin.number := by
  intro workspace session
  have apart : workspace.Apart := Apart.empty.run operations
  refine ⟨fun consumer tasks found => ?_, fun consumer tasks reference found => ?_,
    fun consumer other differ delegate mine twin theirs same => ?_⟩
  · have keyed := apart.keyed consumer tasks found
    refine ⟨keyed.pairwise_toList, keyed.pairwise_delegates, apart.nodup_numbers found,
      apart.nodup_builds found, mem_builds_run found, fun more => ?_⟩
    obtain ⟨later, there, keeps⟩ := exists_keeps_run found more
    have still := (apart.run more).keyed consumer later there
    exact ⟨later, there, fun task member =>
      still.mem_toList_iff.mpr (keeps _ _ (keyed.mem_toList_iff.mp member))⟩
  · intro target registered taken answer next
    have keyed := apart.keyed consumer tasks found
    obtain ⟨unknown, collision, granted, never⟩ :=
      Session.resolve_answers (sound_run operations) keyed reference
    refine ⟨unknown, collision, granted, never,
      fun error refused => taskSets_step_of_refused found refused,
      fun delegate after resolved => ?_⟩
    obtain ⟨built, here, -⟩ := Session.resolve_ok keyed resolved
    have changed : next.taskSets = workspace.taskSets.set consumer after :=
      taskSets_step_of_resolved found resolved
    have there : next.taskSets[consumer]? = some after := by
      rw [changed]
      exact List.getElem?_set_self (List.getElem?_eq_some_iff.mp found).1
    have later : next.Apart := apart.step _
    refine ⟨changed, built, (later.keyed consumer after there).filter_name here, ?_⟩
    rintro more again found latest same asked
    exact resolution_run_of_known later there (same ▸ here) more asked
  · exact differ (apart.apart _ _ _ _ (apart.mem_delegatesOf.mp mine)
      (apart.mem_delegatesOf.mp theirs) same).1

/-- Two consuming builds resolve references to `lib`, which is registered anew between them, and one
of them has an action of the name `tools`. -/
def consumed : List (Operation (ScriptedLaunchers Unit) (ScriptedRun Unit)) :=
  let lib : BuildId := ⟨"lib"⟩
  let tools : BuildId := ⟨"tools"⟩
  let wrap : TaskPath := { text := ":wrap", qualified := by decide }
  let probe : TaskPath := { text := ":probe", qualified := by decide }
  [.includeBuild lib "/lib" ScriptedLaunchers.factory (.ofProject "lib" []),
    .includeBuild tools "/tools" ScriptedLaunchers.factory (.ofProject "tools" []),
    .consume ⟨"site"⟩, .consume ⟨"shop"⟩, .addAction 0 "tools" (.ok ()),
    .resolve 0 ⟨lib, wrap⟩, .resolve 0 ⟨tools, wrap⟩, .resolve 1 ⟨tools, wrap⟩,
    .includeBuild lib "/next" ScriptedLaunchers.factory (.ofProject "lib" []),
    .resolve 1 ⟨lib, wrap⟩, .resolve 0 ⟨⟨"docs"⟩, wrap⟩, .beginExecution, .resolve 0 ⟨lib, probe⟩]

/-- Each of them has its own delegate for `lib`, which was shared by its references to either build
of that name, and the action of the first one still collides. -/
theorem delegates_are_shared_consumed :
    let workspace := ({} : Workspace _ _).run consumed
    let again : TaskReference := ⟨⟨"tools"⟩, { text := ":probe", qualified := by decide }⟩
    (workspace.taskSets.map fun tasks => tasks.delegates.map fun delegate =>
      (delegate.number, delegate.name)) = [[(0, "lib")], [(2, "lib"), (1, "tools")]] ∧
    (∃ site, workspace.taskSets[0]? = some site ∧
      (∀ target, target ∈ site.delegates.map (·.build) ↔ target ∈ resolvedOf 0 {} consumed) ∧
      (workspace.session.resolve BuildTasks.container again site).value.1 =
        .error (.nameCollision "tools")) ∧
    ∀ delegate ∈ workspace.delegatesOf 0, ∀ twin ∈ workspace.delegatesOf 1,
      delegate.number ≠ twin.number := by
  intro workspace again
  obtain ⟨listed, answers, distinct⟩ := delegates_are_shared consumed
  obtain ⟨site, there⟩ : ∃ site, workspace.taskSets[0]? = some site :=
    Option.isSome_iff_exists.mp (by cbv)
  obtain ⟨-, -, -, -, builds, -⟩ := listed 0 site there
  obtain ⟨-, collision, -⟩ := answers 0 site again there
  have tasks : (workspace.taskSets[0]?).map BuildTasks.toList =
      some [.delegate ⟨0, ⟨"lib"⟩⟩, .action "tools" (.ok ())] := by cbv
  rw [there, Option.map_some, Option.some.injEq] at tasks
  refine ⟨by cbv, ⟨site, there, builds, collision.mpr ⟨⟨1, by cbv⟩, ⟨.ok (), ?_⟩⟩⟩,
    distinct 0 1 (by decide)⟩
  rw [tasks]
  exact List.mem_cons_of_mem _ (List.mem_cons_self ..)

end Workspace

end CompositeBuild
