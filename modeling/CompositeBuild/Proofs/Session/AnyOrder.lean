import CompositeBuild.Proofs.Session.Workspace

/-!
# Tasks in any order

Tasks of registered builds are asked for one after the other (`Session.addTasks`).  Each answer
depends on the dependencies that were recorded before, and these on the order of the requests.  Yet
whether all tasks are granted does not.

Together with what is recorded already, the tasks ask for certain dependencies
(`Session.edgesWith`).  If these have no cycle, no part of them has one, so every task is granted in
its turn (`Session.grantsAll_of_acyclic`).  Conversely, if every task is granted, all of these
dependencies are recorded in the end (`Session.GrantsAll.granted`), and recorded dependencies never
have a cycle.
-/

namespace CompositeBuild

open Relation (ReflTransGen TransGen)

variable {σ ρ : Type}

namespace Session

variable {session next last : Session σ ρ} {source : BuildId} {reference : TaskReference}
  {asked : List (BuildId × TaskReference)}

/-- Ask for tasks one after the other, each for the build that needs it, whatever the answers
are. -/
def addTasks :
    List (BuildId × TaskReference) → Session σ ρ → List (Except RegistryError Unit) × Session σ ρ
  | [], session => ([], session)
  | (source, reference) :: asked, session =>
    let (answer, next) := (session.addTask source reference).value
    let (answers, last) := addTasks asked next
    (answer :: answers, last)

/-- The tasks are all granted if they are asked for in this order. -/
def GrantsAll (session : Session σ ρ) (asked : List (BuildId × TaskReference)) : Prop :=
  (addTasks asked session).1 = asked.map fun _ => .ok ()

/-- The dependencies that are recorded and those that are asked for. -/
def edgesWith (session : Session σ ρ) (asked : List (BuildId × TaskReference))
    (source target : BuildId) : Prop :=
  session.registry.dependencies.HasEdge source target ∨
    ∃ ask ∈ asked, ask.1 = source ∧ ask.2.build = target

/-- The tasks that are asked for of a build. -/
def wanted (session : Session σ ρ) (asked : List (BuildId × TaskReference)) (ref : BuildRef) :
    List TaskPath :=
  (asked.filter fun ask => session.registry.find? ask.2.build = some ref).map (·.2.path)

/-! ### One task -/

/-- The session is in order, still configured, and knows every build that a task is asked of. -/
structure Ready (session : Session σ ρ) (asked : List (BuildId × TaskReference)) : Prop where
  sound : session.Sound
  opened : session.registry.closed = false
  known : ∀ ask ∈ asked, (session.registry.find? ask.2.build).isSome

/-- From one session to the next a task has been granted: its dependency is recorded, its path is
queued on the build that its name stands for, and names stand for what they stood for. -/
structure Granted (source : BuildId) (reference : TaskReference) (session next : Session σ ρ) :
    Prop where
  edges : ∀ a b, next.registry.dependencies.HasEdge a b ↔
    (a = source ∧ b = reference.build) ∨ session.registry.dependencies.HasEdge a b
  names : ∀ name, next.registry.find? name = session.registry.find? name
  queued : ∀ ref build, session.build? ref = some build → ∃ later, next.build? ref = some later ∧
    later.pending = build.pending ++ session.wanted [(source, reference)] ref

/-- A task of a registered build is refused for a cycle, which changes nothing, or it is granted. -/
theorem Ready.addTask (ready : session.Ready ((source, reference) :: asked)) :
    (ReflTransGen session.registry.dependencies.HasEdge reference.build source ∧
      session.Ready asked ∧
      ∃ chain, (session.addTask source reference).value = (.error (.cycle chain), session)) ∨
    (¬ReflTransGen session.registry.dependencies.HasEdge reference.build source ∧
      ∃ next, (session.addTask source reference).value = (.ok (), next) ∧ next.Ready asked ∧
        Granted source reference session next) := by
  have known := ready.known (source, reference) (List.mem_cons_self ..)
  have later : ∀ ask ∈ asked, (session.registry.find? ask.2.build).isSome :=
    fun ask member => ready.known ask (List.mem_cons_of_mem _ member)
  have served := ready.sound.serve (.addTask source reference)
  rcases addTask_cases ready.sound source reference with
    ⟨closed, -⟩ | ⟨-, absent, -⟩ | ⟨-, reachable, -, chain, answer⟩ |
      ⟨-, unreachable, ref, build, bound, found, answer⟩
  · rw [ready.opened] at closed
    cases closed
  · rw [absent] at known
    cases known
  · exact .inl ⟨reachable, ⟨ready.sound, ready.opened, later⟩, chain, answer⟩
  · refine .inr ⟨unreachable, _, answer, ⟨?_, ready.opened, later⟩, ?_⟩
    · rwa [serve, answer] at served
    · refine ⟨fun a b => Dependencies.hasEdge_add, fun name => rfl, fun other old there => ?_⟩
      have kept : (session.addEdge source reference.build).build? ref = some build := found
      rw [build?_setBuild, kept]
      by_cases same : ref = other
      · subst same
        obtain rfl : build = old := by simpa [found] using there
        refine ⟨_, if_pos rfl, ?_⟩
        simp [wanted, bound, IncludedBuild.pending, IncludedBuild.queue, Schedule.queue]
      · refine ⟨old, by rw [if_neg same]; exact there, ?_⟩
        have elsewhere : session.registry.find? reference.build ≠ some other := by
          rw [bound]
          simpa using same
        simp [wanted, elsewhere]

namespace Granted

variable (granted : Granted source reference session next)
include granted

/-- The dependency of a task that is granted is recorded instead of asked for. -/
theorem edgesWith_eq (asked : List (BuildId × TaskReference)) :
    next.edgesWith asked = session.edgesWith ((source, reference) :: asked) := by
  funext a b
  refine propext ?_
  simp only [edgesWith, granted.edges, List.mem_cons, exists_eq_or_imp]
  rw [or_assoc, or_left_comm, eq_comm, @eq_comm _ b]

/-- What is asked for of a build comes behind the task that is granted. -/
theorem wanted_cons (asked : List (BuildId × TaskReference)) (ref : BuildRef) :
    session.wanted ((source, reference) :: asked) ref =
      session.wanted [(source, reference)] ref ++ next.wanted asked ref := by
  simp only [wanted, granted.names, ← List.map_append, ← List.filter_append, List.singleton_append]

end Granted

/-! ### Many tasks -/

/-- The first task is granted, and then the others are. -/
theorem grantsAll_cons :
    session.GrantsAll ((source, reference) :: asked) ↔
      (session.addTask source reference).value.1 = .ok () ∧
        (session.addTask source reference).value.2.GrantsAll asked := by
  simp [GrantsAll, addTasks]

/-- From one session to the last one all tasks have been granted: their dependencies are recorded,
and their paths are queued, in order, behind what was queued before. -/
structure GrantedAll (asked : List (BuildId × TaskReference)) (session last : Session σ ρ) :
    Prop where
  sound : last.Sound
  edges : ∀ a b, last.registry.dependencies.HasEdge a b ↔ session.edgesWith asked a b
  queued : ∀ ref build, session.build? ref = some build → ∃ later, last.build? ref = some later ∧
    later.pending = build.pending ++ session.wanted asked ref

/-- What comes of tasks that are all granted. -/
theorem GrantsAll.granted (all : session.GrantsAll asked) (ready : session.Ready asked) :
    GrantedAll asked session (addTasks asked session).2 := by
  induction asked generalizing session with
  | nil =>
    refine ⟨ready.sound, fun a b => by simp [edgesWith, addTasks], fun ref build found => ?_⟩
    exact ⟨build, found, by simp [wanted]⟩
  | cons ask asked ih =>
    obtain ⟨source, reference⟩ := ask
    obtain ⟨first, others⟩ := grantsAll_cons.mp all
    rcases ready.addTask with ⟨-, -, chain, answer⟩ | ⟨-, next, answer, readyNext, granted⟩
    · rw [answer] at first
      cases first
    · rw [answer] at others
      have last : (addTasks ((source, reference) :: asked) session).2 =
          (addTasks asked next).2 := by
        simp [addTasks, answer]
      obtain ⟨sound, edges, queued⟩ := ih others readyNext
      rw [last]
      refine ⟨sound, fun a b => by rw [edges, granted.edgesWith_eq], fun ref build found => ?_⟩
      obtain ⟨middle, there, before⟩ := granted.queued ref build found
      obtain ⟨later, still, after⟩ := queued ref middle there
      exact ⟨later, still, by rw [after, before, granted.wanted_cons asked, List.append_assoc]⟩

/-- If the dependencies that are recorded and asked for have no cycle, all tasks are granted. -/
theorem grantsAll_of_acyclic (ready : session.Ready asked)
    (acyclic : ∀ build, ¬TransGen (session.edgesWith asked) build build) :
    session.GrantsAll asked := by
  induction asked generalizing session with
  | nil => rfl
  | cons ask asked ih =>
    obtain ⟨source, reference⟩ := ask
    rcases ready.addTask with ⟨reachable, -⟩ | ⟨-, next, answer, readyNext, granted⟩
    · -- What is reachable already is reachable in the end, and the new dependency closes a cycle.
      have asks : session.edgesWith ((source, reference) :: asked) source reference.build :=
        .inr ⟨_, List.mem_cons_self .., rfl, rfl⟩
      have back : ReflTransGen (session.edgesWith ((source, reference) :: asked))
          reference.build source := ReflTransGen.mono (fun _ _ => .inl) _ _ reachable
      exact absurd (.head' asks back) (acyclic source)
    · rw [grantsAll_cons, answer]
      exact ⟨rfl, ih readyNext (by rwa [granted.edgesWith_eq])⟩

/-- All tasks are granted exactly if the dependencies that are recorded and asked for have no
cycle. -/
theorem grantsAll_iff_acyclic (ready : session.Ready asked) :
    session.GrantsAll asked ↔ ∀ build, ¬TransGen (session.edgesWith asked) build build := by
  refine ⟨fun all => ?_, grantsAll_of_acyclic ready⟩
  obtain ⟨sound, edges, -⟩ := all.granted ready
  have same : (addTasks asked session).2.registry.dependencies.HasEdge = session.edgesWith asked :=
    funext fun a => funext fun b => propext (edges a b)
  exact same ▸ sound.acyclic

/-- If not all tasks are granted, one of them is refused for a cycle. -/
theorem exists_cycle_of_not_grantsAll (ready : session.Ready asked)
    (refused : ¬session.GrantsAll asked) :
    ∃ chain, .error (.cycle chain) ∈ (addTasks asked session).1 := by
  induction asked generalizing session with
  | nil => exact absurd rfl refused
  | cons ask asked ih =>
    obtain ⟨source, reference⟩ := ask
    rcases ready.addTask with ⟨-, -, chain, answer⟩ | ⟨-, next, answer, readyNext, -⟩
    · exact ⟨chain, by simp [addTasks, answer]⟩
    · have others : ¬next.GrantsAll asked := fun all =>
        refused (grantsAll_cons.mpr (by rw [answer]; exact ⟨rfl, all⟩))
      obtain ⟨chain, member⟩ := ih readyNext others
      exact ⟨chain, by simpa [addTasks, answer] using member⟩

/-! ### Another order -/

/-- The order of tasks makes no difference to what they ask for. -/
theorem edgesWith_perm {order : List (BuildId × TaskReference)} (shuffled : order.Perm asked) :
    session.edgesWith order = session.edgesWith asked := by
  funext a b
  simp only [edgesWith, shuffled.mem_iff]

/-- Tasks can be asked for in another order. -/
theorem Ready.perm {order : List (BuildId × TaskReference)} (ready : session.Ready asked)
    (shuffled : order.Perm asked) : session.Ready order :=
  ⟨ready.sound, ready.opened, fun ask member => ready.known ask (shuffled.mem_iff.mp member)⟩

end Session

namespace Workspace

/-- Whatever has happened, the session is ready for tasks of registered builds while it is
configured. -/
theorem ready_run {operations : List (Operation σ ρ)} {asked : List (BuildId × TaskReference)}
    (configuring : (({} : Workspace σ ρ).run operations).session.isConfiguring = true)
    (known : ∀ ask ∈ asked,
      ((({} : Workspace σ ρ).run operations).session.registry.find? ask.2.build).isSome) :
    (({} : Workspace σ ρ).run operations).session.Ready asked where
  sound := sound_run operations
  opened := by simpa [Session.isConfiguring] using configuring
  known := known

/-- **The order of tasks does not decide whether all are granted.**  Whatever has happened to a
session and its builds, let it be configured still, and let any tasks of registered builds be asked
for.

If the dependencies that are recorded and those that are asked for have no cycle together, then in
every order of the tasks all of them are granted; the dependencies recorded in the end are exactly
these; and every build has the tasks that were asked of it queued behind what it had queued before,
in some order.

If they have a cycle, then in every order of the tasks one of them is refused for a cycle.  So all
tasks are granted in one order exactly if they are in any other. -/
theorem order_of_tasks_is_immaterial (operations : List (Operation σ ρ))
    (asked : List (BuildId × TaskReference)) :
    let session := (({} : Workspace σ ρ).run operations).session
    session.isConfiguring = true →
    (∀ ask ∈ asked, (session.registry.find? ask.2.build).isSome) →
    ((∀ build, ¬TransGen (session.edgesWith asked) build build) → ∀ order, order.Perm asked →
      let last := (Session.addTasks order session).2
      (Session.addTasks order session).1 = order.map (fun _ => .ok ()) ∧
      (∀ source target, last.registry.dependencies.HasEdge source target ↔
        session.edgesWith asked source target) ∧
      ∀ ref build, session.build? ref = some build → ∃ later, last.build? ref = some later ∧
        later.pending.Perm (build.pending ++ session.wanted asked ref)) ∧
    ((∃ build, TransGen (session.edgesWith asked) build build) → ∀ order, order.Perm asked →
      ∃ chain, .error (.cycle chain) ∈ (Session.addTasks order session).1) ∧
    ∀ order, order.Perm asked → (session.GrantsAll order ↔ session.GrantsAll asked) := by
  intro session configuring known
  have ready : session.Ready asked := ready_run configuring known
  refine ⟨fun acyclic order shuffled => ?_, fun cyclic order shuffled => ?_,
    fun order shuffled => ?_⟩
  · have readyOrder := ready.perm shuffled
    rw [← Session.edgesWith_perm shuffled] at acyclic ⊢
    have all := Session.grantsAll_of_acyclic readyOrder acyclic
    obtain ⟨-, edges, queued⟩ := all.granted readyOrder
    refine ⟨all, edges, fun ref build found => ?_⟩
    obtain ⟨later, still, behind⟩ := queued ref build found
    refine ⟨later, still, behind ▸ ?_⟩
    exact ((shuffled.filter _).map _).append_left build.pending
  · refine Session.exists_cycle_of_not_grantsAll (ready.perm shuffled) fun all => ?_
    obtain ⟨build, cycle⟩ := cyclic
    rw [← Session.edgesWith_perm shuffled] at cycle
    exact (Session.grantsAll_iff_acyclic (ready.perm shuffled)).mp all build cycle
  · rw [Session.grantsAll_iff_acyclic ready, Session.grantsAll_iff_acyclic (ready.perm shuffled),
      Session.edgesWith_perm shuffled]

/-- Four builds, of which `lib` depends on `base`. -/
def founded : List (Operation (ScriptedLaunchers Unit) (ScriptedRun Unit)) :=
  let included (name : String) : Operation (ScriptedLaunchers Unit) (ScriptedRun Unit) :=
    .includeBuild ⟨name⟩ s!"/{name}" ScriptedLaunchers.factory (.ofProject name [])
  let headers : TaskPath := { text := ":headers", qualified := by decide }
  [included "app", included "lib", included "tools", included "base",
    .request (.addTask ⟨"lib"⟩ ⟨⟨"base"⟩, headers⟩)]

/-- Tasks that make `app` depend on `base` by two ways. -/
def diamond : List (BuildId × TaskReference) :=
  let build : TaskPath := { text := ":build", qualified := by decide }
  [(⟨"app"⟩, ⟨⟨"lib"⟩, build⟩), (⟨"app"⟩, ⟨⟨"tools"⟩, build⟩), (⟨"tools"⟩, ⟨⟨"base"⟩, build⟩)]

/-- The tasks of `diamond` and one more, for which `base` depends on `app`. -/
def closing : List (BuildId × TaskReference) :=
  (⟨"base"⟩, ⟨⟨"app"⟩, { text := ":build", qualified := by decide }⟩) :: diamond

/-- The tasks of `diamond` are granted from the last one to the first as well, which queues the one
of `base` besides what was queued there.  If `base` needs a task of `app`, one of all these tasks is
refused, whichever comes first. -/
theorem order_of_tasks_is_immaterial_diamond :
    let session := (({} : Workspace _ _).run founded).session
    session.isConfiguring = true ∧
    (∀ ask ∈ closing, (session.registry.find? ask.2.build).isSome) ∧
    (Session.addTasks diamond.reverse session).1 = [.ok (), .ok (), .ok ()] ∧
    (∃ base, (Session.addTasks diamond.reverse session).2.build? 3 = some base ∧
      (base.pending.map (·.text)).Perm [":headers", ":build"]) ∧
    ∀ order, order.Perm closing →
      ∃ chain, .error (.cycle chain) ∈ (Session.addTasks order session).1 := by
  intro session
  have configuring : session.isConfiguring = true := by cbv
  have known : ∀ ask ∈ closing, (session.registry.find? ask.2.build).isSome := by
    simp only [closing, diamond, List.forall_mem_cons]
    exact ⟨by cbv, by cbv, by cbv, by cbv, by simp⟩
  have knownDiamond : ∀ ask ∈ diamond, (session.registry.find? ask.2.build).isSome :=
    fun ask member => known ask (List.mem_cons_of_mem _ member)
  have acyclic : ∀ build, ¬TransGen (session.edgesWith diamond) build build := by
    have all : session.GrantsAll diamond := by
      unfold Session.GrantsAll
      cbv
    exact (Session.grantsAll_iff_acyclic (ready_run configuring knownDiamond)).mp all
  -- From `app` to `lib` and from `base` to `app` is asked for, from `lib` to `base` is recorded.
  have cycle : TransGen (session.edgesWith closing) ⟨"app"⟩ ⟨"app"⟩ := by
    have recorded : session.registry.dependencies.HasEdge ⟨"lib"⟩ ⟨"base"⟩ :=
      of_decide_eq_true (by cbv)
    exact .head (.inr ⟨_, List.mem_cons_of_mem _ (List.mem_cons_self ..), rfl, rfl⟩)
      (.head (.inl recorded) (.single (.inr ⟨_, List.mem_cons_self .., rfl, rfl⟩)))
  obtain ⟨granted, -, queued⟩ := (order_of_tasks_is_immaterial founded diamond configuring
    knownDiamond).1 acyclic diamond.reverse (List.reverse_perm diamond)
  have found : (session.build? 3).isSome := by cbv
  obtain ⟨build, there⟩ := Option.isSome_iff_exists.mp found
  obtain ⟨base, still, pending⟩ := queued 3 build there
  refine ⟨configuring, known, granted, ⟨base, still, ?_⟩,
    (order_of_tasks_is_immaterial founded closing configuring known).2.1 ⟨_, cycle⟩⟩
  have before : (session.build? 3).map (·.pending.map (·.text)) = some [":headers"] := by cbv
  have after : (session.wanted diamond 3).map (·.text) = [":build"] := by cbv
  rw [there, Option.map_some, Option.some.injEq] at before
  have texts : (base.pending.map (·.text)).Perm
      ((build.pending ++ session.wanted diamond 3).map (·.text)) := pending.map _
  rwa [List.map_append, before, after] at texts

end Workspace

end CompositeBuild
