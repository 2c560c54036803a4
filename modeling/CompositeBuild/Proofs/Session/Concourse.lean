import CompositeBuild.Proofs.Await.Endings
import CompositeBuild.Proofs.Session.Stacks
import Mathlib.Data.List.Permutation

/-!
# The builds of a session and their callers

A `Concourse` is a session of which every build comes with its callers and with what happened to it
(`Chronicle`).  In one `Turn` the session is asked for something, a reference is resolved, a
delegate is executed, or something happens to one build.  Turns may come in any order, from any
thread, and nothing is asked of the code that runs: it may await whatever it likes.

A turn lets at most one action happen to at most one build (`Concourse.action?`), so the chronicle
of a build is a run of the actions that were its own (`Concourse.chronicle_run`), and what is known
of single builds holds of every build of a concourse.  Seen without the callers, a turn is what the
session does when it is asked (`Concourse.session_request`, `Concourse.session_resolve`), and the
session stays in order (`Concourse.sound_run`).

The module ends with the requests that are refused: they change nothing, of the whole concourse
(`Concourse.refusals_change_nothing`).
-/

namespace CompositeBuild

variable {σ ρ τ : Type}

/-- Every build that was ever made, with its callers, and the registry. -/
structure Concourse (σ ρ : Type) where
  /-- The builds in the order in which they were made, so that references are places. -/
  chronicles : List (Chronicle σ ρ) := []
  registry : Registry := {}
  /-- The number of delegates made so far. -/
  delegates : Nat := 0

/-- Something that can happen to a concourse. -/
inductive Turn (σ ρ : Type) where
  /-- The session is asked for something. -/
  | request (request : Request σ ρ)
  /-- A reference is resolved for a consuming build, which may need a new delegate for it. -/
  | resolve (reference : TaskReference) (made : Bool)
  /-- A delegate is executed. -/
  | execute (delegate : Delegate)
  /-- Something happens to a build. -/
  | act (ref : BuildRef) (action : Action σ)

/-- What a session lets happen to a build that is asked for something else: paths are queued, or a
call begins. -/
def Action.isRoutine : Action σ → Bool
  | .enter | .beside (.queue _) => true
  | _ => false

namespace Concourse

variable (concourse : Concourse σ ρ)

/-- The session, without the callers of its builds. -/
def session : Session σ ρ where
  builds := concourse.chronicles.map (·.callers.build)
  registry := concourse.registry
  delegates := concourse.delegates

/-- The build that a name stands for. -/
def lookup (name : BuildId) : Option BuildRef := (concourse.session.find? name).map (·.1)

/-- The build to which a turn lets something happen, and what. -/
def action? : Turn σ ρ → Option (BuildRef × Action σ)
  | .request (.addTask source reference) =>
    match (concourse.session.addTask source reference).value.1 with
    | .ok () => (concourse.lookup reference.build).map (·, .beside (.queue [reference.path]))
    | .error _ => none
  | .request _ => none
  | .resolve reference _ =>
    (concourse.lookup reference.build).map (·, .beside (.queue [reference.path]))
  | .execute delegate => (concourse.lookup delegate.build).map (·, .enter)
  | .act ref action => some (ref, action)

/-- The build that a turn makes. -/
def made? : Turn σ ρ → Option (Chronicle σ ρ)
  | .request (.make name projectDir factory launchers) =>
    some (.start name projectDir factory launchers)
  | _ => none

/-- Let something happen to a build, if there is one. -/
def act (ref : BuildRef) (action : Action σ) : Concourse σ ρ :=
  match concourse.chronicles[ref]? with
  | some chronicle =>
    { concourse with chronicles := concourse.chronicles.set ref (chronicle.step action) }
  | none => concourse

/-- Let one turn happen. -/
def step (turn : Turn σ ρ) : Concourse σ ρ where
  chronicles :=
    let moved := match concourse.action? turn with
      | some (ref, action) => (concourse.act ref action).chronicles
      | none => concourse.chronicles
    moved ++ (made? turn).toList
  registry := match turn with
    | .request request => (concourse.session.serve request).registry
    | _ => concourse.registry
  delegates := match turn with
    | .resolve reference made =>
      concourse.delegates + (made && (concourse.lookup reference.build).isSome).toNat
    | _ => concourse.delegates

/-- Let turns happen one after the other. -/
def run (turns : List (Turn σ ρ)) : Concourse σ ρ := turns.foldl step concourse

/-- What a turn lets happen to a build. -/
def actionsAt (ref : BuildRef) (turn : Turn σ ρ) : List (Action σ) :=
  match concourse.action? turn with
  | some (other, action) => if other = ref then [action] else []
  | none => []

/-- What turns let happen to a build, one after the other. -/
def actionsOf (ref : BuildRef) : Concourse σ ρ → List (Turn σ ρ) → List (Action σ)
  | _, [] => []
  | concourse, turn :: turns =>
    concourse.actionsAt ref turn ++ actionsOf ref (concourse.step turn) turns

end Concourse

/-- A name is found with the build that it is bound to. -/
theorem Session.find?_eq_some_iff {session : Session σ ρ} {name : BuildId} {ref : BuildRef}
    {build : IncludedBuild σ ρ} :
    session.find? name = some (ref, build) ↔
      session.registry.find? name = some ref ∧ session.build? ref = some build := by
  simp only [Session.find?, Option.bind_eq_bind, Option.bind_eq_some_iff, Option.pure_def,
    Option.some.injEq, Prod.mk.injEq]
  constructor
  · rintro ⟨_, bound, _, found, rfl, rfl⟩
    exact ⟨bound, found⟩
  · rintro ⟨bound, found⟩
    exact ⟨ref, bound, build, found, rfl, rfl⟩

namespace Concourse

variable {concourse : Concourse σ ρ} {ref : BuildRef} {chronicle : Chronicle σ ρ}

/-! ### Every build for itself -/

/-- An action changes the build that it is for. -/
theorem getElem?_act (found : concourse.chronicles[ref]? = some chronicle) (other : BuildRef)
    (action : Action σ) :
    (concourse.act other action).chronicles[ref]? =
      some (if other = ref then chronicle.step action else chronicle) := by
  by_cases own : other = ref
  · subst own
    have inside : other < concourse.chronicles.length := (List.getElem?_eq_some_iff.mp found).1
    simp only [act, found, if_true]
    exact List.getElem?_set_self inside
  · unfold act
    split
    · rw [List.getElem?_set_ne own, found, if_neg own]
    · rw [found, if_neg own]

/-- An action makes no build. -/
theorem length_act (concourse : Concourse σ ρ) (ref : BuildRef) (action : Action σ) :
    (concourse.act ref action).chronicles.length = concourse.chronicles.length := by
  unfold act
  split
  · exact List.length_set
  · rfl

/-- A build that a turn makes is new. -/
theorem started_of_made {turn : Turn σ ρ} (made : made? turn = some chronicle) :
    ∃ name projectDir factory launchers,
      chronicle = .start name projectDir factory launchers := by
  cases turn with
  | request request =>
    cases request with
    | make name projectDir factory launchers =>
      exact ⟨name, projectDir, factory, launchers, (Option.some.inj made).symm⟩
    | _ => simp [made?] at made
  | _ => simp [made?] at made

/-- A build that is there after a turn, but was not before, is the one that the turn makes. -/
theorem made_of_absent {turn : Turn σ ρ} (absent : concourse.chronicles[ref]? = none)
    (found : (concourse.step turn).chronicles[ref]? = some chronicle) :
    made? turn = some chronicle := by
  have unmoved : (match concourse.action? turn with
      | some (other, action) => (concourse.act other action).chronicles
      | none => concourse.chronicles).length = concourse.chronicles.length := by
    split
    · exact concourse.length_act _ _
    · rfl
  have beyond : concourse.chronicles.length ≤ ref := List.getElem?_eq_none_iff.mp absent
  unfold step at found
  rw [List.getElem?_append_right (unmoved ▸ beyond)] at found
  exact Option.mem_toList.mp (List.mem_of_getElem? found)

/-- A turn lets happen to a build what is meant for it. -/
theorem chronicle_step (found : concourse.chronicles[ref]? = some chronicle) (turn : Turn σ ρ) :
    (concourse.step turn).chronicles[ref]? =
      some (chronicle.run (concourse.actionsAt ref turn)) := by
  have moved : (match concourse.action? turn with
      | some (other, action) => (concourse.act other action).chronicles
      | none => concourse.chronicles)[ref]? =
        some (chronicle.run (concourse.actionsAt ref turn)) := by
    unfold actionsAt
    split
    · next other action _ =>
      rw [getElem?_act found other action]
      split <;> rfl
    · exact found
  rw [← moved]
  exact List.getElem?_append_left (List.getElem?_eq_some_iff.mp moved).1

/-- Turns let happen to a build what is meant for it, and nothing else. -/
theorem chronicle_run (found : concourse.chronicles[ref]? = some chronicle)
    (turns : List (Turn σ ρ)) :
    (concourse.run turns).chronicles[ref]? =
      some (chronicle.run (actionsOf ref concourse turns)) := by
  induction turns generalizing concourse chronicle with
  | nil => exact found
  | cons turn turns ih =>
    have later := ih (chronicle_step found turn)
    rw [actionsOf, Chronicle.run, List.foldl_append]
    exact later

/-- What is not a turn for a build only queues paths there, or begins a call. -/
theorem eq_act_or_isRoutine {turn : Turn σ ρ} {action : Action σ}
    (acts : concourse.action? turn = some (ref, action)) :
    turn = .act ref action ∨ action.isRoutine = true := by
  have other {found : Option BuildRef} {made : Action σ} (routine : made.isRoutine = true)
      (same : found.map (·, made) = some (ref, action)) : action.isRoutine = true := by
    obtain ⟨place, -, pair⟩ := Option.map_eq_some_iff.mp same
    obtain ⟨-, rfl⟩ := Prod.mk.inj pair
    exact routine
  cases turn with
  | act place made =>
    obtain ⟨rfl, rfl⟩ : place = ref ∧ made = action := by simpa [action?] using acts
    exact .inl rfl
  | resolve reference made => exact .inr (other rfl acts)
  | execute delegate => exact .inr (other rfl acts)
  | request request =>
    cases request with
    | addTask source reference =>
      simp only [action?] at acts
      split at acts
      · exact .inr (other rfl acts)
      · simp at acts
    | _ => simp [action?] at acts

/-- What happens to a build happens in a turn for it, or is routine. -/
theorem mem_actionsOf {turns : List (Turn σ ρ)} {action : Action σ}
    (member : action ∈ actionsOf ref concourse turns) :
    .act ref action ∈ turns ∨ action.isRoutine = true := by
  induction turns generalizing concourse with
  | nil => simp [actionsOf] at member
  | cons turn turns ih =>
    rcases List.mem_append.mp member with first | later
    · unfold actionsAt at first
      split at first
      · next other made acts =>
        split at first
        · next own =>
          obtain rfl : action = made := by simpa using first
          refine (eq_act_or_isRoutine (own ▸ acts)).imp_left fun same => ?_
          exact List.mem_cons.mpr (.inl same.symm)
        · simp at first
      · simp at first
    · exact (ih later).imp_left (List.mem_cons_of_mem turn)

/-- A call is aborted in a turn for its build. -/
theorem mem_actionsOf_of_isAbort {turns : List (Turn σ ρ)} {action : Action σ}
    (aborts : action.isAbort = true) (member : action ∈ actionsOf ref concourse turns) :
    .act ref action ∈ turns := by
  refine (mem_actionsOf member).resolve_right fun routine => ?_
  cases action with
  | abort caller message => simp [Action.isRoutine] at routine
  | _ => simp [Action.isAbort] at aborts

/-- Every build has become what it is by the actions that were its own. -/
theorem chronicle_origin {turns : List (Turn σ ρ)}
    (found : (({} : Concourse σ ρ).run turns).chronicles[ref]? = some chronicle) :
    ∃ name projectDir factory launchers actions,
      chronicle = (Chronicle.start name projectDir factory launchers).run actions ∧
      ∀ action ∈ actions, action.isAbort = true → .act ref action ∈ turns := by
  induction turns using List.reverseRecOn generalizing chronicle with
  | nil => simp [run] at found
  | append_singleton turns turn ih =>
    have last : ({} : Concourse σ ρ).run (turns ++ [turn]) =
        (({} : Concourse σ ρ).run turns).step turn := by simp [run]
    rw [last] at found
    generalize reached : ({} : Concourse σ ρ).run turns = concourse at found ih
    cases before : concourse.chronicles[ref]? with
    | some earlier =>
      obtain ⟨name, projectDir, factory, launchers, actions, rfl, aborts⟩ := ih before
      obtain rfl : _ = chronicle := by simpa [chronicle_step before] using found
      refine ⟨name, projectDir, factory, launchers, actions ++ concourse.actionsAt ref turn,
        by simp [Chronicle.run], fun action member abort => ?_⟩
      rw [List.mem_append] at member ⊢
      refine member.imp (aborts action · abort) fun now => ?_
      have whole : action ∈ actionsOf ref concourse [turn] := by simpa [actionsOf] using now
      exact mem_actionsOf_of_isAbort abort whole
    | none =>
      obtain ⟨name, projectDir, factory, launchers, rfl⟩ :=
        started_of_made (made_of_absent before found)
      exact ⟨name, projectDir, factory, launchers, [], rfl, by simp⟩

/-! ### The session of a concourse -/

/-- A build of the session is that of a chronicle. -/
theorem build?_session (concourse : Concourse σ ρ) (ref : BuildRef) :
    concourse.session.build? ref = (concourse.chronicles[ref]?).map (·.callers.build) :=
  List.getElem?_map

/-- Every build of the session has a chronicle. -/
theorem exists_chronicle {build : IncludedBuild σ ρ}
    (found : concourse.session.build? ref = some build) :
    ∃ chronicle, concourse.chronicles[ref]? = some chronicle ∧ chronicle.callers.build = build := by
  rw [build?_session] at found
  exact Option.map_eq_some_iff.mp found

/-- An action changes one build of the session. -/
theorem session_act (found : concourse.chronicles[ref]? = some chronicle) (action : Action σ) :
    (concourse.act ref action).session =
      concourse.session.setBuild ref (chronicle.callers.step action).build := by
  simp only [act, found, session, Session.setBuild, List.map_set]
  rfl

/-- An action leaves the session in order. -/
theorem sound_act (sound : concourse.session.Sound) (ref : BuildRef) (action : Action σ) :
    (concourse.act ref action).session.Sound := by
  cases found : concourse.chronicles[ref]? with
  | none => simpa only [act, found] using sound
  | some chronicle =>
    rw [session_act found]
    refine sound.setBuild ?_ (chronicle.callers.step_name action)
    rw [build?_session, found]
    rfl

/-- A turn that makes no build and lets nothing happen to any changes at most the registry and the
number of delegates. -/
theorem session_step_idle {turn : Turn σ ρ} (acts : concourse.action? turn = none)
    (made : made? turn = none) :
    (concourse.step turn).session =
      { concourse.session with
        registry := (concourse.step turn).registry
        delegates := (concourse.step turn).delegates } := by
  simp only [session, step, acts, made, Option.toList_none, List.append_nil]

/-- A turn that lets something happen to a build changes the registry and the number of delegates
otherwise. -/
theorem session_step_act {turn : Turn σ ρ} {action : Action σ}
    (acts : concourse.action? turn = some (ref, action)) (made : made? turn = none) :
    (concourse.step turn).session =
      { (concourse.act ref action).session with
        registry := (concourse.step turn).registry
        delegates := (concourse.step turn).delegates } := by
  simp only [session, step, acts, made, Option.toList_none, List.append_nil]

/-- Names stand for builds of the concourse. -/
theorem lookup_eq {name : BuildId} {build : IncludedBuild σ ρ}
    (bound : concourse.registry.find? name = some ref)
    (found : concourse.session.build? ref = some build) : concourse.lookup name = some ref := by
  rw [lookup, Session.find?_eq_some_iff.mpr ⟨bound, found⟩]
  rfl

/-- **A request does to the session what the session does when it is asked.** -/
theorem session_request (sound : concourse.session.Sound) (request : Request σ ρ) :
    (concourse.step (.request request)).session = concourse.session.serve request := by
  cases request with
  | make name projectDir factory launchers =>
    simp [session, step, action?, made?, Session.serve, Session.addBuild, Chronicle.start,
      Callers.start]
  | register ref =>
    rw [session_step_idle rfl rfl]
    simp only [step, Session.serve]
    split
    · next build found =>
      rcases concourse.session.register_cases ref build with same | bound
      · rw [same]
        rfl
      · rw [bound]
        rfl
    · rfl
  | close =>
    rw [session_step_idle rfl rfl]
    simp only [step, Session.serve, Session.close_value]
    rfl
  | addTask source reference =>
    have refused {error : RegistryError}
        (answer : (concourse.session.addTask source reference).value =
          (.error error, concourse.session)) :
        (concourse.step (.request (.addTask source reference))).session =
          concourse.session.serve (.addTask source reference) := by
      rw [session_step_idle (by simp only [action?, answer]) rfl]
      simp only [step, Session.serve, answer]
      rfl
    rcases Session.addTask_cases sound source reference with
      ⟨-, answer⟩ | ⟨-, -, answer⟩ | ⟨-, -, -, chain, answer⟩ |
        ⟨-, -, ref, build, bound, found, answer⟩
    · exact refused answer
    · exact refused answer
    · exact refused answer
    · have acts : concourse.action? (.request (.addTask source reference)) =
          some (ref, .beside (.queue [reference.path])) := by
        simp only [action?, answer, lookup_eq bound found, Option.map_some]
      obtain ⟨chronicle, there, rfl⟩ := exists_chronicle found
      rw [session_step_act acts rfl, session_act there]
      simp only [step, Session.serve, answer]
      rfl

/-- **Resolving a reference is a turn**: what the session does then depends on the consuming build
only in whether a delegate has to be made. -/
theorem session_resolve (concourse : Concourse σ ρ) (container : TaskContainer τ)
    (reference : TaskReference) (tasks : τ) :
    let made := !(container.find? tasks reference.build.text).isSome
    (concourse.step (.resolve reference made)).session =
      (concourse.session.resolve container reference tasks).value.2 := by
  intro made
  cases found : concourse.session.find? reference.build with
  | none =>
    have absent : concourse.lookup reference.build = none := by simp [lookup, found]
    rw [session_step_idle (by simp only [action?, absent, Option.map_none]) rfl]
    simp only [step, Session.resolve, found, absent, Option.isSome_none, Bool.and_false]
    rfl
  | some entry =>
    obtain ⟨ref, build⟩ := entry
    have bound : concourse.lookup reference.build = some ref := by simp [lookup, found]
    have acts : concourse.action? (.resolve reference made) =
        some (ref, .beside (.queue [reference.path])) := by
      simp only [action?, bound, Option.map_some]
    obtain ⟨-, present⟩ := Session.find?_eq_some_iff.mp found
    obtain ⟨chronicle, there, rfl⟩ := exists_chronicle present
    have queued : (concourse.step (.resolve reference made)).session =
        { concourse.session.setBuild ref (chronicle.callers.build.queue [reference.path]).value with
          delegates := concourse.delegates + made.toNat } := by
      rw [session_step_act acts rfl, session_act there]
      simp only [step, bound, Option.isSome_some, Bool.and_true]
      rfl
    rw [queued]
    cases known : container.find? tasks reference.build.text with
    | some task => cases task <;> simp [Session.resolve, found, known, made] <;> rfl
    | none =>
      simp only [Session.resolve, found, known, made, Option.isSome_none, Logged.bind_value]
      split <;> rfl

/-- A delegate that finds its build begins a call of await on it. -/
theorem action?_execute {delegate : Delegate} :
    concourse.action? (.execute delegate) = some (ref, .enter) ↔
      (concourse.session.startDelegate delegate).value = .ok ref := by
  simp only [action?, lookup, Session.startDelegate]
  cases found : concourse.session.find? delegate.build with
  | none => simp
  | some entry => simp

/-- Every turn leaves the session in order. -/
theorem sound_step (sound : concourse.session.Sound) (turn : Turn σ ρ) :
    (concourse.step turn).session.Sound := by
  have moves {turn : Turn σ ρ} (made : made? turn = none)
      (same : (concourse.step turn).registry = concourse.registry) :
      (concourse.step turn).session.Sound := by
    cases acts : concourse.action? turn with
    | none =>
      rw [session_step_idle acts made, same]
      exact ⟨sound.tidy, sound.acyclic, sound.bound⟩
    | some entry =>
      obtain ⟨ref, action⟩ := entry
      have acted := sound_act sound ref action
      have kept : (concourse.act ref action).session.registry = concourse.registry := by
        simp only [act, session]
        split <;> rfl
      rw [session_step_act acts made, same, ← kept]
      exact ⟨acted.tidy, acted.acyclic, acted.bound⟩
  cases turn with
  | request request =>
    rw [session_request sound]
    exact sound.serve request
  | _ => exact moves rfl rfl

/-- The session of a concourse is in order, whatever has happened. -/
theorem sound_run (turns : List (Turn σ ρ)) :
    (({} : Concourse σ ρ).run turns).session.Sound :=
  turns.foldlRecOn step (motive := fun concourse => concourse.session.Sound) .empty
    fun _ sound turn _ => sound_step sound turn

end Concourse

/-! ### Refusals -/

/-- A refused request for a task leaves the session as it is. -/
theorem Session.addTask_of_refused {session : Session σ ρ} (sound : session.Sound)
    {source : BuildId} {reference : TaskReference} {error : RegistryError}
    (refused : (session.addTask source reference).value.1 = .error error) :
    (session.addTask source reference).value.2 = session := by
  rcases Session.addTask_cases sound source reference with
    ⟨-, answer⟩ | ⟨-, -, answer⟩ | ⟨-, -, -, chain, answer⟩ | ⟨-, -, _, _, -, -, answer⟩
  · exact congrArg Prod.snd answer
  · exact congrArg Prod.snd answer
  · exact congrArg Prod.snd answer
  · rw [answer] at refused
    simp at refused

/-- A refused registration leaves the session as it is. -/
theorem Session.register_of_refused {session : Session σ ρ} {ref : BuildRef}
    {build : IncludedBuild σ ρ} {error : RegistryError}
    (refused : (session.register ref build).value.1 = .error error) :
    (session.register ref build).value.2 = session := by
  unfold Session.register at refused ⊢
  cases answer : session.registry.register build.name ref with
  | error reason => rfl
  | ok registry =>
    simp only [answer] at refused
    split at refused <;> simp at refused

namespace Concourse

variable {concourse : Concourse σ ρ}

/-- A request that leaves the session as it is, and lets nothing happen to any build, changes
nothing. -/
theorem step_request_self {request : Request σ ρ}
    (served : concourse.session.serve request = concourse.session)
    (acts : concourse.action? (.request request) = none) (made : made? (.request request) = none) :
    concourse.step (.request request) = concourse := by
  simp only [step, acts, made, served, Option.toList_none, List.append_nil]
  rfl

/-- **Refused requests change nothing.**  Whatever has happened to a session and its builds, a
request for a task that is refused, because the configuration is over, the target is not registered
or the edge would close a cycle, leaves everything as it was: the dependencies with their order, the
registered builds, the phase, and the queue, the executed paths and the sweep of every build.  So
does a registration that is refused.

Withdrawing an edge that has just been added restores the dependencies exactly, whatever other
targets its source has; and an edge that was there before closes no cycle, so it is never
withdrawn. -/
theorem refusals_change_nothing (turns : List (Turn σ ρ)) :
    let concourse := ({} : Concourse σ ρ).run turns
    let session := concourse.session
    let dependencies := session.registry.dependencies
    (∀ source reference error,
      (session.addTask source reference).value.1 = .error error →
      (session.addTask source reference).value.2 = session ∧
      concourse.step (.request (.addTask source reference)) = concourse) ∧
    (∀ ref build error, session.build? ref = some build →
      (session.register ref build).value.1 = .error error →
      (session.register ref build).value.2 = session ∧
      concourse.step (.request (.register ref)) = concourse) ∧
    ∀ source target,
      (¬dependencies.HasEdge source target →
        (dependencies.add source target).remove source target = dependencies) ∧
      (dependencies.HasEdge source target →
        dependencies.add source target = dependencies ∧
        dependencies.findCycle source target = none) := by
  intro concourse session dependencies
  have sound : session.Sound := sound_run turns
  refine ⟨fun source reference error refused => ?_, fun ref build error found refused => ?_,
    fun source target => ⟨sound.tidy.remove_add, fun edge => ?_⟩⟩
  · have unchanged := Session.addTask_of_refused sound refused
    refine ⟨unchanged, step_request_self unchanged ?_ rfl⟩
    have refused : (concourse.session.addTask source reference).value.1 = .error error := refused
    simp only [action?, refused]
  · have unchanged := Session.register_of_refused refused
    refine ⟨unchanged, step_request_self ?_ rfl rfl⟩
    have found : concourse.session.build? ref = some build := found
    simp only [Session.serve, found]
    exact unchanged
  · have same : dependencies.add source target = dependencies := if_pos edge
    refine ⟨same, ?_⟩
    rw [Dependencies.findCycle_eq_none_iff]
    exact sound.acyclic.unreachable_of_hasEdge edge

/-- Three builds, of which `app` depends on `lib` and `lib` on `tools`. -/
def layered : List (Turn (ScriptedLaunchers Unit) (ScriptedRun Unit)) :=
  let app : BuildId := ⟨"app"⟩
  let lib : BuildId := ⟨"lib"⟩
  let tools : BuildId := ⟨"tools"⟩
  let generate : TaskPath := { text := ":generate", qualified := by decide }
  [.request (.make app "/app" ScriptedLaunchers.factory (.ofProject "app" [])),
    .request (.register 0),
    .request (.make lib "/lib" ScriptedLaunchers.factory (.ofProject "lib" [])),
    .request (.register 1),
    .request (.make tools "/tools" ScriptedLaunchers.factory (.ofProject "tools" [])),
    .request (.register 2),
    .request (.addTask lib ⟨tools, generate⟩), .request (.addTask app ⟨lib, generate⟩)]

/-- A request of `lib` for a task of `app` is refused, and `lib` still depends on `tools`. -/
theorem refusals_change_nothing_layered :
    let bundle : TaskPath := { text := ":bundle", qualified := by decide }
    let concourse := ({} : Concourse _ _).run layered
    let session := concourse.session
    (session.addTask ⟨"lib"⟩ ⟨⟨"app"⟩, bundle⟩).value.1 = .error (.cycle [⟨"app"⟩, ⟨"lib"⟩]) ∧
    session.registry.dependencies.targets ⟨"lib"⟩ = [⟨"tools"⟩] ∧
    concourse.step (.request (.addTask ⟨"lib"⟩ ⟨⟨"app"⟩, bundle⟩)) = concourse := by
  intro bundle concourse session
  have refused : (session.addTask ⟨"lib"⟩ ⟨⟨"app"⟩, bundle⟩).value.1 =
      .error (.cycle [⟨"app"⟩, ⟨"lib"⟩]) := by cbv
  obtain ⟨tasks, -, -⟩ := refusals_change_nothing layered
  exact ⟨refused, by cbv, (tasks _ _ _ refused).2⟩

end Concourse

end CompositeBuild
