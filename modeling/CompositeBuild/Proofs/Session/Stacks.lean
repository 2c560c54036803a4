import CompositeBuild.Proofs.Await.Standing
import CompositeBuild.Proofs.Session.Threads

/-!
# Stacks of calls

Whatever the threads of a composite build do, the following stays true (`Composite.Sound`).  The
session is in order.  A call that began inside another one began in the run of that call, and on a
build that the build of the run depends on, so the stack of a thread is a chain of dependencies from
its outermost call to its innermost.  A sweep that is in flight is owned by a call of some thread.
And a call that sleeps waits for a sweep in flight: the release of the schedule wakes everybody.

Nearly every deed changes one build and the stack of one thread, and `Sound.change` says what such a
change has to respect.
-/

namespace CompositeBuild

variable {σ ρ : Type}

/-! ### What a step of a call means for others -/

namespace IncludedBuild

variable (build : IncludedBuild σ ρ)

/-- A call that begins finds a sweep in flight or takes up a sweep. -/
theorem executing_or_ownsSweep_of_enter :
    build.schedule.executing = true ∨ build.enter.value.1.ownsSweep = true := by
  by_cases busy : build.schedule.executing = true
  · exact .inl busy
  · have idle : build.schedule.executing = false := by simpa using busy
    exact .inr (by simp [build.enter_of_idle idle, Phase.ownsSweep])

end IncludedBuild

/-! ### Names and dependencies last -/

namespace Session

variable {session next : Session σ ρ} {ref : BuildRef} {build later : IncludedBuild σ ρ}

/-- A call that begins inside another one: the outer one runs, and its build depends on the build of
the inner one. -/
def Nested (session : Session σ ρ) (inner outer : Await ρ) : Prop :=
  outer.phase.isRunning = true ∧
    ∃ target, session.nameOf? inner.ref = some target ∧ session.Needs outer.ref target

/-- A call whose build exists, and that sleeps only during a sweep of that build. -/
def Holds (session : Session σ ρ) (await : Await ρ) : Prop :=
  ∃ build, session.build? await.ref = some build ∧
    (await.call.asleep = true → await.phase.isWaiting = true ∧ build.schedule.executing = true)

/-- The names of builds and the dependencies are still there. -/
structure Extends (session next : Session σ ρ) : Prop where
  names : ∀ ref name, session.nameOf? ref = some name → next.nameOf? ref = some name
  edges : ∀ source target, session.registry.dependencies.HasEdge source target →
    next.registry.dependencies.HasEdge source target

/-- The name of a build is what a reference to it names. -/
theorem nameOf?_eq (found : session.build? ref = some build) :
    session.nameOf? ref = some build.name := by
  simp [nameOf?, found]

/-- A session that goes on keeps names and dependencies. -/
theorem Continues.extends (goesOn : Continues session next) : Extends session next where
  names := by
    intro ref name named
    obtain ⟨build, found, rfl⟩ := Option.map_eq_some_iff.mp named
    obtain ⟨later, there, same, -⟩ := goesOn.builds ref build found
    rw [nameOf?_eq there, same]
  edges := goesOn.edges

theorem Extends.refl (session : Session σ ρ) : Extends session session :=
  ⟨fun _ _ named => named, fun _ _ edge => edge⟩

theorem Extends.trans {last : Session σ ρ} (first : Extends session next)
    (second : Extends next last) : Extends session last :=
  ⟨fun ref name named => second.names ref name (first.names ref name named),
    fun source target edge => second.edges source target (first.edges source target edge)⟩

/-- Replacing a build by one of its name keeps names and dependencies. -/
theorem Extends.setBuild (found : session.build? ref = some build)
    (name : later.name = build.name) : Extends session (session.setBuild ref later) where
  names := by
    intro other sought named
    unfold nameOf? at named ⊢
    rw [build?_setBuild]
    by_cases same : ref = other
    · subst same
      simpa [found, name] using named
    · simpa [same] using named
  edges := fun _ _ edge => edge

/-- What is nested stays nested as long as names and dependencies are still there. -/
theorem Nested.extends {inner outer : Await ρ} (nested : session.Nested inner outer)
    (lasting : Extends session next) : next.Nested inner outer := by
  obtain ⟨running, target, named, source, sourceNamed, edge⟩ := nested
  exact ⟨running, target, lasting.names _ _ named, source, lasting.names _ _ sourceNamed,
    lasting.edges _ _ edge⟩

/-- A session whose builds keep their names stays in order. -/
theorem Sound.setBuild (sound : session.Sound) (found : session.build? ref = some build)
    (name : later.name = build.name) : (session.setBuild ref later).Sound where
  tidy := sound.tidy
  acyclic := sound.acyclic
  bound := by
    intro sought other registered
    obtain ⟨old, there, named⟩ := sound.bound sought other registered
    rw [build?_setBuild]
    by_cases same : ref = other
    · subst same
      obtain rfl : build = old := by simpa [found] using there
      exact ⟨later, by simp [found], name.trans named⟩
    · exact ⟨old, by rw [if_neg same]; exact there, named⟩

/-- Replacing a build by itself changes nothing. -/
theorem setBuild_self (found : session.build? ref = some build) :
    session.setBuild ref build = session := by
  obtain ⟨inside, rfl⟩ := List.getElem?_eq_some_iff.mp found
  simp [setBuild]

end Session

/-! ### Waking -/

namespace Await

variable (ref : BuildRef) (await : Await ρ)

@[simp] theorem notified_ref : (await.notified ref).ref = await.ref := by
  unfold notified
  split <;> rfl

/-- Waking a call does not move it. -/
@[simp] theorem notified_phase : (await.notified ref).phase = await.phase := by
  unfold notified
  split <;> rfl

/-- Who sleeps after some have been woken has slept before. -/
theorem asleep_of_notified {ref : BuildRef} {await : Await ρ}
    (asleep : (await.notified ref).call.asleep = true) : await.call.asleep = true := by
  unfold notified at asleep
  split at asleep
  · simp [AwaitCall.notified] at asleep
  · exact asleep

end Await

/-! ### Composite builds in order -/

namespace Composite

/-- Nobody sleeps until a sweep of the given build is over. -/
def Quiet (composite : Composite σ ρ) (ref : BuildRef) : Prop :=
  ∀ calls ∈ composite.threads, ∀ await ∈ calls, await.ref = ref → await.call.asleep = false

/-- The session is in order, every thread holds a stack of nested calls, every sweep in flight has
an owner, and whoever sleeps waits for a sweep in flight. -/
structure Sound (composite : Composite σ ρ) : Prop where
  session : composite.session.Sound
  nested : ∀ calls ∈ composite.threads, calls.IsChain composite.session.Nested
  holds : ∀ calls ∈ composite.threads, ∀ await ∈ calls, composite.session.Holds await
  owned : ∀ ref build, composite.session.build? ref = some build →
    build.schedule.executing = true →
    ∃ calls ∈ composite.threads, ∃ await ∈ calls, await.ref = ref ∧ await.phase.ownsSweep = true

variable {composite : Composite σ ρ}

namespace Sound

variable {front back : List (List (Await ρ))} {calls changed : List (Await ρ)} {ref : BuildRef}
  {build later : IncludedBuild σ ρ}

/-- A composite build without builds and threads is in order. -/
theorem empty : Sound ({} : Composite σ ρ) where
  session := .empty
  nested := by simp
  holds := by simp
  owned := by simp [Session.build?]

/-- A call that does not move holds on when one build changes, because the flag of the build is
lowered only where nobody sleeps. -/
theorem holds_setBuild (sound : composite.Sound) (found : composite.session.build? ref = some build)
    (lowered : build.schedule.executing = true →
      later.schedule.executing = true ∨ composite.Quiet ref)
    (member : calls ∈ composite.threads) {await : Await ρ} (inside : await ∈ calls) :
    (composite.session.setBuild ref later).Holds await := by
  obtain ⟨old, there, sleeps⟩ := sound.holds calls member await inside
  by_cases own : ref = await.ref
  · subst own
    obtain rfl : build = old := by simpa [found] using there
    refine ⟨later, by simp [Session.build?_setBuild, found], fun asleep => ?_⟩
    obtain ⟨waits, busy⟩ := sleeps asleep
    rcases lowered busy with up | quiet
    · exact ⟨waits, up⟩
    · rw [quiet calls member await inside rfl] at asleep
      simp at asleep
  · exact ⟨old, by rw [Session.build?_setBuild, if_neg own]; exact there, sleeps⟩

/-- Whoever owned a sweep before the stack of one thread changed still does, or has lowered the flag
of the build. -/
theorem owner_of_change {other : BuildRef} (split : composite.threads = front ++ calls :: back)
    (owners : ∀ await ∈ calls, await.phase.ownsSweep = true →
      (await.ref = ref ∧ later.schedule.executing = false) ∨
        ∃ same ∈ changed, same.ref = await.ref ∧ same.phase.ownsSweep = true)
    (up : other = ref → later.schedule.executing = true)
    (before : ∃ stack ∈ composite.threads, ∃ await ∈ stack,
      await.ref = other ∧ await.phase.ownsSweep = true) :
    ∃ stack ∈ front ++ changed :: back, ∃ await ∈ stack,
      await.ref = other ∧ await.phase.ownsSweep = true := by
  obtain ⟨stack, member, await, inside, rfl, owner⟩ := before
  rw [split] at member
  rcases List.mem_append.mp member with ahead | after
  · exact ⟨stack, List.mem_append_left _ ahead, await, inside, rfl, owner⟩
  rcases List.mem_cons.mp after with rfl | behind
  · rcases owners await inside owner with ⟨own, low⟩ | ⟨same, present, sameRef, sameOwner⟩
    · rw [up own] at low
      simp at low
    · exact ⟨changed, by simp, same, present, sameRef, sameOwner⟩
  · exact ⟨stack, by simp [behind], await, inside, rfl, owner⟩

/-- A change of one build and of the stack of one thread keeps a composite build in order if

* the build keeps its name, and the new stack is nested as well,
* owners in the old stack stay owners, but for one that lowers the flag of the build,
* a flag that is raised has its owner in the new stack,
* a flag that is lowered leaves nobody asleep, and
* whoever is new in the stack sleeps only during a sweep. -/
theorem change (sound : composite.Sound) (split : composite.threads = front ++ calls :: back)
    (found : composite.session.build? ref = some build) (name : later.name = build.name)
    (chain : changed.IsChain composite.session.Nested)
    (owners : ∀ await ∈ calls, await.phase.ownsSweep = true →
      (await.ref = ref ∧ later.schedule.executing = false) ∨
        ∃ same ∈ changed, same.ref = await.ref ∧ same.phase.ownsSweep = true)
    (raised : later.schedule.executing = true → build.schedule.executing = true ∨
      ∃ await ∈ changed, await.ref = ref ∧ await.phase.ownsSweep = true)
    (lowered : build.schedule.executing = true →
      later.schedule.executing = true ∨ composite.Quiet ref)
    (new : ∀ await ∈ changed, await ∈ calls ∨
      (composite.session.setBuild ref later).Holds await) :
    Sound { session := composite.session.setBuild ref later,
            threads := front ++ changed :: back } := by
  have lasting : Session.Extends composite.session (composite.session.setBuild ref later) :=
    .setBuild found name
  have here : calls ∈ composite.threads := by simp [split]
  have others : ∀ stack ∈ front ++ changed :: back,
      stack = changed ∨ stack ∈ composite.threads := by
    intro stack member
    rw [split]
    simp only [List.mem_append, List.mem_cons] at member ⊢
    tauto
  constructor
  · exact sound.session.setBuild found name
  · intro stack member
    rcases others stack member with rfl | old
    · exact chain.imp fun _ _ nested => nested.extends lasting
    · exact (sound.nested stack old).imp fun _ _ nested => nested.extends lasting
  · intro stack member await inside
    rcases others stack member with rfl | old
    · rcases new await inside with known | holds
      · exact sound.holds_setBuild found lowered here known
      · exact holds
    · exact sound.holds_setBuild found lowered old inside
  · intro other current there busy
    rw [Session.build?_setBuild] at there
    by_cases own : ref = other
    · subst own
      obtain rfl : later = current := by simpa [found] using there
      rcases raised busy with before | ⟨await, present, mine, owner⟩
      · exact owner_of_change split owners (fun _ => busy) (sound.owned ref build found before)
      · exact ⟨changed, by simp, await, present, mine, owner⟩
    · rw [if_neg own] at there
      exact owner_of_change split owners (fun same => absurd same.symm own)
        (sound.owned other current there busy)

/-- A composite build stays in order when its session goes on. -/
theorem goOn {next : Session σ ρ} (sound : composite.Sound)
    (goesOn : Session.Continues composite.session next) (inOrder : next.Sound) :
    Sound { composite with session := next } where
  session := inOrder
  nested := fun calls member =>
    (sound.nested calls member).imp fun _ _ nested => nested.extends goesOn.extends
  holds := by
    intro calls member await inside
    obtain ⟨build, found, sleeps⟩ := sound.holds calls member await inside
    obtain ⟨later, there, -, flag⟩ := goesOn.builds await.ref build found
    exact ⟨later, there, fun asleep => flag ▸ sleeps asleep⟩
  owned := by
    intro ref later there busy
    cases before : composite.session.build? ref with
    | none =>
      have idle := goesOn.idle ref later before there
      rw [idle] at busy
      simp at busy
    | some build =>
      obtain ⟨same, found, -, flag⟩ := goesOn.builds ref build before
      obtain rfl : same = later := by simpa [found] using there
      exact sound.owned ref build before (flag ▸ busy)

/-- Waking all calls on a build keeps a composite build in order. -/
theorem notifyAll (sound : composite.Sound) (ref : BuildRef) : (composite.notifyAll ref).Sound where
  session := sound.session
  nested := by
    intro calls member
    obtain ⟨old, before, rfl⟩ := List.mem_map.mp member
    refine (List.isChain_map _).mpr ((sound.nested old before).imp fun inner outer nested => ?_)
    change composite.session.Nested (inner.notified ref) (outer.notified ref)
    simpa only [Session.Nested, Await.notified_ref, Await.notified_phase] using nested
  holds := by
    intro calls member await inside
    obtain ⟨old, before, rfl⟩ := List.mem_map.mp member
    obtain ⟨same, present, rfl⟩ := List.mem_map.mp inside
    obtain ⟨build, found, sleeps⟩ := sound.holds old before same present
    have there : composite.session.build? (same.notified ref).ref = some build := by
      simpa using found
    refine ⟨build, there, fun asleep => ?_⟩
    rw [Await.notified_phase]
    exact sleeps (Await.asleep_of_notified asleep)
  owned := by
    intro other build found busy
    obtain ⟨calls, member, await, inside, mine, owner⟩ := sound.owned other build found busy
    refine ⟨calls.map (.notified ref), List.mem_map_of_mem member, await.notified ref,
      List.mem_map_of_mem inside, ?_, ?_⟩
    · simpa using mine
    · simpa using owner

end Sound

/-- Nobody sleeps on a build after everybody there has been woken. -/
theorem quiet_notifyAll (composite : Composite σ ρ) (ref : BuildRef) :
    (composite.notifyAll ref).Quiet ref := by
  intro calls member await inside mine
  obtain ⟨old, -, rfl⟩ := List.mem_map.mp member
  obtain ⟨same, -, rfl⟩ := List.mem_map.mp inside
  have named : same.ref = ref := by simpa using mine
  simp [Await.notified, named, AwaitCall.notified]

/-- The number of a thread splits the threads at its calls. -/
theorem exists_split {thread : Nat} {calls : List (Await ρ)}
    (found : composite.threads[thread]? = some calls) :
    ∃ front back, composite.threads = front ++ calls :: back ∧
      ∀ changed, composite.threads.set thread changed = front ++ changed :: back := by
  obtain ⟨front, back, split, rfl⟩ := exists_split_at found
  exact ⟨front, back, split, set_split split⟩

/-! ### Deeds -/

namespace Sound

/-- A call that begins where it may keeps a composite build in order. -/
theorem enter (sound : composite.Sound) (thread : Nat) (ref : BuildRef) :
    (composite.enter thread ref).Sound := by
  unfold Composite.enter
  split
  · next calls build found known =>
    split
    · next permitted =>
      obtain ⟨front, back, split, replaced⟩ := exists_split found
      have member : calls ∈ composite.threads := by simp [split]
      simp only [setThread, Composite.setBuild, replaced]
      refine sound.change split known build.enter_name ?_ ?_ ?_ ?_ ?_
      · -- The new call is nested in the innermost one, if there is one.
        cases calls with
        | nil => exact .singleton _
        | cons innermost outer =>
          obtain ⟨running, needs⟩ : innermost.phase.isRunning = true ∧
              composite.session.Needs innermost.ref build.name := by
            simpa [Session.mayAwait] using permitted
          have inside : composite.session.Nested
              { ref, call := .settled build.enter.value.1 } innermost :=
            ⟨running, build.name, Session.nameOf?_eq known, needs⟩
          exact List.isChain_cons_cons.mpr ⟨inside, sound.nested _ member⟩
      · intro await present owner
        exact .inr ⟨await, List.mem_cons_of_mem _ present, rfl, owner⟩
      · intro _
        rcases build.executing_or_ownsSweep_of_enter with busy | owner
        · exact .inl busy
        · exact .inr ⟨_, List.mem_cons_self .., rfl, owner⟩
      · exact fun _ => .inl build.enter_executing
      · intro await present
        rcases List.mem_cons.mp present with rfl | old
        · refine .inr ⟨build.enter.value.2, by simp [Session.build?_setBuild, known], ?_⟩
          exact fun asleep => ⟨asleep, build.enter_executing⟩
        · exact .inl old
    · exact sound
  · exact sound

/-- A change of one build and of the innermost call of a thread, which is a call on that build,
keeps a composite build in order if the call gives up the sweep only when it lowers the flag, takes
it up when it raises the flag, lowers the flag only when nobody sleeps, and sleeps only during a
sweep. -/
theorem change_innermost (sound : composite.Sound) {front back : List (List (Await ρ))}
    {innermost : Await ρ} {outer : List (Await ρ)} {build later : IncludedBuild σ ρ}
    (split : composite.threads = front ++ (innermost :: outer) :: back)
    (found : composite.session.build? innermost.ref = some build) (name : later.name = build.name)
    (call : AwaitCall ρ)
    (kept : innermost.phase.ownsSweep = true →
      call.phase.ownsSweep = true ∨ later.schedule.executing = false)
    (raised : later.schedule.executing = true →
      build.schedule.executing = true ∨ call.phase.ownsSweep = true)
    (lowered : build.schedule.executing = true →
      later.schedule.executing = true ∨ composite.Quiet innermost.ref)
    (sleeps : call.asleep = true →
      call.phase.isWaiting = true ∧ later.schedule.executing = true) :
    Sound { session := composite.session.setBuild innermost.ref later,
            threads := front ++ ({ innermost with call } :: outer) :: back } := by
  have chain := sound.nested (innermost :: outer) (by simp [split])
  refine sound.change split found name ?_ ?_ ?_ lowered ?_
  · cases outer with
    | nil => exact .singleton _
    | cons next rest =>
      obtain ⟨nested, below⟩ := List.isChain_cons_cons.mp chain
      exact List.isChain_cons_cons.mpr ⟨nested, below⟩
  · intro await present owner
    rcases List.mem_cons.mp present with rfl | deeper
    · rcases kept owner with still | low
      · exact .inr ⟨_, List.mem_cons_self .., rfl, still⟩
      · exact .inl ⟨rfl, low⟩
    · exact .inr ⟨await, List.mem_cons_of_mem _ deeper, rfl, owner⟩
  · intro up
    rcases raised up with busy | owner
    · exact .inl busy
    · exact .inr ⟨_, List.mem_cons_self .., rfl, owner⟩
  · intro await present
    rcases List.mem_cons.mp present with rfl | deeper
    · exact .inr ⟨later, by simp [Session.build?_setBuild, found], sleeps⟩
    · exact .inl (List.mem_cons_of_mem _ deeper)

/-- A step of an innermost call keeps a composite build in order. -/
theorem proceed (sound : composite.Sound) (thread : Nat) : (composite.proceed thread).Sound := by
  unfold Composite.proceed
  split
  · next ref phase outer found =>
    split
    · next build known =>
      have step := build.proceed_step phase
      have name := build.proceed_name phase
      obtain ⟨front, back, split, replaced⟩ := exists_split found
      have sleeps : (AwaitCall.settled (build.proceed phase).value.1).asleep = true →
          (AwaitCall.settled (build.proceed phase).value.1).phase.isWaiting = true ∧
            (build.proceed phase).value.2.schedule.executing = true :=
        fun waits => ⟨waits, step.executing_of_isWaiting waits⟩
      by_cases ending : phase.isEnding = true
      · -- Everybody is woken together with the release, and so cannot miss it.
        have woken : (composite.notifyAll ref).threads =
            front.map (·.map (.notified ref)) ++
              ({ ref, call := { phase, asleep := false } } :: outer.map (.notified ref)) ::
                back.map (·.map (.notified ref)) := by
          simp [Composite.notifyAll, split, Await.notified, AwaitCall.notified]
        have changed := (sound.notifyAll ref).change_innermost woken known name
          (AwaitCall.settled (build.proceed phase).value.1).notified step.ownsSweep_or_lowered
          step.executing_or_ownsSweep (fun _ => .inr (composite.quiet_notifyAll ref))
          (by simp [AwaitCall.notified])
        simp only [ending, if_true, setThread, Composite.setBuild, replaced]
        simpa [Composite.notifyAll, Await.notified] using changed
      · have busy : build.schedule.executing = true →
            (build.proceed phase).value.2.schedule.executing = true := by
          intro up
          rcases step.executing_or_isEnding up with still | finished
          · exact still
          · exact absurd finished ending
        simp only [ending, setThread, Composite.setBuild, replaced]
        exact sound.change_innermost split known name _ step.ownsSweep_or_lowered
          step.executing_or_ownsSweep (fun up => .inl (busy up)) sleeps
    · exact sound
  · exact sound

/-- Changing the innermost call of a thread keeps a composite build in order, if it leaves its sweep
to a call that owns one, and does not put to sleep a call that does not wait. -/
theorem alter (sound : composite.Sound) (thread : Nat) (change : AwaitCall ρ → AwaitCall ρ)
    (owner : ∀ call, call.phase.ownsSweep = true → (change call).phase.ownsSweep = true)
    (sleeps : ∀ call, (change call).asleep = true → call.asleep = true ∧
      (call.phase.isWaiting = true → (change call).phase.isWaiting = true)) :
    (composite.alter thread change).Sound := by
  unfold Composite.alter
  split
  · next innermost outer found =>
    obtain ⟨front, back, split, replaced⟩ := exists_split found
    obtain ⟨build, known, held⟩ :=
      sound.holds (innermost :: outer) (by simp [split]) innermost (List.mem_cons_self ..)
    have changed := sound.change_innermost split known rfl (change innermost.call)
      (fun owns => .inl (owner _ owns)) .inl .inl fun asleep => by
        obtain ⟨before, still⟩ := sleeps _ asleep
        exact ⟨still (held before).1, (held before).2⟩
    rw [Session.setBuild_self known] at changed
    simpa only [setThread, replaced] using changed
  · exact sound

/-- A panic while a launcher is made keeps a composite build in order. -/
theorem abort (sound : composite.Sound) (thread : Nat) (message : String) :
    (composite.step (.abort thread message)).Sound := by
  simp only [Composite.step]
  split
  · next innermost outer found =>
    split
    · next build known =>
      obtain ⟨front, back, split, replaced⟩ := exists_split found
      obtain ⟨sameSchedule, phaseCases⟩ := Callers.abort_cases build message innermost.phase
      obtain ⟨old, there, held⟩ :=
        sound.holds (innermost :: outer) (by simp [split]) innermost (List.mem_cons_self ..)
      obtain rfl : build = old := by simpa [known] using there
      have changed := sound.change_innermost split known (build.abort_name message innermost.phase)
        { innermost.call with phase := (build.abort message innermost.phase).1 }
      rw [sameSchedule] at changed
      simp only [setThread, Composite.setBuild, replaced]
      refine changed ?_ .inl .inl ?_
      · intro owner
        have still : (build.abort message innermost.phase).1.ownsSweep = true := by
          rcases phaseCases with same | ⟨-, ended⟩
          · rw [same]
            exact owner
          · rw [ended]
            rfl
        exact .inl still
      · intro asleep
        obtain ⟨waits, busy⟩ := held asleep
        have still : (build.abort message innermost.phase).1.isWaiting = true := by
          rcases phaseCases with same | ⟨owner, -⟩
          · rw [same]
            exact waits
          · cases standing : innermost.phase <;> simp_all [Phase.isWaiting, Phase.ownsSweep]
        exact ⟨still, busy⟩
    · exact sound
  · exact sound

/-- The return of a call that is over keeps a composite build in order. -/
theorem leave (sound : composite.Sound) (thread : Nat) :
    (composite.step (.leave thread)).Sound := by
  simp only [Composite.step]
  split
  · next innermost outer found =>
    split
    · next finished =>
      obtain ⟨front, back, split, replaced⟩ := exists_split found
      have member : innermost :: outer ∈ composite.threads := by simp [split]
      obtain ⟨build, known, -⟩ := sound.holds _ member innermost (List.mem_cons_self ..)
      have chain : outer.IsChain composite.session.Nested := (sound.nested _ member).tail
      have changed := sound.change split known rfl chain
        (fun await present owner => by
          rcases List.mem_cons.mp present with rfl | deeper
          · cases standing : await.phase <;> simp_all [Phase.isOver, Phase.ownsSweep]
          · exact .inr ⟨await, deeper, rfl, owner⟩)
        .inl .inl fun await present => .inl (List.mem_cons_of_mem _ present)
      rw [Session.setBuild_self known] at changed
      simpa only [setThread, replaced] using changed
    · exact sound
  · exact sound

/-- A new thread has no calls, and so is in order. -/
theorem spawn (sound : composite.Sound) : (composite.step .spawn).Sound := by
  have threads : ∀ calls ∈ (composite.step .spawn).threads,
      calls ∈ composite.threads ∨ calls = [] := by simp [Composite.step]
  refine ⟨sound.session, fun calls member => ?_, fun calls member await inside => ?_, ?_⟩
  · rcases threads calls member with old | rfl
    · exact sound.nested calls old
    · exact .nil
  · rcases threads calls member with old | rfl
    · exact sound.holds calls old await inside
    · simp at inside
  · intro ref build found busy
    obtain ⟨calls, member, owner⟩ := sound.owned ref build found busy
    exact ⟨calls, List.mem_append_left _ member, owner⟩

/-- Every deed keeps a composite build in order. -/
theorem step (sound : composite.Sound) (deed : Deed σ ρ) : (composite.step deed).Sound := by
  cases deed with
  | request request =>
    exact sound.goOn (Session.serve_continues sound.session request) (sound.session.serve request)
  | beside ref side =>
    simp only [Composite.step]
    split
    · next build known =>
      have flag : (side.apply build).schedule.executing = build.schedule.executing := by
        rw [side.apply_schedule build]
      exact sound.goOn (.setBuild known (side.apply_name build) flag)
        (sound.session.setBuild known (side.apply_name build))
    · exact sound
  | spawn => exact sound.spawn
  | await thread ref => exact sound.enter thread ref
  | execute thread delegate =>
    simp only [Composite.step]
    split
    · exact sound.enter thread _
    · exact sound
  | proceed thread => exact sound.proceed thread
  | wake thread =>
    exact sound.alter thread (·.notified) (fun _ owner => owner) fun call asleep => by
      simp [AwaitCall.notified] at asleep
  | unwind thread message =>
    refine sound.alter thread
      (fun call => { call with phase := IncludedBuild.unwind message call.phase })
      (fun call owner => ?_) fun call asleep => ⟨asleep, fun waits => ?_⟩
    · cases standing : call.phase <;> simp_all [IncludedBuild.unwind, Phase.ownsSweep]
    · cases standing : call.phase <;> simp_all [IncludedBuild.unwind, Phase.isWaiting]
  | abort thread message => exact sound.abort thread message
  | leave thread => exact sound.leave thread

/-- Composite builds are in order, whatever happens. -/
theorem run (deeds : List (Deed σ ρ)) : (run deeds).Sound :=
  deeds.foldlRecOn Composite.step .empty fun _ sound deed _ => sound.step deed

end Sound

/-! ### Nothing is forgotten -/

/-- Beginning a call keeps names and dependencies. -/
theorem enter_extends (composite : Composite σ ρ) (thread : Nat) (ref : BuildRef) :
    Session.Extends composite.session (composite.enter thread ref).session := by
  unfold enter
  split
  · next calls build found known =>
    split
    · exact .setBuild known build.enter_name
    · exact .refl composite.session
  · exact .refl composite.session

/-- A step of a call keeps names and dependencies. -/
theorem proceed_extends (composite : Composite σ ρ) (thread : Nat) :
    Session.Extends composite.session (composite.proceed thread).session := by
  unfold proceed
  split
  · next ref phase outer found =>
    split
    · next build known =>
      have kept := Session.Extends.setBuild known (build.proceed_name phase)
      simp only
      split <;> exact kept
    · exact .refl composite.session
  · exact .refl composite.session

/-- Changing a call changes no build. -/
@[simp] theorem alter_session (composite : Composite σ ρ) (thread : Nat)
    (change : AwaitCall ρ → AwaitCall ρ) :
    (composite.alter thread change).session = composite.session := by
  unfold alter
  split <;> rfl

/-- Every deed keeps names and dependencies. -/
theorem step_extends (sound : composite.Sound) (deed : Deed σ ρ) :
    Session.Extends composite.session (composite.step deed).session := by
  cases deed with
  | request request => exact (Session.serve_continues sound.session request).extends
  | beside ref side =>
    simp only [step]
    split
    · next build known => exact .setBuild known (side.apply_name build)
    · exact .refl composite.session
  | spawn => exact .refl composite.session
  | await thread ref => exact composite.enter_extends thread ref
  | execute thread delegate =>
    simp only [step]
    split
    · exact composite.enter_extends thread _
    · exact .refl composite.session
  | proceed thread => exact composite.proceed_extends thread
  | wake thread =>
    rw [step, alter_session]
    exact .refl composite.session
  | unwind thread message =>
    rw [step, alter_session]
    exact .refl composite.session
  | abort thread message =>
    simp only [step]
    split
    · next innermost outer found =>
      split
      · next build known => exact .setBuild known (build.abort_name message innermost.phase)
      · exact .refl composite.session
    · exact .refl composite.session
  | leave thread =>
    simp only [step]
    split
    · split <;> exact .refl composite.session
    · exact .refl composite.session

/-- A dependency that was granted once is there ever after. -/
theorem hasEdge_of_granted {before after : List (Deed σ ρ)} {source : BuildId}
    {reference : TaskReference}
    (granted : ((run before).session.addTask source reference).value.1 = .ok ()) :
    let composite := run (before ++ .request (.addTask source reference) :: after)
    composite.session.registry.dependencies.HasEdge source reference.build := by
  intro composite
  have sound : (run before).Sound := .run before
  let requested := (run before).step (.request (.addTask source reference))
  have recorded : requested.session.registry.dependencies.HasEdge source reference.build := by
    change ((run before).session.addTask source reference).value.2.registry.dependencies.HasEdge
      source reference.build
    rcases Session.addTask_cases sound.session source reference with
      ⟨-, answer⟩ | ⟨-, -, answer⟩ | ⟨-, -, -, chain, answer⟩ | ⟨-, -, ref, build, -, -, answer⟩
    · simp [answer] at granted
    · simp [answer] at granted
    · simp [answer] at granted
    · rw [answer]
      exact Dependencies.hasEdge_add.mpr (.inl ⟨rfl, rfl⟩)
  have kept : (after.foldl step requested).Sound ∧
      Session.Extends requested.session (after.foldl step requested).session := by
    refine after.foldlRecOn (motive := fun composite => composite.Sound ∧
      Session.Extends requested.session composite.session) step
      ⟨sound.step _, .refl requested.session⟩ ?_
    rintro composite ⟨sound, lasting⟩ deed -
    exact ⟨sound.step deed, lasting.trans (step_extends sound deed)⟩
  have whole : composite = after.foldl step requested := by
    simp [composite, run, requested]
  rw [whole]
  exact kept.2.edges _ _ recorded

end Composite

end CompositeBuild
