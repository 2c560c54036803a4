import CompositeBuild.Proofs.Session.Stacks

/-!
# No deadlock between builds

A build waits for another one if a thread that owns a sweep of the first is, inside that sweep, in
the middle of a call on the second (`Composite.WaitsFor`).  Such a call is nested in the sweep, so
its build can be reached from the other along the recorded dependencies, and these have no cycle.
So waiting goes round no cycle either, and it comes to an end at a thread that can go on: a call
that waits for a sweep in flight has an owner of that sweep before it, whose thread goes on or is
held up by a sweep further along the dependencies (`Composite.exists_unblocked`).

That a thread can go on means that its innermost call takes a step that brings it nearer to its end,
or returns to the run that it was called from.
-/

namespace CompositeBuild

variable {σ ρ : Type}

/-! ### Steps that are left -/

namespace Phase

/-- A bound on the steps that a call has left once it does not have to wait. -/
def remaining : Phase ρ → Nat
  | .waiting => 6
  | .claimed _ => 5
  | .launching _ _ => 4
  | .requested _ => 3
  | .running _ _ => 2
  | .ending _ => 1
  | .ended _ => 0

/-- Every step of a call that is not over brings it nearer to its end, unless the call waits for a
sweep in flight. -/
theorem Step.remaining_lt {name : BuildId} {schedule after : Schedule} {phase next : Phase ρ}
    (step : Step name schedule phase next after) (unfinished : phase.isOver = false)
    (unblocked : phase.isWaiting = true → schedule.executing = false) :
    next.remaining < phase.remaining := by
  cases step <;> simp_all [remaining, isWaiting, isOver]

end Phase

namespace Composite

variable {composite : Composite σ ρ}

/-! ### Waiting -/

/-- A thread that owns a sweep of a build named `owner` is, inside that sweep, in the middle of a
call on a build named `target`. -/
def WaitsFor (composite : Composite σ ρ) (owner target : BuildId) : Prop :=
  ∃ calls ∈ composite.threads, ∃ above sweep below, calls = above ++ sweep :: below ∧
    sweep.phase.ownsSweep = true ∧ composite.session.nameOf? sweep.ref = some owner ∧
    ∃ inner ∈ above, composite.session.nameOf? inner.ref = some target

/-- The innermost call of a thread. -/
def innermost? (composite : Composite σ ρ) (thread : Nat) : Option (Await ρ) :=
  composite.threads[thread]?.bind (·.head?)

/-- A call that waits for a sweep in flight. -/
def Blocked (session : Session σ ρ) (await : Await ρ) : Prop :=
  await.phase.isWaiting = true ∧
    ∃ build, session.build? await.ref = some build ∧ build.schedule.executing = true

/-- A thread in the middle of something whose innermost call is over, or is not blocked. -/
def Unblocked (session : Session σ ρ) (innermost : Await ρ) (outer : List (Await ρ)) : Prop :=
  (innermost.phase.isOver = true ∧ outer ≠ []) ∨
    (innermost.phase.isOver = false ∧ ¬Blocked session innermost)

/-- What a call inside another one is on can be reached from what the outer one is on. -/
theorem reachable_of_nested {session : Session σ ρ} {sweep : Await ρ} {owner : BuildId}
    (named : session.nameOf? sweep.ref = some owner) {above below : List (Await ρ)}
    (chain : (above ++ sweep :: below).IsChain session.Nested) :
    ∀ inner ∈ above, ∀ target, session.nameOf? inner.ref = some target →
      Relation.TransGen session.registry.dependencies.HasEdge owner target := by
  induction above with
  | nil => simp
  | cons first rest ih =>
    have deeper := ih chain.tail
    intro inner member target sought
    rcases List.mem_cons.mp member with rfl | further
    · cases rest with
      | nil =>
        obtain ⟨⟨-, found, foundNamed, source, sourceNamed, edge⟩, -⟩ :=
          List.isChain_cons_cons.mp chain
        obtain rfl : found = target := by simpa [foundNamed] using sought
        obtain rfl : source = owner := by simpa [sourceNamed] using named
        exact .single edge
      | cons next others =>
        obtain ⟨⟨-, found, foundNamed, source, sourceNamed, edge⟩, -⟩ :=
          List.isChain_cons_cons.mp chain
        obtain rfl : found = target := by simpa [foundNamed] using sought
        exact (deeper next (List.mem_cons_self ..) source sourceNamed).tail edge
    · exact deeper inner further target sought

namespace Sound

/-- A build that waits for another one depends on it. -/
theorem reachable_of_waitsFor (sound : composite.Sound) {owner target : BuildId}
    (waits : composite.WaitsFor owner target) :
    Relation.TransGen composite.session.registry.dependencies.HasEdge owner target := by
  obtain ⟨calls, member, above, sweep, below, rfl, -, named, inner, inside, sought⟩ := waits
  exact reachable_of_nested named (sound.nested _ member) inner inside target sought

/-- Waiting goes round no cycle. -/
theorem not_waitsFor_cycle (sound : composite.Sound) (build : BuildId) :
    ¬Relation.TransGen composite.WaitsFor build build := by
  intro cycle
  refine sound.session.acyclic build ?_
  exact Relation.TransGen.closed (fun _ _ waits => sound.reachable_of_waitsFor waits) _ _ cycle

/-- If a call on a build is blocked, then some thread in the middle of something is not.  The
induction follows the dependencies, from the build that is waited for to the builds that hold up its
sweep. -/
theorem exists_unblocked_of_blocked (sound : composite.Sound) (target : BuildId) :
    ∀ await, composite.session.nameOf? await.ref = some target →
      Blocked composite.session await →
      ∃ innermost outer, innermost :: outer ∈ composite.threads ∧
        Unblocked composite.session innermost outer := by
  have ends := sound.session.acyclic.wellFounded.transGen
  induction target using ends.induction with
  | _ target ih =>
  intro await named ⟨waits, build, found, busy⟩
  obtain ⟨calls, member, sweep, inside, mine, owner⟩ := sound.owned await.ref build found busy
  obtain ⟨above, below, rfl⟩ := List.append_of_mem inside
  cases above with
  | nil =>
    -- The owner of the sweep is innermost in its thread.
    refine ⟨sweep, below, member, .inr ⟨?_, fun blocked => ?_⟩⟩
    · cases standing : sweep.phase <;> simp_all [Phase.isOver, Phase.ownsSweep]
    · obtain ⟨also, -⟩ := blocked
      cases standing : sweep.phase <;> simp_all [Phase.isWaiting, Phase.ownsSweep]
  | cons innermost rest =>
    by_cases finished : innermost.phase.isOver = true
    · exact ⟨innermost, rest ++ sweep :: below, member, .inl ⟨finished, by simp⟩⟩
    by_cases blocked : Blocked composite.session innermost
    · -- The thread of the owner is held up inside the sweep, further along the dependencies.
      obtain ⟨-, next, there, -⟩ := id blocked
      have sought := Session.nameOf?_eq there
      have ownerNamed : composite.session.nameOf? sweep.ref = some target := by rw [mine, named]
      have reached := reachable_of_nested ownerNamed (sound.nested _ member) innermost
        (List.mem_cons_self ..) next.name sought
      exact ih next.name (Relation.transGen_swap.mp reached) innermost sought blocked
    · exact ⟨innermost, rest ++ sweep :: below, member, .inr ⟨by simpa using finished, blocked⟩⟩

/-- If a call is not over, then some thread in the middle of something is not blocked. -/
theorem exists_unblocked (sound : composite.Sound) {calls : List (Await ρ)}
    (member : calls ∈ composite.threads) {await : Await ρ} (inside : await ∈ calls)
    (unfinished : await.phase.isOver = false) :
    ∃ innermost outer, innermost :: outer ∈ composite.threads ∧
      Unblocked composite.session innermost outer := by
  cases calls with
  | nil => simp at inside
  | cons innermost outer =>
    by_cases finished : innermost.phase.isOver = true
    · refine ⟨innermost, outer, member, .inl ⟨finished, ?_⟩⟩
      rcases List.mem_cons.mp inside with rfl | deeper
      · simp [unfinished] at finished
      · exact List.ne_nil_of_mem deeper
    by_cases blocked : Blocked composite.session innermost
    · obtain ⟨-, build, found, -⟩ := id blocked
      have named := Session.nameOf?_eq found
      exact sound.exists_unblocked_of_blocked build.name innermost named blocked
    · exact ⟨innermost, outer, member, .inr ⟨by simpa using finished, blocked⟩⟩

/-- The innermost call of a thread that is not blocked takes a step that brings it nearer to its
end. -/
theorem proceed_remaining_lt (sound : composite.Sound) {thread : Nat} {innermost : Await ρ}
    {outer : List (Await ρ)} (found : composite.threads[thread]? = some (innermost :: outer))
    (unfinished : innermost.phase.isOver = false)
    (unblocked : ¬Blocked composite.session innermost) :
    ∃ next, (composite.step (.proceed thread)).innermost? thread = some next ∧
      next.phase.remaining < innermost.phase.remaining := by
  obtain ⟨build, known, held⟩ := sound.holds _ (List.mem_of_getElem? found) innermost
    (List.mem_cons_self ..)
  have inside : thread < composite.threads.length := (List.getElem?_eq_some_iff.mp found).1
  obtain ⟨ref, phase, asleep⟩ := innermost
  -- Who sleeps is blocked, so the call is awake.
  obtain rfl : asleep = false := by
    by_contra sleeping
    obtain ⟨waits, busy⟩ := held (by simpa using sleeping)
    exact unblocked ⟨waits, build, known, busy⟩
  have free : phase.isWaiting = true → build.schedule.executing = false := by
    intro waits
    by_contra busy
    exact unblocked ⟨waits, build, known, by simpa using busy⟩
  have nearer := (build.proceed_step phase).remaining_lt unfinished free
  have taken : ∃ next, (composite.step (.proceed thread)).innermost? thread = some next ∧
      next.phase = (build.proceed phase).value.1 := by
    simp only [Composite.step, Composite.proceed, found, known]
    by_cases ending : phase.isEnding = true
    · refine ⟨Await.notified ref { ref, call := .settled (build.proceed phase).value.1 }, ?_, ?_⟩
      · simp [ending, innermost?, Composite.notifyAll, setThread, Composite.setBuild, inside]
      · exact Await.notified_phase _ _
    · refine ⟨{ ref, call := .settled (build.proceed phase).value.1 }, ?_, rfl⟩
      simp [ending, innermost?, setThread, Composite.setBuild, inside]
  obtain ⟨next, innermost, moved⟩ := taken
  exact ⟨next, innermost, by rw [moved]; exact nearer⟩

end Sound

/-! ### No deadlock -/

/-- **Dependencies without cycles rule out deadlock.**  Runs may await whatever their build was
granted a dependency on, for a dependency that was granted is there ever after.  After every
interleaving of any number of threads, with calls nested to any depth, builds registered anew, and
runs that succeed, fail or panic:

* a build that waits for another one depends on it along the recorded edges, and so waiting goes
  round no cycle;
* if any call is not over, there is a thread in the middle of something that can go on: its
  innermost call is not held up by a sweep in flight, and takes a step that brings it nearer to its
  end, or, if it is over, returns to the run that it was called from. -/
theorem dependencies_prevent_deadlock (deeds : List (Deed σ ρ)) :
    let composite := run deeds
    let dependencies := composite.session.registry.dependencies
    (∀ before source reference after,
      deeds = before ++ .request (.addTask source reference) :: after →
      ((run before).session.addTask source reference).value.1 = .ok () →
      dependencies.HasEdge source reference.build) ∧
    (∀ owner target, composite.WaitsFor owner target →
      Relation.TransGen dependencies.HasEdge owner target) ∧
    (∀ build, ¬Relation.TransGen composite.WaitsFor build build) ∧
    ((∃ calls ∈ composite.threads, ∃ await ∈ calls, await.phase.isOver = false) →
      ∃ thread innermost outer, composite.threads[thread]? = some (innermost :: outer) ∧
        ¬Blocked composite.session innermost ∧
        ((innermost.phase.isOver = true ∧ outer ≠ [] ∧
            (composite.step (.leave thread)).threads[thread]? = some outer) ∨
          (innermost.phase.isOver = false ∧
            ∃ next, (composite.step (.proceed thread)).innermost? thread = some next ∧
              next.phase.remaining < innermost.phase.remaining))) := by
  intro composite dependencies
  have sound : composite.Sound := .run deeds
  refine ⟨?_, fun owner target => sound.reachable_of_waitsFor, sound.not_waitsFor_cycle, ?_⟩
  · rintro before source reference after rfl granted
    exact hasEdge_of_granted granted
  · rintro ⟨calls, member, await, inside, unfinished⟩
    obtain ⟨innermost, outer, present, free⟩ := sound.exists_unblocked member inside unfinished
    obtain ⟨thread, found⟩ := List.mem_iff_getElem?.mp present
    refine ⟨thread, innermost, outer, found, ?_⟩
    rcases free with ⟨finished, nested⟩ | ⟨going, unblocked⟩
    · refine ⟨?_, .inl ⟨finished, nested, ?_⟩⟩
      · rintro ⟨waits, -⟩
        cases standing : innermost.phase <;> simp_all [Phase.isOver, Phase.isWaiting]
      · have numbered : thread < composite.threads.length :=
          (List.getElem?_eq_some_iff.mp found).1
        simp only [step, found, finished, if_true, setThread]
        exact List.getElem?_set_self numbered
    · exact ⟨unblocked, .inr ⟨going, sound.proceed_remaining_lt found going unblocked⟩⟩

/-- Two threads: in the run of `app`, which depends on `lib`, the first begins a sweep of `lib`, and
the second has to wait for it. -/
def nestedSweep : List (Deed (ScriptedLaunchers Unit) (ScriptedRun Unit)) :=
  let task : TaskPath := { text := ":jar", qualified := by decide }
  let make (name : String) : Deed (ScriptedLaunchers Unit) (ScriptedRun Unit) :=
    .request (.make ⟨name⟩ ("/" ++ name) ScriptedLaunchers.factory (.ofProject name []))
  [make "app", make "lib", .request (.register 0), .request (.register 1),
    .request (.addTask ⟨"app"⟩ ⟨⟨"lib"⟩, task⟩), .beside 0 (.queue [task]), .spawn, .spawn,
    .await 0 0, .proceed 0, .proceed 0, .proceed 0, .await 0 1, .execute 1 ⟨0, ⟨"lib"⟩⟩]

set_option maxRecDepth 20000 in
example : (run nestedSweep).threads.map (·.map fun await => (await.ref, await.call.asleep)) =
    [[(1, false), (0, false)], [(1, true)]] := by cbv

end Composite

end CompositeBuild
