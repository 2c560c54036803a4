import CompositeBuild.Proofs.Await.Callers

/-!
# How things stand

The laws of a build's callers are about the schedule, the phases of the calls and the history.
`Standing` is these three, and `Standing.Move` lists what one action can do to them, everything
included: a law of all moves is a law of every run (`Callers.step_move`).

The list of phases is split at the call that moves, so that counts over all calls become sums.

The name, the directory and the factory of the build are not in the list, because nothing that
happens changes them (`Callers.step_changes`).
-/

namespace CompositeBuild

variable {σ ρ : Type}

/-! ### Lists and their places -/

/-- The number of an item splits its list at the item. -/
theorem exists_split_at {α : Type} {items : List α} {place : Nat} {item : α}
    (found : items[place]? = some item) :
    ∃ front back, items = front ++ item :: back ∧ front.length = place := by
  obtain ⟨inside, here⟩ := List.getElem?_eq_some_iff.mp found
  refine ⟨items.take place, items.drop (place + 1), ?_, ?_⟩
  · rw [← here, ← List.drop_eq_getElem_cons inside, List.take_append_drop]
  · exact List.length_take_of_le (Nat.le_of_lt inside)

/-- Replacing the item at the split replaces what is between the parts. -/
theorem set_split {α : Type} {items front back : List α} {item : α}
    (split : items = front ++ item :: back) (next : α) :
    items.set front.length next = front ++ next :: back := by
  simp [split]

/-- A new item at the end of a list hides no other. -/
theorem getElem?_append_singleton {α : Type} {items : List α} (item : α) {place : Nat}
    (other : items.length ≠ place) : (items ++ [item])[place]? = items[place]? := by
  rcases Nat.lt_or_gt_of_ne other with beyond | inside
  · have outside : (items ++ [item]).length ≤ place := by
      rw [List.length_append]
      exact beyond
    rw [List.getElem?_eq_none (Nat.le_of_lt beyond), List.getElem?_eq_none outside]
  · exact List.getElem?_append_left inside

/-- An item with another number than that of the split is in one of the parts. -/
theorem mem_of_getElem?_split {α : Type} {front back : List α} {item found : α} {other : Nat}
    (different : front.length ≠ other) (here : (front ++ item :: back)[other]? = some found) :
    found ∈ front ++ back := by
  rcases Nat.lt_or_gt_of_ne different with behind | before
  · rw [List.getElem?_append_right (Nat.le_of_lt behind)] at here
    obtain ⟨place, further⟩ : ∃ place, other - front.length = place + 1 :=
      ⟨other - front.length - 1, by omega⟩
    rw [further, List.getElem?_cons_succ] at here
    exact List.mem_append_right front (List.mem_of_getElem? here)
  · rw [List.getElem?_append_left before] at here
    exact List.mem_append_left back (List.mem_of_getElem? here)

/-- Replacing the item at the split leaves the others where they were. -/
theorem getElem?_split {α : Type} {front back : List α} (item next : α) {other : Nat}
    (different : front.length ≠ other) :
    (front ++ next :: back)[other]? = (front ++ item :: back)[other]? := by
  have replaced : front ++ next :: back = (front ++ item :: back).set front.length next := by simp
  rw [replaced, List.getElem?_set_ne different]

/-! ### Standings and their moves -/

/-- What the laws of a build's callers are about. -/
structure Standing (ρ : Type) where
  schedule : Schedule
  phases : List (Phase ρ)
  history : List Event

/-- How things stand with the callers of a build. -/
def Callers.standing (callers : Callers σ ρ) : Standing ρ where
  schedule := callers.build.schedule
  phases := callers.phases
  history := callers.history

namespace Standing

/-- What one action does to how things stand. -/
inductive Move (mayAbort : Bool) (now : Standing ρ) : Standing ρ → Prop
  | stay : Move mayAbort now now
  /-- Paths are queued, and the schedule may be poisoned. -/
  | push (paths : List TaskPath) (poison : Bool) :
      Move mayAbort now
        { now with
          schedule := { now.schedule with
            pending := now.schedule.pending ++ paths
            poisoned := now.schedule.poisoned || poison }
          history := now.history ++ [.pushed paths] }
  /-- A call begins and has to wait. -/
  | join (busy : now.schedule.executing = true) :
      Move mayAbort now
        { now with
          schedule := now.schedule.join
          phases := now.phases ++ [.waiting] }
  /-- A call begins and claims. -/
  | claim (idle : now.schedule.executing = false) :
      Move mayAbort now
        { schedule := now.schedule.claim.2
          phases := now.phases ++ [.claimed now.schedule.claim.1]
          history := now.history ++ [.claimed now.phases.length now.schedule.claim.1] }
  /-- A call takes its next step. -/
  | proceed {name : BuildId} {front back : List (Phase ρ)} {phase next : Phase ρ}
      {after : Schedule} (made : Bool) (split : now.phases = front ++ phase :: back)
      (step : Phase.Step name now.schedule phase next after) :
      Move mayAbort now
        { schedule := after
          phases := front ++ next :: back
          history := now.history ++ stepEvents made now.history front.length phase next }
  /-- The run of a call panics. -/
  | unwind {front back : List (Phase ρ)} {launcher : LauncherId} {run : ρ} (message : String)
      (split : now.phases = front ++ .running launcher run :: back) :
      Move mayAbort now { now with phases := front ++ .ending (.panicked message) :: back }
  /-- Something else panics in a call that owns the sweep. -/
  | abort {front back : List (Phase ρ)} {phase : Phase ρ} (message : String)
      (allowed : mayAbort = true) (split : now.phases = front ++ phase :: back)
      (owner : phase.ownsSweep = true) :
      Move mayAbort now { now with phases := front ++ .ending (.panicked message) :: back }

/-- A move that needs no abort is a move anyway. -/
theorem Move.mono {mayAbort mayAbort' : Bool} {now next : Standing ρ}
    (implied : mayAbort = true → mayAbort' = true) (move : Move mayAbort now next) :
    Move mayAbort' now next := by
  cases move with
  | stay => exact .stay
  | push paths poison => exact .push paths poison
  | join busy => exact .join busy
  | claim idle => exact .claim idle
  | proceed made split step => exact .proceed made split step
  | unwind message split => exact .unwind message split
  | abort message allowed split owner => exact .abort message (implied allowed) split owner

end Standing

namespace IncludedBuild

variable (build : IncludedBuild σ ρ) (message : String) (phase : Phase ρ)

/-- A panic while a launcher is made changes nothing but the slot. -/
theorem abort_changes : ∃ slot, (build.abort message phase).2 = { build with slot } := by
  cases phase with
  | claimed claim =>
    simp only [abort]
    split <;> exact ⟨_, rfl⟩
  | _ => exact ⟨_, rfl⟩

/-- A panic while a launcher is made never renames the build. -/
theorem abort_name : (build.abort message phase).2.name = build.name := by
  obtain ⟨slot, same⟩ := build.abort_changes message phase
  rw [same]

/-- A panic outside of a run leaves the launchers alone. -/
theorem abort_launchers : (build.abort message phase).2.launchers = build.launchers := by
  obtain ⟨slot, same⟩ := build.abort_changes message phase
  rw [same]

end IncludedBuild

namespace Callers

variable (callers : Callers σ ρ)

/-- Replacing a call replaces its phase. -/
@[simp] theorem phases_setCall (caller : Nat) (call : AwaitCall ρ) :
    (callers.setCall caller call).phases = callers.phases.set caller call.phase := by
  simp [setCall, phases, List.map_set]

/-- Waking calls does not move them. -/
@[simp] theorem phases_notifyAll : callers.notifyAll.phases = callers.phases := by
  simp [notifyAll, phases, AwaitCall.notified]

/-- The number of a call splits the phases at the phase of the call. -/
theorem exists_split {caller : Nat} {call : AwaitCall ρ}
    (found : callers.calls[caller]? = some call) :
    ∃ front back, callers.phases = front ++ call.phase :: back ∧ front.length = caller := by
  have standing : callers.phases[caller]? = some call.phase := by simp [phases, found]
  exact exists_split_at standing

/-- A call begins by joining the waiting ones or by claiming. -/
theorem enter_move (mayAbort : Bool) :
    Standing.Move mayAbort callers.standing callers.enter.standing := by
  by_cases busy : callers.build.schedule.executing = true
  · have joined : callers.enter.standing =
        { callers.standing with
          schedule := callers.build.schedule.join
          phases := callers.phases ++ [.waiting] } := by
      simp [enter, standing, phases, IncludedBuild.enter_of_executing _ busy, AwaitCall.settled,
        stepEvents]
    rw [joined]
    exact .join busy
  · have idle : callers.build.schedule.executing = false := by simpa using busy
    have claimed : callers.enter.standing =
        { schedule := callers.build.schedule.claim.2
          phases := callers.phases ++ [.claimed callers.build.schedule.claim.1]
          history := callers.history ++
            [.claimed callers.phases.length callers.build.schedule.claim.1] } := by
      simp [enter, standing, phases, IncludedBuild.enter_of_idle _ idle, AwaitCall.settled,
        stepEvents]
    rw [claimed]
    exact .claim idle

/-- The calls after a step of one of them. -/
theorem phases_proceed (caller : Nat) (phase : Phase ρ) :
    (callers.proceed caller phase).phases =
      callers.phases.set caller (callers.build.proceed phase).value.1 := by
  have settled (woken : Callers σ ρ) (same : woken.phases = callers.phases) :
      (woken.setCall caller (.settled (callers.build.proceed phase).value.1)).phases =
        callers.phases.set caller (callers.build.proceed phase).value.1 := by
    rw [phases_setCall, same]
    rfl
  cases ending : phase.isEnding with
  | true =>
    rw [← settled callers.notifyAll callers.phases_notifyAll]
    simp only [proceed, ending, if_true]
    rfl
  | false =>
    rw [← settled callers rfl]
    simp only [proceed, ending, Bool.false_eq_true, if_false]
    rfl

/-- A call is aborted only while it owns the sweep, and the schedule is left as it is. -/
theorem abort_cases (build : IncludedBuild σ ρ) (message : String) (phase : Phase ρ) :
    (build.abort message phase).2.schedule = build.schedule ∧
      ((build.abort message phase).1 = phase ∨
        phase.ownsSweep = true ∧
          (build.abort message phase).1 = .ending (.panicked message)) := by
  cases phase with
  | claimed claim =>
    simp only [IncludedBuild.abort]
    split
    · exact ⟨rfl, .inl rfl⟩
    · exact ⟨rfl, .inr ⟨rfl, rfl⟩⟩
  | launching launcher tasks => exact ⟨rfl, .inr ⟨rfl, rfl⟩⟩
  | _ => exact ⟨rfl, .inl rfl⟩

section Split

variable {front back : List (Phase ρ)} {call : AwaitCall ρ}

/-- How things stand after a step of one call. -/
theorem standing_proceed {phase : Phase ρ} (split : callers.phases = front ++ phase :: back) :
    (callers.proceed front.length phase).standing =
      { schedule := (callers.build.proceed phase).value.2.schedule
        phases := front ++ (callers.build.proceed phase).value.1 :: back
        history := callers.history ++ stepEvents callers.build.slot.launcher.isNone
          callers.history front.length phase (callers.build.proceed phase).value.1 } := by
  have moved := callers.phases_proceed front.length phase
  rw [set_split split] at moved
  rw [← moved]
  rfl

/-- How things stand after the run of a call was cut short. -/
theorem standing_unwind (found : callers.calls[front.length]? = some call)
    (split : callers.phases = front ++ call.phase :: back) (message : String) :
    (callers.step (.unwind front.length message)).standing =
      { callers.standing with
        phases := front ++ IncludedBuild.unwind message call.phase :: back } := by
  simp only [step, found, standing, phases_setCall, set_split split]
  rfl

/-- How things stand after a panic outside of a run. -/
theorem standing_abort (found : callers.calls[front.length]? = some call)
    (split : callers.phases = front ++ call.phase :: back) (message : String) :
    (callers.step (.abort front.length message)).standing =
      { callers.standing with
        phases := front ++ (callers.build.abort message call.phase).1 :: back } := by
  have replaced := callers.phases_setCall front.length
    { call with phase := (callers.build.abort message call.phase).1 }
  rw [set_split split] at replaced
  simp only [step, found, standing, ← (abort_cases callers.build message call.phase).1]
  rw [← replaced]
  rfl

end Split

/-- Waking a call changes nothing in how things stand. -/
theorem standing_wake (caller : Nat) :
    (callers.step (.wake caller)).standing = callers.standing := by
  simp only [step]
  split
  · next call found =>
    obtain ⟨front, back, split, rfl⟩ := callers.exists_split found
    unfold standing
    rw [phases_setCall, set_split split, split]
    rfl
  · rfl

/-- A call goes on by a step of the list. -/
theorem proceed_move (mayAbort : Bool) {caller : Nat} {call : AwaitCall ρ}
    (found : callers.calls[caller]? = some call) :
    Standing.Move mayAbort callers.standing (callers.proceed caller call.phase).standing := by
  obtain ⟨front, back, split, rfl⟩ := callers.exists_split found
  rw [callers.standing_proceed split]
  exact .proceed callers.build.slot.launcher.isNone split (callers.build.proceed_step call.phase)

/-- A panic in the code that the run of a call calls moves things as the list says. -/
theorem unwind_move (mayAbort : Bool) {caller : Nat} {call : AwaitCall ρ}
    (found : callers.calls[caller]? = some call) (message : String) :
    Standing.Move mayAbort callers.standing (callers.step (.unwind caller message)).standing := by
  obtain ⟨front, back, split, rfl⟩ := callers.exists_split found
  rw [callers.standing_unwind found split]
  cases phase : call.phase with
  | running launcher run =>
    rw [phase] at split
    exact .unwind message split
  | _ =>
    rw [phase] at split
    simp only [IncludedBuild.unwind]
    rw [← split]
    exact .stay

/-- Aborting a call moves things as the list says. -/
theorem abort_move {caller : Nat} {call : AwaitCall ρ}
    (found : callers.calls[caller]? = some call) (message : String) :
    Standing.Move true callers.standing
      (callers.step (.abort caller message)).standing := by
  obtain ⟨front, back, split, rfl⟩ := callers.exists_split found
  rw [callers.standing_abort found split]
  rcases (abort_cases callers.build message call.phase).2 with same | ⟨owner, ended⟩
  · rw [same, ← split]
    exact .stay
  · rw [ended]
    exact .abort message rfl split owner

/-- What happens beside the calls is a push, or does not matter. -/
theorem beside_move (mayAbort : Bool) (side : SideStep σ) :
    Standing.Move mayAbort callers.standing (callers.step (.beside side)).standing := by
  have schedule := side.apply_schedule callers.build
  cases side with
  | queue paths =>
    have pushed : Standing.Move mayAbort callers.standing _ := .push paths false
    simpa [step, standing, schedule, phases, SideStep.pushed, SideStep.poisons] using pushed
  | queueAndPoison paths =>
    have pushed : Standing.Move mayAbort callers.standing _ := .push paths true
    simpa [step, standing, schedule, phases, SideStep.pushed, SideStep.poisons] using pushed
  | _ =>
    have stayed : Standing.Move mayAbort callers.standing _ := .stay
    simpa [step, standing, schedule, phases, SideStep.pushed, SideStep.poisons] using stayed

/-- Every action moves things as the list says. -/
theorem step_move (action : Action σ) :
    Standing.Move action.isAbort callers.standing (callers.step action).standing := by
  cases action with
  | enter => exact callers.enter_move false
  | proceed caller =>
    simp only [step]
    split
    · next found => exact callers.proceed_move false found
    · exact .stay
  | wake caller =>
    rw [standing_wake]
    exact .stay
  | unwind caller message =>
    cases found : callers.calls[caller]? with
    | some call => exact callers.unwind_move false found message
    | none =>
      simp only [step, found]
      exact .stay
  | abort caller message =>
    cases found : callers.calls[caller]? with
    | some call => exact callers.abort_move found message
    | none =>
      simp only [step, found]
      exact .stay
  | beside side => exact callers.beside_move false side

/-- An action of a call changes nothing but the schedule, the slot and the launchers of the
build. -/
theorem step_changes_of_call {action : Action σ} (ofCall : ∀ side, action ≠ .beside side) :
    ∃ schedule slot launchers,
      (callers.step action).build = { callers.build with schedule, slot, launchers } := by
  cases action with
  | enter =>
    obtain ⟨schedule, same⟩ := callers.build.enter_changes
    exact ⟨schedule, _, _, same⟩
  | proceed caller =>
    simp only [step]
    split
    · next phase _ => exact callers.build.proceed_changes phase
    · exact ⟨_, _, _, rfl⟩
  | abort caller message =>
    simp only [step]
    split
    · next call _ =>
      obtain ⟨slot, same⟩ := callers.build.abort_changes message call.phase
      exact ⟨_, slot, _, same⟩
    · exact ⟨_, _, _, rfl⟩
  | beside side => exact absurd rfl (ofCall side)
  | _ =>
    simp only [step]
    split <;> exact ⟨_, _, _, rfl⟩

/-- An action changes neither the name, nor the directory, nor the factory of the build. -/
theorem step_changes (action : Action σ) : ∃ schedule slot substitutions launchers,
    (callers.step action).build =
      { callers.build with schedule, slot, substitutions, launchers } := by
  by_cases beside : ∃ side, action = .beside side
  · obtain ⟨side, rfl⟩ := beside
    exact side.apply_changes callers.build
  · have ofCall (side : SideStep σ) : action ≠ .beside side := fun same => beside ⟨side, same⟩
    obtain ⟨schedule, slot, launchers, same⟩ := callers.step_changes_of_call ofCall
    exact ⟨schedule, slot, _, launchers, same⟩

/-- No action renames the build. -/
theorem step_name (action : Action σ) :
    (callers.step action).build.name = callers.build.name := by
  obtain ⟨schedule, slot, substitutions, launchers, same⟩ := callers.step_changes action
  rw [same]

/-- No action changes the factory of the build. -/
theorem step_factory (action : Action σ) :
    (callers.step action).build.factory = callers.build.factory := by
  obtain ⟨schedule, slot, substitutions, launchers, same⟩ := callers.step_changes action
  rw [same]

/-- No run renames the build. -/
theorem run_name (actions : List (Action σ)) :
    (callers.run actions).build.name = callers.build.name :=
  run_preserves (P := fun later => later.build.name = callers.build.name)
    (fun action _ later same => (later.step_name action).trans same) rfl

/-- No run changes the factory of the build. -/
theorem run_factory (actions : List (Action σ)) :
    (callers.run actions).build.factory = callers.build.factory :=
  run_preserves (P := fun later => later.build.factory = callers.build.factory)
    (fun action _ later same => (later.step_factory action).trans same) rfl

/-- What every move keeps holds after every run, of aborts only if the run has any. -/
theorem run_law (mayAbort : Bool) {P : Standing ρ → Prop} {actions : List (Action σ)}
    (allowed : ∀ action ∈ actions, action.isAbort = true → mayAbort = true)
    (keeps : ∀ now next, Standing.Move mayAbort now next → P now → P next)
    (holds : P callers.standing) : P (callers.run actions).standing := by
  refine run_preserves (P := fun callers => P callers.standing) ?_ holds
  intro action member callers before
  exact keeps _ _ ((callers.step_move action).mono (allowed action member)) before

end Callers

end CompositeBuild
