import CompositeBuild.Proofs.Await.Exclusion
import CompositeBuild.Proofs.Launchers.Bench

/-!
# Launchers in the custody of sweeps

The callers of a build, together with the launchers that their sweeps have taken so far, are a
`Custody`.  Every action moves the bench of the build as `Bench.Move` lists it
(`Custody.step_moves`): at most one call owns the sweep, so what this call has in hand is all that
sweeps have in hand.

The state of the launchers may change from outside, but what a law reads from it may not.
`Callers.KeptAlong` says so of the changes that a list of actions makes.
-/

namespace CompositeBuild

variable {σ ρ α : Type}

/-! ### Changes from outside -/

/-- From outside, an action changes nothing that is seen in `view`. -/
def Action.Keeps (view : σ → α) (callers : Callers σ ρ) : Action σ → Prop
  | .beside (.changeLaunchers launchers) => view launchers = view callers.build.launchers
  | _ => True

/-- From outside, none of the actions changes anything that is seen in `view`. -/
def Callers.KeptAlong (view : σ → α) : Callers σ ρ → List (Action σ) → Prop
  | _, [] => True
  | callers, action :: actions =>
    action.Keeps view callers ∧ KeptAlong view (callers.step action) actions

/-- Actions that leave the state of the launchers to the calls that they get change nothing from
outside. -/
theorem Callers.KeptAlong.of_keepsLaunchers {view : σ → α} {callers : Callers σ ρ}
    {actions : List (Action σ)} (kept : ∀ action ∈ actions, action.keepsLaunchers = true) :
    callers.KeptAlong view actions := by
  induction actions generalizing callers with
  | nil => trivial
  | cons action actions ih =>
    refine ⟨?_, ih fun later member => kept later (List.mem_cons_of_mem _ member)⟩
    have first := kept action List.mem_cons_self
    cases action with
    | beside side => cases side <;> simp_all [Action.Keeps, Action.keepsLaunchers]
    | _ => trivial

/-! ### Claims without repetition -/

/-- No call that has claimed finds a path twice among its fresh ones. -/
def Standing.DistinctClaims (now : Standing ρ) : Prop :=
  ∀ claim, .claimed claim ∈ now.phases → claim.fresh.Nodup

/-- A claim finds no path fresh twice. -/
theorem Schedule.nodup_claim_fresh (schedule : Schedule) : schedule.claim.1.fresh.Nodup :=
  nodup_freshAmong schedule.executed schedule.pending

/-- A call that has claimed by a step, and not before, has claimed just now. -/
theorem Phase.Step.nodup_fresh {name : BuildId} {schedule after : Schedule} {phase : Phase ρ}
    {claim : Claim} (step : Phase.Step name schedule phase (.claimed claim) after) :
    claim.fresh.Nodup := by
  cases step
  exact schedule.leave.nodup_claim_fresh

/-- Every move leaves claims without repetition. -/
theorem Standing.DistinctClaims.move {mayAbort : Bool} {now next : Standing ρ}
    (distinct : now.DistinctClaims) (move : Move mayAbort now next) : next.DistinctClaims := by
  -- Only the call that moves can have claimed something new.
  have replaced {front back : List (Phase ρ)} {phase moved : Phase ρ}
      (split : now.phases = front ++ phase :: back)
      (own : ∀ claim, moved = .claimed claim → claim.fresh.Nodup) (claim : Claim)
      (member : .claimed claim ∈ front ++ moved :: back) : claim.fresh.Nodup := by
    rcases List.mem_append.mp member with before | here
    · exact distinct claim (by simp [split, before])
    · rcases List.mem_cons.mp here with same | behind
      · exact own claim same.symm
      · exact distinct claim (by simp [split, behind])
  cases move with
  | stay => exact distinct
  | push paths poison => exact distinct
  | join busy =>
    intro claim member
    exact distinct claim (by simpa using member)
  | claim idle =>
    intro claim member
    rcases List.mem_append.mp member with before | new
    · exact distinct claim before
    · obtain rfl : claim = now.schedule.claim.1 := by simpa using new
      exact now.schedule.nodup_claim_fresh
  | proceed made split step =>
    refine replaced split ?_
    rintro claim rfl
    exact step.nodup_fresh
  | unwind message split => exact replaced split (by simp)
  | abort message allowed split owner => exact replaced split (by simp)

/-! ### Steps of a call -/

/-- A run that is cut short had nothing in hand. -/
theorem IncludedBuild.hand?_unwind (message : String) (phase : Phase ρ) :
    (unwind message phase).hand? = phase.hand? := by
  cases phase <;> rfl

namespace IncludedBuild

variable (build : IncludedBuild σ ρ) (view : σ → α) (hand : Option Hand)
  (taken : List LauncherId)

/-- The launcher that the next step of a call takes. -/
def taken? : Phase ρ → Option LauncherId
  | .claimed claim => if claim.fresh = [] then none else some build.takeLauncher.value.1
  | _ => none

/-- The beginning of a call is no matter for the bench. -/
theorem enter_bench :
    build.enter.value.2.bench hand taken = build.bench hand taken ∧
      build.enter.value.1.hand? = none := by
  unfold enter
  split <;> exact ⟨rfl, rfl⟩

/-- Claiming is no matter for the bench. -/
theorem wake_bench :
    build.wake.value.2.bench hand taken = build.bench hand taken ∧
      build.wake.value.1.hand? = none := by
  unfold wake
  split
  · exact ⟨rfl, rfl⟩
  · split <;> exact ⟨rfl, rfl⟩

/-- A step of a call that does not own the sweep is no matter for the bench. -/
theorem proceed_bench_of_not_owner {phase : Phase ρ} (idle : phase.ownsSweep = false) :
    (build.proceed phase).value.2.bench hand taken = build.bench hand taken ∧
      (build.proceed phase).value.1.hand? = none := by
  cases phase with
  | waiting => exact build.wake_bench hand taken
  | ended result => exact ⟨rfl, rfl⟩
  | _ => simp [Phase.ownsSweep] at idle

/-- A step of the call that owns the sweep moves the bench as listed. -/
theorem proceed_moves {phase : Phase ρ} (owner : phase.ownsSweep = true)
    (once : ∀ claim, phase = .claimed claim → claim.fresh.Nodup) :
    Bench.Moves build.factory view (build.bench phase.hand? taken)
      ((build.proceed phase).value.2.bench (build.proceed phase).value.1.hand?
        (taken ++ (build.taken? phase).toList)) := by
  cases phase with
  | claimed claim =>
    by_cases nothing : claim.fresh = []
    · simpa [proceed, nothing, launch_nil, taken?, Phase.hand?] using .refl
    · simp only [proceed, launch_of_ne_nil build nothing, taken?, nothing, if_false, Phase.hand?]
      exact build.takeLauncher_moves view none taken nothing (once claim rfl)
  | launching launcher tasks =>
    simp only [taken?, Option.toList_none, List.append_nil]
    exact .single (.request rfl)
  | requested launcher =>
    simp only [taken?, Option.toList_none, List.append_nil]
    exact .single (.beginRun rfl)
  | running launcher run =>
    simp only [taken?, Option.toList_none, List.append_nil]
    simp only [proceed, endRun_value]
    exact .single (.endRun launcher run)
  | ending result =>
    simp only [taken?, Option.toList_none, List.append_nil]
    exact .refl
  | waiting => simp [Phase.ownsSweep] at owner
  | ended result => simp [Phase.ownsSweep] at owner

/-- A panic that ends the sweep of a call moves the bench as listed. -/
theorem abort_moves (message : String) (phase : Phase ρ) :
    Bench.Moves build.factory view (build.bench phase.hand? taken)
      ((build.abort message phase).2.bench (build.abort message phase).1.hand? taken) := by
  cases phase with
  | claimed claim =>
    simp only [abort]
    split
    · exact .refl
    · next needed =>
      have none : build.slot.launcher = none := by
        simpa using (not_or.mp needed).2
      exact .single (.forget none)
  | launching launcher tasks => exact .single .drop
  | _ => exact .refl

/-- A panic is no matter for a call that does not own the sweep. -/
theorem abort_of_not_owner (message : String) {phase : Phase ρ}
    (idle : phase.ownsSweep = false) : build.abort message phase = (phase, build) := by
  cases phase with
  | waiting => rfl
  | ended result => rfl
  | _ => simp [Phase.ownsSweep] at idle

end IncludedBuild

namespace SideStep

/-- What happens beside the calls of await moves the bench as listed. -/
theorem apply_moves (side : SideStep σ) (callers : Callers σ ρ) {view : σ → α}
    (hand : Option Hand) (taken : List LauncherId)
    (kept : (Action.beside side).Keeps view callers) :
    Bench.Moves callers.build.factory view (callers.build.bench hand taken)
      ((side.apply callers.build).bench hand taken) := by
  cases side with
  | loadSettings => exact callers.build.loadedSettings_moves view hand taken
  | configure => exact callers.build.configuredBuild_moves view hand taken
  | registerSubstitution action =>
    obtain ⟨substitutions, same⟩ := apply_registerSubstitution callers.build action
    rw [same]
    exact .refl
  | resolveSubstitutions =>
    simp only [apply, IncludedBuild.resolveSubstitutions_build]
    exact .refl
  | changeLaunchers launchers => exact .single (.change launchers kept)
  | _ => exact .refl

end SideStep

/-! ### Custody -/

namespace Callers

variable (callers : Callers σ ρ)

/-- What sweeps have in hand. -/
def hand : Option Hand := callers.phases.findSome? Phase.hand?

/-- The launcher that an action takes for a sweep. -/
def taken? : Action σ → Option LauncherId
  | .proceed caller =>
    match callers.calls[caller]? with
    | some { phase, asleep := false } => callers.build.taken? phase
    | _ => none
  | _ => none

variable {callers} {caller : Nat} {call : AwaitCall ρ}

/-- What the call that owns the sweep has in hand is all that sweeps have in hand, before a step of
the call and after it. -/
theorem hand_of_owner (books : callers.standing.Books)
    (found : callers.calls[caller]? = some call) (owner : call.phase.ownsSweep = true) :
    callers.hand = call.phase.hand? ∧
      ∀ next : Phase ρ, (callers.phases.set caller next).findSome? Phase.hand? = next.hand? := by
  obtain ⟨front, back, split, rfl⟩ := callers.exists_split found
  have sole := books.sole_owner split owner
  have empty (others : List (Phase ρ)) (among : ∀ other ∈ others, other ∈ front ++ back) :
      others.findSome? Phase.hand? = none :=
    List.findSome?_eq_none_iff.mpr fun other member =>
      Phase.hand?_of_not_owner (sole other (among other member))
  have inFront := empty front fun other => List.mem_append_left back
  have behind := empty back fun other => List.mem_append_right front
  have own (next : Phase ρ) :
      (front ++ next :: back).findSome? Phase.hand? = next.hand? := by
    rw [List.findSome?_append, inFront, List.findSome?_cons]
    cases next.hand? <;> simp [behind]
  refine ⟨?_, fun next => ?_⟩
  · rw [hand, split, own]
  · rw [set_split split, own]

/-- A call that takes nothing in hand and lays nothing down changes nothing in the hands of
sweeps. -/
theorem hand_set (found : callers.calls[caller]? = some call) {next : Phase ρ}
    (same : next.hand? = call.phase.hand?) :
    (callers.phases.set caller next).findSome? Phase.hand? = callers.hand := by
  obtain ⟨front, back, split, rfl⟩ := callers.exists_split found
  rw [hand, set_split split, split, List.findSome?_append, List.findSome?_append,
    List.findSome?_cons, List.findSome?_cons, same]

end Callers

/-- The callers of a build, and the launchers that their sweeps have taken so far, in the order in
which they were taken. -/
structure Custody (σ ρ : Type) where
  callers : Callers σ ρ
  taken : List LauncherId := []

namespace Custody

/-- A new build without callers. -/
def start (name : BuildId) (projectDir : String) (factory : LauncherFactory σ ρ)
    (launchers : σ) : Custody σ ρ where
  callers := .start name projectDir factory launchers

/-- Let something happen, and note which launcher it takes. -/
def step (custody : Custody σ ρ) (action : Action σ) : Custody σ ρ where
  callers := custody.callers.step action
  taken := custody.taken ++ (custody.callers.taken? action).toList

/-- Let things happen one after the other. -/
def run (custody : Custody σ ρ) (actions : List (Action σ)) : Custody σ ρ :=
  actions.foldl step custody

/-- Noting which launchers are taken changes nothing for the callers. -/
@[simp] theorem callers_run (custody : Custody σ ρ) (actions : List (Action σ)) :
    (custody.run actions).callers = custody.callers.run actions :=
  (actions.foldl_hom Custody.callers fun _ _ => rfl).symm

/-- The bench of the build. -/
def bench (custody : Custody σ ρ) : Bench σ :=
  custody.callers.build.bench custody.callers.hand custody.taken

variable (custody : Custody σ ρ) {view : σ → α}

/-- If a call moves on and nothing is taken, the bench is that of the build after the step. -/
theorem bench_step {action : Action σ} (none : custody.callers.taken? action = Option.none) :
    (custody.step action).bench =
      (custody.callers.step action).build.bench (custody.callers.step action).hand
        custody.taken := by
  simp [bench, step, none]

/-- The bench is what it was after a call was replaced by one with the same in hand. -/
theorem bench_setCall {caller : Nat} {call next : AwaitCall ρ}
    (found : custody.callers.calls[caller]? = some call)
    (same : next.phase.hand? = call.phase.hand?) :
    (custody.callers.setCall caller next).build.bench (custody.callers.setCall caller next).hand
      custody.taken = custody.bench := by
  rw [Callers.hand, Callers.phases_setCall, Callers.hand_set found same]
  rfl

/-- A call that moves on moves the bench as listed, if it does so on its own while it owns the
sweep, and leaves the bench alone otherwise. -/
theorem moves_set (books : custody.callers.standing.Books) {caller : Nat} {call : AwaitCall ρ}
    (found : custody.callers.calls[caller]? = some call) {next : Phase ρ}
    {after : IncludedBuild σ ρ} {taken : List LauncherId}
    (owning : call.phase.ownsSweep = true →
      Bench.Moves custody.callers.build.factory view
        (custody.callers.build.bench call.phase.hand? custody.taken)
        (after.bench next.hand? taken))
    (idle : call.phase.ownsSweep = false →
      after.bench custody.callers.hand taken = custody.bench ∧ next.hand? = none) :
    Bench.Moves custody.callers.build.factory view custody.bench
      (after.bench ((custody.callers.phases.set caller next).findSome? Phase.hand?) taken) := by
  cases owner : call.phase.ownsSweep with
  | true =>
    obtain ⟨before, own⟩ := Callers.hand_of_owner books found owner
    rw [own, bench, before]
    exact owning owner
  | false =>
    -- The call had nothing in hand and has nothing in hand, so the hands are those of the others.
    obtain ⟨same, silent⟩ := idle owner
    have silentBefore : call.phase.hand? = none := Phase.hand?_of_not_owner owner
    rw [Callers.hand_set found (silent.trans silentBefore.symm), same]

/-- A step of a call moves the bench as listed. -/
theorem proceed_moves (books : custody.callers.standing.Books)
    (distinct : custody.callers.standing.DistinctClaims) {caller : Nat} {phase : Phase ρ}
    (found : custody.callers.calls[caller]? = some { phase, asleep := false }) :
    Bench.Moves custody.callers.build.factory view custody.bench
      (custody.step (.proceed caller)).bench := by
  have after : (custody.step (.proceed caller)).bench =
      (custody.callers.build.proceed phase).value.2.bench
        ((custody.callers.phases.set caller
          (custody.callers.build.proceed phase).value.1).findSome? Phase.hand?)
        (custody.taken ++ (custody.callers.build.taken? phase).toList) := by
    rw [← custody.callers.phases_proceed caller phase]
    simp only [bench, step, Callers.step, Callers.taken?, found]
    rfl
  rw [after]
  refine custody.moves_set books found (fun owner => ?_) (fun idle => ?_)
  · refine custody.callers.build.proceed_moves view custody.taken owner ?_
    rintro claim rfl
    exact distinct claim (List.mem_map_of_mem (List.mem_of_getElem? found))
  · have nothing : custody.callers.build.taken? phase = none := by
      cases phase <;> simp_all [Phase.ownsSweep, IncludedBuild.taken?]
    rw [nothing, Option.toList_none, List.append_nil]
    exact custody.callers.build.proceed_bench_of_not_owner custody.callers.hand custody.taken idle

/-- A panic that ends the sweep of a call moves the bench as listed. -/
theorem abort_moves (books : custody.callers.standing.Books) {caller : Nat}
    {call : AwaitCall ρ} (found : custody.callers.calls[caller]? = some call) (message : String) :
    Bench.Moves custody.callers.build.factory view custody.bench
      (custody.step (.abort caller message)).bench := by
  have after : (custody.step (.abort caller message)).bench =
      (custody.callers.build.abort message call.phase).2.bench
        ((custody.callers.phases.set caller
          (custody.callers.build.abort message call.phase).1).findSome? Phase.hand?)
        custody.taken := by
    rw [custody.bench_step rfl]
    simp only [Callers.step, found]
    rw [← custody.callers.phases_setCall caller
      { call with phase := (custody.callers.build.abort message call.phase).1 }]
    rfl
  rw [after]
  refine custody.moves_set books found (fun owner => ?_) (fun idle => ?_)
  · exact custody.callers.build.abort_moves view custody.taken message call.phase
  · rw [custody.callers.build.abort_of_not_owner message idle]
    exact ⟨rfl, Phase.hand?_of_not_owner idle⟩

/-- **The bench moves as listed.**  Whatever happens to a build and its callers, the bench goes
through a sequence of moves. -/
theorem step_moves (books : custody.callers.standing.Books)
    (distinct : custody.callers.standing.DistinctClaims) {action : Action σ}
    (kept : action.Keeps view custody.callers) :
    Bench.Moves custody.callers.build.factory view custody.bench (custody.step action).bench := by
  cases action with
  | enter =>
    obtain ⟨same, silent⟩ :=
      custody.callers.build.enter_bench custody.callers.hand custody.taken
    have longer : (custody.callers.step .enter).hand = custody.callers.hand := by
      simp [Callers.hand, Callers.step, Callers.enter, Callers.phases, AwaitCall.settled,
        List.findSome?_append, silent]
    rw [custody.bench_step rfl, longer]
    exact .of_eq same
  | proceed caller =>
    by_cases awake : ∃ phase, custody.callers.calls[caller]? = some { phase, asleep := false }
    · obtain ⟨phase, found⟩ := awake
      exact custody.proceed_moves books distinct found
    · refine .of_eq ?_
      simp only [bench, step, Callers.step, Callers.taken?]
      split
      · next phase found => exact absurd ⟨phase, found⟩ awake
      · simp
  | wake caller =>
    rw [custody.bench_step rfl]
    simp only [Callers.step]
    split
    · next call found => exact .of_eq (custody.bench_setCall found rfl)
    · exact .refl
  | unwind caller message =>
    rw [custody.bench_step rfl]
    simp only [Callers.step]
    split
    · next call found =>
      have same := IncludedBuild.hand?_unwind message call.phase
      exact .of_eq (custody.bench_setCall found same)
    · exact .refl
  | abort caller message =>
    cases found : custody.callers.calls[caller]? with
    | some call => exact custody.abort_moves books found message
    | none =>
      rw [custody.bench_step rfl]
      simp only [Callers.step, found]
      exact .refl
  | beside side =>
    rw [custody.bench_step rfl]
    exact side.apply_moves custody.callers custody.callers.hand custody.taken kept

/-- The books of the callers are right, no claim has a path twice, and nobody has changed the
factory. -/
structure Sound (factory : LauncherFactory σ ρ) : Prop where
  factory_eq : custody.callers.build.factory = factory
  books : custody.callers.standing.Books
  distinct : custody.callers.standing.DistinctClaims

variable {custody} {factory : LauncherFactory σ ρ}

/-- Custody stays sound, whatever happens. -/
theorem Sound.step (sound : custody.Sound factory) (action : Action σ) :
    (custody.step action).Sound factory where
  factory_eq := (custody.callers.step_factory action).trans sound.factory_eq
  books := sound.books.move (custody.callers.step_move action)
  distinct := sound.distinct.move (custody.callers.step_move action)

/-- Custody of a new build is sound. -/
theorem Sound.start (name : BuildId) (projectDir : String) (factory : LauncherFactory σ ρ)
    (launchers : σ) : (start name projectDir factory launchers).Sound factory where
  factory_eq := rfl
  books := .start name projectDir factory launchers
  distinct := by simp [Standing.DistinctClaims, Custody.start, Callers.start, Callers.standing,
    Callers.phases]

/-- What every move on the bench keeps holds after every run. -/
theorem run_law (view : σ → α) {P : Bench σ → Prop} (sound : custody.Sound factory)
    (keeps : ∀ now next, Bench.Move factory view now next → P now → P next)
    {actions : List (Action σ)} (kept : custody.callers.KeptAlong view actions)
    (holds : P custody.bench) :
    (custody.run actions).Sound factory ∧ P (custody.run actions).bench := by
  induction actions generalizing custody with
  | nil => exact ⟨sound, holds⟩
  | cons action actions ih =>
    have moves := custody.step_moves sound.books sound.distinct kept.1
    rw [sound.factory_eq] at moves
    exact ih (sound.step action) kept.2 (moves.preserves keeps holds)

end Custody

end CompositeBuild
