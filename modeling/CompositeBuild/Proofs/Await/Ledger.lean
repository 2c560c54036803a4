import CompositeBuild.Proofs.Await.Standing

/-!
# What was queued and what was claimed

The history of a build and its schedule hold the same paths: what was ever queued is what was
claimed and, behind it, what is still pending; the executed paths are what claims found fresh; and
what they found fresh, claim after claim, is the first occurrence of everything claimed
(`Standing.Ledger`).  So a claim over a queue with repetitions inside it, with repetitions of
earlier claims, or with both, leaves exactly the paths that no claim has seen.
-/

namespace CompositeBuild

variable {σ ρ : Type}

/-! ### Reading a longer history -/

namespace History

variable (history more : List Event)

@[simp] theorem pushed_append : pushed (history ++ more) = pushed history ++ pushed more := by
  simp [pushed]

@[simp] theorem claims_append : claims (history ++ more) = claims history ++ claims more := by
  simp [claims]

@[simp] theorem claimed_append : claimed (history ++ more) = claimed history ++ claimed more := by
  simp [claimed]

@[simp] theorem fresh_append : fresh (history ++ more) = fresh history ++ fresh more := by
  simp [fresh]

@[simp] theorem runs_append : runs (history ++ more) = runs history ++ runs more := by
  simp [runs]

@[simp] theorem claimsOf_append (caller : Nat) :
    claimsOf caller (history ++ more) = claimsOf caller history ++ claimsOf caller more := by
  simp [claimsOf]

@[simp] theorem callsOf_append (caller : Nat) :
    callsOf caller (history ++ more) = callsOf caller history ++ callsOf caller more := by
  simp [callsOf]

/-- A claim pushes nothing. -/
@[simp] theorem pushed_claimed (caller : Nat) (claim : Claim) :
    pushed [.claimed caller claim] = [] := rfl

@[simp] theorem claimed_claimed (caller : Nat) (claim : Claim) :
    claimed [.claimed caller claim] = claim.requested := by
  simp [claimed, claims]

@[simp] theorem fresh_claimed (caller : Nat) (claim : Claim) :
    fresh [.claimed caller claim] = claim.fresh := by
  simp [fresh, claims]

@[simp] theorem claimsOf_nil (caller : Nat) : claimsOf caller [] = [] := rfl

@[simp] theorem callsOf_nil (caller : Nat) : callsOf caller [] = [] := rfl

/-- A claim is listed under the call that made it. -/
@[simp] theorem claimsOf_claimed (caller number : Nat) (claim : Claim) :
    claimsOf caller [.claimed number claim] = if number = caller then [claim] else [] := by
  by_cases same : number = caller <;> simp [claimsOf, same]

@[simp] theorem claimsOf_called (caller number : Nat) (call : LauncherCall) :
    claimsOf caller [.called number call] = [] := rfl

@[simp] theorem callsOf_claimed (caller number : Nat) (claim : Claim) :
    callsOf caller [.claimed number claim] = [] := rfl

/-- A call of a launcher is listed under the call of await that it was made for. -/
@[simp] theorem callsOf_called (caller number : Nat) (call : LauncherCall) :
    callsOf caller [.called number call] = if number = caller then [call] else [] := by
  by_cases same : number = caller <;> simp [callsOf, same]

/-- Calls of launchers queue nothing and claim nothing. -/
theorem of_called {more : List Event} (calls : ∀ event ∈ more, ∃ caller call,
    event = .called caller call) : pushed more = [] ∧ claims more = [] := by
  constructor
  · refine List.flatMap_eq_nil_iff.mpr fun event member => ?_
    obtain ⟨caller, call, rfl⟩ := calls event member
    rfl
  · refine List.filterMap_eq_nil_iff.mpr fun event member => ?_
    obtain ⟨caller, call, rfl⟩ := calls event member
    rfl

/-- A claim in a history that was continued without claims was there before. -/
theorem claim_before {history more before after : List Event} {caller : Nat} {claim : Claim}
    (none : ∀ caller claim, Event.claimed caller claim ∉ more)
    (whole : history ++ more = before ++ .claimed caller claim :: after) :
    ∃ between, history = before ++ .claimed caller claim :: between := by
  rcases List.append_eq_append_iff.mp whole with ⟨rest, rfl, rfl⟩ | ⟨rest, rfl, continued⟩
  · exact absurd (List.mem_append_right rest (List.mem_cons_self ..)) (none caller claim)
  · cases rest with
    | nil =>
      have first : more = .claimed caller claim :: after := continued.symm
      exact absurd (first ▸ List.mem_cons_self ..) (none caller claim)
    | cons event between =>
      obtain ⟨rfl, -⟩ := List.cons.inj continued
      exact ⟨between, rfl⟩

end History

/-- Unless a waiting call claims, a step of a call adds nothing but calls of launchers. -/
theorem called_of_stepEvents (made : Bool) (history : List Event) (caller : Nat)
    {phase next : Phase ρ} (kept : next.ownsSweep = true → phase.ownsSweep = true) :
    ∀ event ∈ stepEvents made history caller phase next, ∃ caller call,
      event = .called caller call := by
  intro event member
  cases phase <;> cases next <;> simp_all [stepEvents, Phase.ownsSweep]

/-! ### First occurrences -/

/-- Among no paths but the seen ones, the fresh paths of a list are its first occurrences. -/
theorem Schedule.freshAmong_eq_eraseDups (seen paths : List TaskPath) :
    freshAmong seen paths = (paths.filter fun path => path ∉ seen).eraseDups := by
  induction paths generalizing seen with
  | nil => rfl
  | cons head rest ih =>
    unfold freshAmong
    split
    · next old => rw [ih, List.filter_cons_of_neg (by simpa using old)]
    · next new =>
      rw [ih, List.filter_cons_of_pos (by simpa using new), List.eraseDups_cons, List.filter_filter]
      congr 2
      refine List.filter_congr fun path _ => ?_
      by_cases same : path = head <;> simp [same]

/-- Fresh paths stand in the order of the list that they are taken from. -/
theorem Schedule.freshAmong_sublist (seen paths : List TaskPath) :
    (freshAmong seen paths).Sublist paths := by
  induction paths generalizing seen with
  | nil => exact .slnil
  | cons head rest ih =>
    unfold freshAmong
    split
    · exact (ih seen).cons head
    · exact (ih (head :: seen)).cons_cons head

/-- The first occurrences in a list are in its order and contain nothing twice. -/
theorem eraseDups_sublist_nodup (paths : List TaskPath) :
    paths.eraseDups.Sublist paths ∧ paths.eraseDups.Nodup := by
  have firsts : Schedule.freshAmong [] paths = paths.eraseDups := by
    rw [Schedule.freshAmong_eq_eraseDups]
    simp
  rw [← firsts]
  exact ⟨Schedule.freshAmong_sublist [] paths, Schedule.nodup_freshAmong [] paths⟩

/-- What a claim finds fresh continues the first occurrences of the paths claimed before. -/
theorem Schedule.eraseDups_append_fresh {claimed executed : List TaskPath}
    (known : executed = claimed.eraseDups) (pending : List TaskPath) :
    (claimed ++ pending).eraseDups = executed ++ freshAmong executed pending := by
  have seen : ∀ path, path ∈ executed ↔ path ∈ claimed := by
    intro path
    rw [known, List.mem_eraseDups]
  rw [freshAmong_congr pending seen, freshAmong_eq_eraseDups, known, List.eraseDups_append]
  congr 2
  refine List.filter_congr fun path _ => ?_
  by_cases member : path ∈ claimed <;> simp [member]

/-! ### The ledger -/

namespace Standing

/-- The history and the schedule agree on what was queued, claimed and found fresh, and every claim
took all paths that had been queued before it and not been claimed, and no others. -/
structure Ledger (now : Standing ρ) : Prop where
  queue : History.pushed now.history = History.claimed now.history ++ now.schedule.pending
  executed : now.schedule.executed = History.fresh now.history
  firsts : History.fresh now.history = (History.claimed now.history).eraseDups
  snapshots : ∀ before caller claim after,
    now.history = before ++ .claimed caller claim :: after →
      History.pushed before = History.claimed before ++ claim.requested

namespace Ledger

variable {now next : Standing ρ}

/-- The ledger of a new build is right. -/
theorem start (name : BuildId) (projectDir : String) (factory : LauncherFactory σ ρ)
    (launchers : σ) : Ledger (Callers.start name projectDir factory launchers).standing where
  queue := rfl
  executed := rfl
  firsts := rfl
  snapshots := fun before caller claim after whole => by
    simp [Callers.standing, Callers.start] at whole

/-- A history that goes on without claims keeps the ledger right as long as what it pushes is
pending. -/
theorem extend (ledger : Ledger now) {more : List Event} (none : History.claims more = [])
    (pending : next.schedule.pending = now.schedule.pending ++ History.pushed more)
    (executed : next.schedule.executed = now.schedule.executed)
    (history : next.history = now.history ++ more) : Ledger next where
  queue := by
    simp [history, pending, ledger.queue, History.claimed, none]
  executed := by
    simp [history, executed, ledger.executed, History.fresh, none]
  firsts := by
    simpa [history, History.fresh, History.claimed, none] using ledger.firsts
  snapshots := by
    intro before caller claim after whole
    have absent : ∀ caller claim, Event.claimed caller claim ∉ more := by
      intro caller claim member
      exact absurd (List.filterMap_eq_nil_iff.mp none _ member) (by simp)
    rw [history] at whole
    obtain ⟨between, earlier⟩ := History.claim_before absent whole
    exact ledger.snapshots before caller claim between earlier

/-- A claim keeps the ledger right. -/
theorem claim (ledger : Ledger now) (schedule : Schedule) (caller : Nat)
    (pending : schedule.pending = now.schedule.pending)
    (executed : schedule.executed = now.schedule.executed)
    (claims : next.schedule = schedule.claim.2)
    (history : next.history = now.history ++ [.claimed caller schedule.claim.1]) :
    Ledger next where
  queue := by
    simp [history, claims, Schedule.claim, pending, ledger.queue]
  executed := by
    simp [history, claims, Schedule.claim, pending, executed, ledger.executed]
  firsts := by
    have known : now.schedule.executed = (History.claimed now.history).eraseDups :=
      ledger.executed.trans ledger.firsts
    have continued := Schedule.eraseDups_append_fresh known now.schedule.pending
    simp [history, Schedule.claim, pending, executed, continued, ← ledger.executed]
  snapshots := by
    intro before other taken after whole
    rw [history] at whole
    rcases List.eq_nil_or_concat after with rfl | ⟨between, last, rfl⟩
    · obtain ⟨rfl, same⟩ := List.append_inj' whole rfl
      obtain ⟨-, rfl⟩ : caller = other ∧ schedule.claim.1 = taken := by simpa using same
      simpa [Schedule.claim, pending] using ledger.queue
    · have earlier : now.history = before ++ .claimed other taken :: between := by
        have regrouped : now.history ++ [.claimed caller schedule.claim.1] =
            (before ++ .claimed other taken :: between) ++ [last] := by simpa using whole
        exact (List.append_inj' regrouped rfl).1
      exact ledger.snapshots before other taken between earlier

/-- Every move keeps the ledger right. -/
theorem move {mayAbort : Bool} (ledger : Ledger now) (move : Move mayAbort now next) :
    Ledger next := by
  cases move with
  | stay => exact ledger
  | push paths poison =>
    have pushed : History.pushed [.pushed paths] = paths := List.append_nil _
    exact ledger.extend rfl (congrArg (now.schedule.pending ++ ·) pushed.symm) rfl rfl
  | join busy =>
    have nothing : now.history = now.history ++ [] := (List.append_nil _).symm
    exact ledger.extend rfl (List.append_nil _).symm rfl nothing
  | claim idle => exact ledger.claim now.schedule now.phases.length rfl rfl rfl rfl
  | @proceed name front back phase next after made split step =>
    rcases step.claims_or_keeps with ⟨rfl, rfl, rfl⟩ | ⟨kept, pending, executed⟩
    · exact ledger.claim now.schedule.leave front.length rfl rfl rfl rfl
    · obtain ⟨pushesNone, claimsNone⟩ := History.of_called
        (called_of_stepEvents made now.history front.length kept)
      refine ledger.extend claimsNone ?_ executed rfl
      rw [pushesNone, List.append_nil]
      exact pending
  | unwind message split => exact ⟨ledger.queue, ledger.executed, ledger.firsts, ledger.snapshots⟩
  | abort message allowed split owner =>
    exact ⟨ledger.queue, ledger.executed, ledger.firsts, ledger.snapshots⟩

end Ledger

end Standing

end CompositeBuild
