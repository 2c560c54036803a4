import CompositeBuild.Proofs.Launchers.Bench

/-!
# The life of a launcher

The calls that a launcher gets tell its life: it is made, models are loaded through it, a sweep asks
it for tasks and runs it on them, and then it gets no further call.  `LauncherCall.Life` says which
calls a launcher has got when it has come to a stage of its life.

The lives of all launchers of a build fit together: sweeps take launchers in the order in which they
are made, so the launchers taken so far, followed by the one in the slot, are all that were ever
made.  `LauncherCall.Orderly` says so, and every call that can happen next keeps it.
-/

namespace CompositeBuild

/-! ### The life of a launcher -/

namespace LauncherCall

/-- The launcher that a call is about. -/
def launcher : LauncherCall → LauncherId
  | .create launcher | .loadSettings launcher | .configure launcher
  | .request launcher _ | .run launcher _ => launcher

/-- The launcher that a call makes. -/
def made? : LauncherCall → Option LauncherId
  | .create launcher => some launcher
  | _ => none

/-- A call that loads a model. -/
def isLoad : LauncherCall → Bool
  | .loadSettings _ | .configure _ => true
  | _ => false

/-- The calls of one launcher, in order. -/
def of (launcher : LauncherId) (calls : List LauncherCall) : List LauncherCall :=
  calls.filter (·.launcher = launcher)

/-- The launchers that were made, in order. -/
def made (calls : List LauncherCall) : List LauncherId := calls.filterMap made?

/-- The tasks that a launcher was asked for last. -/
def lastAsked (calls : List LauncherCall) (launcher : LauncherId) : List TaskPath :=
  (calls.reverse.findSome? (asked? launcher)).getD []

variable {calls : List LauncherCall} {call : LauncherCall} {number : LauncherId}

/-- A call is the last one of its launcher. -/
theorem of_concat_self (about : call.launcher = number) :
    of number (calls ++ [call]) = of number calls ++ [call] := by
  simp [of, about]

/-- A call is no matter for other launchers. -/
theorem of_concat_other (other : call.launcher ≠ number) :
    of number (calls ++ [call]) = of number calls := by
  simp [of, other]

/-- A new launcher is the last one that was made. -/
@[simp] theorem made_concat_create (calls : List LauncherCall) (launcher : LauncherId) :
    made (calls ++ [.create launcher]) = made calls ++ [launcher] := by
  simp [made, made?]

/-- Other calls make no launcher. -/
theorem made_concat (calls : List LauncherCall) (other : call.made? = none) :
    made (calls ++ [call]) = made calls := by
  simp [made, other]

/-- The launchers that were made are those with a call that makes them. -/
theorem mem_made : number ∈ made calls ↔ .create number ∈ calls := by
  constructor
  · intro member
    obtain ⟨call, inside, same⟩ := List.mem_filterMap.mp member
    cases call with
    | create launcher =>
      obtain rfl : launcher = number := by simpa [made?] using same
      exact inside
    | _ => simp [made?] at same
  · exact fun member => List.mem_filterMap.mpr ⟨.create number, member, rfl⟩

/-- What a launcher was asked for last is among its own calls. -/
theorem lastAsked_of (calls : List LauncherCall) (launcher : LauncherId) :
    lastAsked (of launcher calls) launcher = lastAsked calls launcher := by
  have own : (fun call : LauncherCall =>
      if call.launcher = launcher then asked? launcher call else none) = asked? launcher := by
    funext call
    cases call with
    | request asked tasks =>
      by_cases same : asked = launcher <;> simp [asked?, LauncherCall.launcher, same]
    | _ => simp [asked?]
  simp only [lastAsked, of, ← List.filter_reverse, ← List.head?_filterMap, List.filterMap_filter,
    decide_eq_true_eq, own]

/-- How far a launcher has come in its life. -/
inductive Stage where
  | unmade
  | made
  | asked (tasks : List TaskPath)
  | ran
  deriving DecidableEq, Repr

/-- The calls of a launcher that has come to a stage of its life. -/
inductive Life (launcher : LauncherId) : Stage → List LauncherCall → Prop
  | unmade : Life launcher .unmade []
  | create : Life launcher .made [.create launcher]
  /-- A model is loaded through it. -/
  | load {calls : List LauncherCall} {call : LauncherCall} (life : Life launcher .made calls)
      (loads : call.isLoad = true) (about : call.launcher = launcher) :
      Life launcher .made (calls ++ [call])
  /-- A sweep asks it for tasks. -/
  | request {calls : List LauncherCall} {tasks : List TaskPath} (life : Life launcher .made calls)
      (something : tasks ≠ []) (once : tasks.Nodup) :
      Life launcher (.asked tasks) (calls ++ [.request launcher tasks])
  /-- The sweep runs it on these tasks. -/
  | run {calls : List LauncherCall} {tasks : List TaskPath}
      (life : Life launcher (.asked tasks) calls) :
      Life launcher .ran (calls ++ [.run launcher tasks])

/-- All calls of a launcher that is used, given the models that are loaded through it and the tasks
that it is run on. -/
def wholeLife (launcher : LauncherId) (loads : List LauncherCall) (tasks : List TaskPath) :
    List LauncherCall :=
  .create launcher :: loads ++ [.request launcher tasks, .run launcher tasks]

/-- The calls of a launcher are the beginning of a life in which it is made, models are loaded
through it any number of times, and it is asked for tasks and run on them once. -/
def UsedOnce (launcher : LauncherId) (calls : List LauncherCall) : Prop :=
  ∃ loads tasks, (∀ call ∈ loads, call = .loadSettings launcher ∨ call = .configure launcher) ∧
    tasks ≠ [] ∧ tasks.Nodup ∧ of launcher calls <+: wholeLife launcher loads tasks

namespace Life

/-- A launcher without calls has not been made. -/
theorem unmade_or_mem {stage : Stage} (life : Life number stage calls) :
    stage = .unmade ∧ calls = [] ∨ .create number ∈ calls := by
  induction life with
  | unmade => exact .inl ⟨rfl, rfl⟩
  | create => exact .inr (List.mem_singleton_self _)
  | load life loads about ih => exact .inr (List.mem_append_left _ (ih.resolve_left (by simp)))
  | request life something once ih =>
    exact .inr (List.mem_append_left _ (ih.resolve_left (by simp)))
  | run life ih => exact .inr (List.mem_append_left _ (ih.resolve_left (by simp)))

/-- A launcher that has only been made has got calls that load models. -/
theorem loads_of_made (life : Life number .made calls) :
    ∃ loads, (∀ call ∈ loads, call = .loadSettings number ∨ call = .configure number) ∧
      calls = .create number :: loads := by
  generalize standing : Stage.made = stage at life
  induction life with
  | create => exact ⟨[], by simp, rfl⟩
  | @load calls call life loads about ih =>
    obtain ⟨earlier, loading, rfl⟩ := ih rfl
    refine ⟨earlier ++ [call], ?_, rfl⟩
    intro other member
    rcases List.mem_append.mp member with before | last
    · exact loading other before
    · obtain rfl := List.mem_singleton.mp last
      cases other <;> simp_all [isLoad, launcher]
  | unmade => simp at standing
  | request life something once ih => simp at standing
  | run life ih => simp at standing

/-- A launcher that has been asked for tasks has got that call last. -/
theorem request_of_asked {tasks : List TaskPath} (life : Life number (.asked tasks) calls) :
    tasks ≠ [] ∧ tasks.Nodup ∧ ∃ loads,
      (∀ call ∈ loads, call = .loadSettings number ∨ call = .configure number) ∧
      calls = .create number :: loads ++ [.request number tasks] := by
  cases life with
  | request life something once =>
    obtain ⟨loads, loading, rfl⟩ := life.loads_of_made
    exact ⟨something, once, loads, loading, rfl⟩

/-- What a launcher was asked for last are the tasks of its life. -/
theorem lastAsked_of_asked {tasks : List TaskPath}
    (life : Life number (.asked tasks) (of number calls)) : lastAsked calls number = tasks := by
  obtain ⟨-, -, loads, -, same⟩ := life.request_of_asked
  rw [← lastAsked_of, same]
  simp [lastAsked, asked?]

/-- Whatever its stage, a launcher has been used once at most. -/
theorem usedOnce {stage : Stage} (life : Life number stage (of number calls)) :
    UsedOnce number calls := by
  unfold UsedOnce
  generalize of number calls = lived at life
  -- Some tasks are needed to write down the rest of a life that has not come to its run.
  have someTasks : ∃ tasks : List TaskPath, tasks ≠ [] ∧ tasks.Nodup :=
    ⟨[{ text := ":", qualified := by decide }], by simp, by simp⟩
  cases stage with
  | unmade =>
    obtain ⟨tasks, something, once⟩ := someTasks
    cases life
    exact ⟨[], tasks, by simp, something, once, List.nil_prefix⟩
  | made =>
    obtain ⟨tasks, something, once⟩ := someTasks
    obtain ⟨loads, loading, rfl⟩ := life.loads_of_made
    exact ⟨loads, tasks, loading, something, once, List.prefix_append _ _⟩
  | asked tasks =>
    obtain ⟨something, once, loads, loading, rfl⟩ := life.request_of_asked
    exact ⟨loads, tasks, loading, something, once, [.run number tasks], by simp [wholeLife]⟩
  | ran =>
    cases life with
    | run life =>
      obtain ⟨something, once, loads, loading, rfl⟩ := life.request_of_asked
      exact ⟨loads, _, loading, something, once, [], by simp [wholeLife]⟩

/-- The life of a launcher after a call of its own. -/
theorem concat {stage : Stage} (life : Life number stage (of number calls ++ [call]))
    (about : call.launcher = number) : Life number stage (of number (calls ++ [call])) := by
  rw [of_concat_self about]
  exact life

end Life

end LauncherCall

/-! ### Order among launchers -/

/-- What a sweep has in hand is a launcher that was taken and is as far in its life as the sweep
needs it to be. -/
def Hand.Fits (taken : List LauncherId) (calls : List LauncherCall) : Hand → Prop
  | .taken launcher tasks =>
    launcher ∈ taken ∧ tasks ≠ [] ∧ tasks.Nodup ∧
      LauncherCall.Life launcher .made (LauncherCall.of launcher calls)
  | .asked launcher =>
    launcher ∈ taken ∧
      ∃ tasks, LauncherCall.Life launcher (.asked tasks) (LauncherCall.of launcher calls)

namespace LauncherCall

/-- The calls of launchers are in order with what is held in the slot, with what the sweep in flight
has in hand, and with what sweeps have taken. -/
structure Orderly (calls : List LauncherCall) (held : Option LauncherId) (hand : Option Hand)
    (taken : List LauncherId) : Prop where
  /-- Launchers are numbered as they are made. -/
  numbered : made calls = List.range' 1 (made calls).length
  /-- Launchers are taken as they are made. -/
  custody : made calls = taken ++ held.toList
  lives : ∀ launcher, ∃ stage, Life launcher stage (of launcher calls)
  /-- The launcher in the slot waits for a sweep. -/
  waits : ∀ launcher, held = some launcher → Life launcher .made (of launcher calls)
  fits : ∀ item, hand = some item → item.Fits taken calls

namespace Orderly

variable {calls : List LauncherCall} {held : Option LauncherId} {hand : Option Hand}
  {taken : List LauncherId} {launcher : LauncherId}

/-- There are no calls in the beginning. -/
theorem nil : Orderly [] none none [] where
  numbered := rfl
  custody := rfl
  lives := fun _ => ⟨.unmade, .unmade⟩
  waits := by simp
  fits := by simp

/-- No launcher is made twice. -/
theorem nodup_made (orderly : Orderly calls held hand taken) : (made calls).Nodup := by
  rw [orderly.numbered]
  exact List.nodup_range'

/-- No launcher is taken twice, nor is one taken that is still in the slot. -/
theorem nodup_taken (orderly : Orderly calls held hand taken) :
    taken.Nodup ∧ ∀ launcher ∈ taken, held ≠ some launcher := by
  have once := orderly.nodup_made
  rw [orderly.custody] at once
  obtain ⟨takenOnce, -, apart⟩ := List.nodup_append.mp once
  refine ⟨takenOnce, ?_⟩
  rintro launcher member rfl
  exact apart launcher member launcher (by simp) rfl

/-- A launcher that was taken is no longer in the slot. -/
theorem not_mem_taken (orderly : Orderly calls (some launcher) hand taken) :
    launcher ∉ taken :=
  fun member => orderly.nodup_taken.2 launcher member rfl

/-- The launcher in the slot is the one that was made and not taken. -/
theorem untaken_iff (orderly : Orderly calls held hand taken) :
    .create launcher ∈ calls ∧ launcher ∉ taken ↔ held = some launcher := by
  rw [← mem_made, orderly.custody, List.mem_append, Option.mem_toList]
  constructor
  · rintro ⟨member, untaken⟩
    exact member.resolve_left untaken
  · intro inSlot
    exact ⟨.inr inSlot, fun member => orderly.nodup_taken.2 launcher member inSlot⟩

/-- The launcher in the slot is the one that was made last. -/
theorem getLast?_made (orderly : Orderly calls (some launcher) hand taken) :
    (made calls).getLast? = some launcher := by
  rw [orderly.custody]
  simp

/-- The next launcher has not been called. -/
theorem of_next (orderly : Orderly calls held hand taken)
    (next : launcher = (made calls).length + 1) :
    of launcher calls = [] ∧ launcher ∉ made calls := by
  have new : launcher ∉ made calls := by
    rw [orderly.numbered, next, List.mem_range'_1]
    omega
  obtain ⟨stage, life⟩ := orderly.lives launcher
  rcases life.unmade_or_mem with ⟨-, nothing⟩ | member
  · exact ⟨nothing, new⟩
  · exact absurd (mem_made.mpr (List.mem_of_mem_filter member)) new

/-- If a call takes its launcher further in its life, then all launchers have lives afterwards. -/
theorem lives_concat (orderly : Orderly calls held hand taken) {call : LauncherCall}
    {stage : Stage} (life : Life call.launcher stage (of call.launcher (calls ++ [call])))
    (number : LauncherId) : ∃ stage, Life number stage (of number (calls ++ [call])) := by
  by_cases own : call.launcher = number
  · exact ⟨stage, own ▸ life⟩
  · rw [of_concat_other own]
    exact orderly.lives number

/-- What is in hand fits as before if a launcher is called that was not taken. -/
theorem fits_concat (orderly : Orderly calls held hand taken) {call : LauncherCall}
    (other : call.launcher ∉ taken) (item : Hand) (inHand : hand = some item) :
    item.Fits taken (calls ++ [call]) := by
  have fits := orderly.fits item inHand
  cases item with
  | taken launcher tasks =>
    have different : call.launcher ≠ launcher := fun same => other (same ▸ fits.1)
    simpa only [Hand.Fits, of_concat_other different] using fits
  | asked launcher =>
    have different : call.launcher ≠ launcher := fun same => other (same ▸ fits.1)
    simpa only [Hand.Fits, of_concat_other different] using fits

/-- The launcher in the slot waits as before if a launcher is called that was taken. -/
theorem waits_concat (orderly : Orderly calls held hand taken) {call : LauncherCall}
    (other : call.launcher ∈ taken) (number : LauncherId) (inSlot : held = some number) :
    Life number .made (of number (calls ++ [call])) := by
  subst inSlot
  have different : call.launcher ≠ number := fun same => orderly.not_mem_taken (same ▸ other)
  rw [of_concat_other different]
  exact orderly.waits number rfl

/-- A launcher is made when there is none in the slot. -/
theorem make (orderly : Orderly calls none hand taken)
    (next : launcher = (made calls).length + 1) :
    Orderly (calls ++ [.create launcher]) (some launcher) hand taken := by
  obtain ⟨unused, new⟩ := orderly.of_next next
  -- With an empty slot, all launchers have been taken, so the new one is none of those in hand.
  have allTaken : made calls = taken := by simpa using orderly.custody
  have life : Life launcher .made (of launcher (calls ++ [.create launcher])) := by
    refine Life.concat ?_ rfl
    rw [unused]
    exact .create
  refine ⟨?_, ?_, orderly.lives_concat life, ?_, orderly.fits_concat (allTaken ▸ new)⟩
  · rw [made_concat_create, List.length_append, List.length_singleton, List.range'_concat,
      ← orderly.numbered, next]
    simp [Nat.add_comm]
  · rw [made_concat_create, allTaken]
    rfl
  · rintro number same
    obtain rfl := Option.some.inj same
    exact life

/-- A model is loaded through the launcher in the slot. -/
theorem load (orderly : Orderly calls (some launcher) hand taken) {call : LauncherCall}
    (loads : call.isLoad = true) (about : call.launcher = launcher) :
    Orderly (calls ++ [call]) (some launcher) hand taken := by
  subst about
  have life := ((orderly.waits _ rfl).load loads rfl).concat rfl
  have makesNone : call.made? = none := by cases call <;> simp_all [isLoad, made?]
  refine ⟨?_, ?_, orderly.lives_concat life, ?_, orderly.fits_concat orderly.not_mem_taken⟩
  · rw [made_concat calls makesNone]
    exact orderly.numbered
  · rw [made_concat calls makesNone]
    exact orderly.custody
  · rintro number same
    obtain rfl := Option.some.inj same
    exact life

/-- A sweep takes the launcher in the slot. -/
theorem take (orderly : Orderly calls (some launcher) hand taken) {tasks : List TaskPath}
    (something : tasks ≠ []) (once : tasks.Nodup) :
    Orderly calls none (some (.taken launcher tasks)) (taken ++ [launcher]) where
  numbered := orderly.numbered
  custody := by
    rw [orderly.custody]
    simp
  lives := orderly.lives
  waits := by simp
  fits := by
    rintro item inHand
    obtain rfl := Option.some.inj inHand
    exact ⟨by simp, something, once, orderly.waits launcher rfl⟩

/-- The sweep in flight asks its launcher for tasks. -/
theorem request {tasks : List TaskPath}
    (orderly : Orderly calls held (some (.taken launcher tasks)) taken) :
    Orderly (calls ++ [.request launcher tasks]) held (some (.asked launcher)) taken := by
  obtain ⟨member, something, once, life⟩ := orderly.fits _ rfl
  have asked : Life launcher (.asked tasks) (of launcher (calls ++ [.request launcher tasks])) :=
    (life.request something once).concat rfl
  refine ⟨?_, ?_, orderly.lives_concat asked, orderly.waits_concat member, ?_⟩
  · rw [made_concat calls rfl]
    exact orderly.numbered
  · rw [made_concat calls rfl]
    exact orderly.custody
  · rintro item inHand
    obtain rfl := Option.some.inj inHand
    exact ⟨member, tasks, asked⟩

/-- The sweep in flight runs its launcher on what it was asked for. -/
theorem run (orderly : Orderly calls held (some (.asked launcher)) taken) :
    Orderly (calls ++ [.run launcher (lastAsked calls launcher)]) held none taken := by
  obtain ⟨member, tasks, life⟩ := orderly.fits _ rfl
  rw [life.lastAsked_of_asked]
  refine ⟨?_, ?_, orderly.lives_concat (life.run.concat rfl), orderly.waits_concat member,
    by simp⟩
  · rw [made_concat calls rfl]
    exact orderly.numbered
  · rw [made_concat calls rfl]
    exact orderly.custody

/-- The sweep in flight lays down what it has in hand. -/
theorem drop (orderly : Orderly calls held hand taken) : Orderly calls held none taken :=
  { orderly with fits := by simp }

end Orderly

end LauncherCall

end CompositeBuild
