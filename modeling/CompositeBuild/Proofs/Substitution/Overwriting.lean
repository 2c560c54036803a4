import CompositeBuild.Proofs.Substitution.Writing
import Mathlib.Data.Finset.Card
import Mathlib.Data.List.Induction

/-!
# Rule sets as maps

A rule set is a list, but it is read as a map from modules to projects.  Whoever writes rules may
call for any number of them, and a call that is refused leaves the rules as they are
(`DependencySubstitutions.tryWrite`).

What calls leave behind is told by their places: for every module, where the last call stands that
wrote a rule for it (`DependencySubstitutions.IsLastWrite`).  Exactly these rules are listed, in the
order of their places (`DependencySubstitutions.Lists`).  One more call keeps that up, because it
takes the rule for its module out of the list before it adds its own at the end
(`DependencySubstitutions.Lists.concat`).
-/

namespace CompositeBuild.DependencySubstitutions

variable {build : BuildId} {subs : DependencySubstitutions} {calls : List (String × String)}
  {call : String × String} {place : Nat} {id : ModuleId} {project : String}

/-! ### Calls -/

/-- The module that a call writes a rule for, unless the call is refused. -/
def written? (call : String × String) : Option ModuleId :=
  if IsQualified call.2 then ModuleId.parse? call.1 else none

/-- The rule set after a call: what the call returns, or what was there before if it is refused. -/
def tryWrite (subs : DependencySubstitutions) (call : String × String) : DependencySubstitutions :=
  match subs.substitute call.1 call.2 with
  | .ok next => next
  | .error _ => subs

/-- The rule set of a build after calls, from the empty one on. -/
def ofCalls (build : BuildId) (calls : List (String × String)) : DependencySubstitutions :=
  calls.foldl tryWrite { build }

/-- The last call meets the rule set that the calls before it have left. -/
theorem ofCalls_concat (build : BuildId) (calls : List (String × String))
    (call : String × String) :
    ofCalls build (calls ++ [call]) = (ofCalls build calls).tryWrite call :=
  List.foldl_append

/-- What a call has to be to write a rule for a module. -/
theorem written?_eq_some_iff :
    written? call = some id ↔ ModuleId.parse? call.1 = some id ∧ IsQualified call.2 := by
  unfold written?
  split
  · next qualified => simp [qualified]
  · next unqualified => simp [unqualified]

/-- A call is granted, by whatever rule set, exactly if it writes a rule for some module. -/
theorem isOk_iff_written (subs : DependencySubstitutions) (call : String × String) :
    (∃ next, subs.substitute call.1 call.2 = .ok next) ↔ ∃ id, written? call = some id := by
  simp only [isOk_substitute, IsWritable, Option.isSome_iff_exists, written?_eq_some_iff,
    exists_and_right]

/-- A call that is granted writes the rule for its module. -/
theorem tryWrite_of_written (writes : written? call = some id) (subs : DependencySubstitutions) :
    subs.tryWrite call = subs.write id call.2 := by
  obtain ⟨parsed, qualified⟩ := written?_eq_some_iff.mp writes
  rw [tryWrite, substitute_of_parse parsed qualified]

/-- A call that is refused changes nothing. -/
theorem tryWrite_of_refused (refused : written? call = none) (subs : DependencySubstitutions) :
    subs.tryWrite call = subs := by
  unfold tryWrite
  split
  · next next granted =>
    obtain ⟨id, writes⟩ := (isOk_iff_written subs call).mp ⟨next, granted⟩
    rw [refused] at writes
    cases writes
  · rfl

/-! ### Last writes -/

/-- The call at a place writes a rule for a module, with the given project, and no later one writes
a rule for it. -/
structure IsLastWrite (calls : List (String × String)) (place : Nat) (id : ModuleId)
    (project : String) : Prop where
  writes : ∃ call, calls[place]? = some call ∧ written? call = some id ∧ call.2 = project
  last : ∀ later call, place < later → calls[later]? = some call → written? call ≠ some id

namespace IsLastWrite

/-- The place of a last write is one of the calls. -/
theorem place_lt (isLast : IsLastWrite calls place id project) : place < calls.length := by
  obtain ⟨call, here, -⟩ := isLast.writes
  exact (List.getElem?_eq_some_iff.mp here).1

/-- A call that writes a rule is the last one that does, if nothing comes behind it. -/
theorem concat_self (writes : written? call = some id) :
    IsLastWrite (calls ++ [call]) calls.length id call.2 where
  writes := ⟨call, List.getElem?_concat_length, writes, rfl⟩
  last := by
    intro later other behind there
    have inside := (List.getElem?_eq_some_iff.mp there).1
    rw [List.length_append, List.length_singleton] at inside
    omega

/-- A call that writes no rule for a module leaves the last write for it where it is. -/
theorem concat_other (other : written? call ≠ some id) :
    IsLastWrite (calls ++ [call]) place id project ↔ IsLastWrite calls place id project := by
  constructor
  · rintro ⟨⟨same, here, writes, given⟩, last⟩
    rw [List.getElem?_append] at here
    split at here
    · refine ⟨⟨same, here, writes, given⟩, fun later call behind there => ?_⟩
      exact last later call behind (List.getElem?_append_left
        (List.getElem?_eq_some_iff.mp there).1 ▸ there)
    · obtain rfl := List.mem_singleton.mp (List.mem_of_getElem? here)
      exact absurd writes other
  · rintro isLast
    obtain ⟨same, here, writes, given⟩ := isLast.writes
    refine ⟨⟨same, ?_, writes, given⟩, fun later one behind there => ?_⟩
    · rw [List.getElem?_append_left isLast.place_lt, here]
    · rw [List.getElem?_append] at there
      split at there
      · exact isLast.last later one behind there
      · rwa [List.mem_singleton.mp (List.mem_of_getElem? there)]

/-- The last write of a call that has just been made is that call. -/
theorem eq_of_concat (writes : written? call = some id)
    (isLast : IsLastWrite (calls ++ [call]) place id project) :
    place = calls.length ∧ project = call.2 := by
  have inside := isLast.place_lt
  rw [List.length_append, List.length_singleton] at inside
  have notBefore : ¬place < calls.length := fun before =>
    isLast.last calls.length call before List.getElem?_concat_length writes
  obtain rfl : place = calls.length := by omega
  obtain ⟨same, here, -, rfl⟩ := isLast.writes
  rw [List.getElem?_concat_length] at here
  cases here
  exact ⟨rfl, rfl⟩

end IsLastWrite

/-- One more call is the last write for the module that it writes a rule for, and leaves the last
writes for all others alone. -/
theorem isLastWrite_concat :
    IsLastWrite (calls ++ [call]) place id project ↔
      if written? call = some id then place = calls.length ∧ project = call.2
      else IsLastWrite calls place id project := by
  split
  · next writes =>
    refine ⟨IsLastWrite.eq_of_concat writes, ?_⟩
    rintro ⟨rfl, rfl⟩
    exact .concat_self writes
  · next other => exact IsLastWrite.concat_other other

/-- There is a last write for a module exactly if some call writes a rule for it. -/
theorem exists_isLastWrite_iff :
    (∃ place project, IsLastWrite calls place id project) ↔
      id ∈ calls.filterMap written? := by
  induction calls using List.reverseRecOn with
  | nil =>
    simp only [List.filterMap_nil, List.not_mem_nil, iff_false, not_exists]
    intro place project isLast
    exact absurd isLast.place_lt (Nat.not_lt_zero place)
  | append_singleton calls call ih =>
    simp only [isLastWrite_concat, List.filterMap_append, List.mem_append, ← ih]
    by_cases writes : written? call = some id
    · simp [writes]
    · simp [writes]

/-! ### What is listed -/

/-- A rule set lists calls: its rules are the last writes of the calls for all modules, in the order
of their places. -/
structure Lists (build : BuildId) (calls : List (String × String))
    (subs : DependencySubstitutions) : Prop where
  build_eq : subs.build = build
  mem_iff : ∀ id selector, (id, selector) ∈ subs.rules ↔
    selector.build = build ∧ ∃ place, IsLastWrite calls place id selector.path
  nodup : (subs.rules.map (·.1)).Nodup
  ordered : subs.rules.Pairwise fun earlier later => ∀ place after project project',
    IsLastWrite calls place earlier.1 project → IsLastWrite calls after later.1 project' →
    place < after

namespace Lists

theorem nil (build : BuildId) : Lists build [] { build } where
  build_eq := rfl
  mem_iff := by
    intro id selector
    simp only [List.not_mem_nil, false_iff, not_and, not_exists]
    intro _ place isLast
    exact absurd isLast.place_lt (Nat.not_lt_zero place)
  nodup := .nil
  ordered := .nil

/-- A call that is refused leaves the listed calls as they are. -/
theorem concat_refused (lists : Lists build calls subs) (refused : written? call = none) :
    Lists build (calls ++ [call]) subs := by
  have same (place : Nat) (id : ModuleId) (project : String) :
      IsLastWrite (calls ++ [call]) place id project ↔ IsLastWrite calls place id project :=
    IsLastWrite.concat_other (by simp [refused])
  exact
    { build_eq := lists.build_eq
      mem_iff := by simpa only [same] using lists.mem_iff
      nodup := lists.nodup
      ordered := by simpa only [same] using lists.ordered }

/-- A call that is granted is listed last, in place of an earlier one for its module. -/
theorem concat_written (lists : Lists build calls subs) (writes : written? call = some id) :
    Lists build (calls ++ [call]) (subs.write id call.2) where
  build_eq := lists.build_eq
  mem_iff := by
    intro sought selector
    simp only [write, lists.build_eq, List.mem_append, List.mem_filter, List.mem_singleton,
      lists.mem_iff, isLastWrite_concat, writes, Option.some.injEq, decide_eq_true_eq]
    by_cases same : id = sought
    · obtain ⟨owner, path⟩ := selector
      simp [same]
    · simp [same, Ne.symm same]
  nodup := by
    simp only [write, List.map_append, List.map_singleton]
    refine List.nodup_append.mpr ⟨?_, List.nodup_singleton id, ?_⟩
    · exact lists.nodup.sublist (List.filter_sublist.map _)
    · intro known kept added single same
      obtain ⟨rule, member, rfl⟩ := List.mem_map.mp kept
      rw [List.mem_singleton.mp single] at same
      simp [same] at member
  ordered := by
    have apart : ∀ rule ∈ subs.rules.filter fun rule => rule.1 ≠ id,
        ∀ place project, IsLastWrite (calls ++ [call]) place rule.1 project →
          IsLastWrite calls place rule.1 project := by
      intro rule kept place project isLast
      have other : written? call ≠ some rule.1 := by
        rw [writes, ne_eq, Option.some.injEq]
        exact fun same => by simp [same] at kept
      exact (IsLastWrite.concat_other other).mp isLast
    refine List.pairwise_append.mpr ⟨?_, List.pairwise_singleton _ _, ?_⟩
    · refine (lists.ordered.filter _).imp_of_mem ?_
      intro earlier later first second before place after project project' isFirst isSecond
      exact before place after project project' (apart earlier first place project isFirst)
        (apart later second after project' isSecond)
    · intro earlier first later new place after project project' isFirst isLater
      rw [List.mem_singleton.mp new] at isLater
      rw [(IsLastWrite.eq_of_concat writes isLater).1]
      exact (apart earlier first place project isFirst).place_lt

/-- One more call keeps up that the rules are the last writes. -/
theorem concat (lists : Lists build calls subs) (call : String × String) :
    Lists build (calls ++ [call]) (subs.tryWrite call) := by
  cases writes : written? call with
  | none =>
    rw [tryWrite_of_refused writes]
    exact lists.concat_refused writes
  | some id =>
    rw [tryWrite_of_written writes]
    exact lists.concat_written writes

/-- The rules of a build are the last writes of all calls. -/
theorem ofCalls (build : BuildId) (calls : List (String × String)) :
    Lists build calls (ofCalls build calls) := by
  induction calls using List.reverseRecOn with
  | nil => exact .nil build
  | append_singleton calls call ih =>
    rw [ofCalls_concat]
    exact ih.concat call

/-- The selector of a module is the one that is listed for it. -/
theorem find?_eq_some_iff (lists : Lists build calls subs) {selector : ProjectSelector} :
    subs.find? id = some selector ↔ (id, selector) ∈ subs.rules := by
  have nodup := lists.nodup
  unfold find?
  generalize subs.rules = rules at nodup ⊢
  induction rules with
  | nil => simp
  | cons rule rules ih =>
    obtain ⟨module, first⟩ := rule
    obtain ⟨unlisted, nodup⟩ := List.nodup_cons.mp nodup
    by_cases same : module = id
    · subst same
      have absent : (module, selector) ∉ rules := fun member =>
        unlisted (List.mem_map.mpr ⟨_, member, rfl⟩)
      simp [absent, eq_comm]
    · simpa [same, Ne.symm same] using ih nodup

/-- The listed modules are those for which some call writes a rule. -/
theorem mem_modules_iff (lists : Lists build calls subs) :
    id ∈ subs.rules.map (·.1) ↔ id ∈ calls.filterMap written? := by
  rw [← exists_isLastWrite_iff, List.mem_map]
  constructor
  · rintro ⟨⟨module, selector⟩, member, rfl⟩
    obtain ⟨-, place, isLast⟩ := (lists.mem_iff _ _).mp member
    exact ⟨place, selector.path, isLast⟩
  · rintro ⟨place, project, isLast⟩
    exact ⟨(id, ⟨build, project⟩), (lists.mem_iff _ _).mpr ⟨rfl, place, isLast⟩, rfl⟩

/-- Nothing stands for a module exactly if no call writes a rule for it. -/
theorem find?_eq_none_iff (lists : Lists build calls subs) :
    subs.find? id = none ↔ ∀ call ∈ calls, written? call ≠ some id := by
  have unlisted : subs.find? id = none ↔ id ∉ subs.rules.map (·.1) := by
    simp only [find?, Option.map_eq_none_iff, List.find?_eq_none, decide_eq_true_eq, List.mem_map,
      not_exists, not_and]
  rw [unlisted, lists.mem_modules_iff, List.mem_filterMap]
  simp only [not_exists, not_and, ne_eq]

/-- There are as many rules as modules for which some call writes one. -/
theorem size_eq (lists : Lists build calls subs) :
    subs.size = (calls.filterMap written?).toFinset.card := by
  have modules : (subs.rules.map (·.1)).toFinset = (calls.filterMap written?).toFinset := by
    ext id
    rw [List.mem_toFinset, List.mem_toFinset, lists.mem_modules_iff]
  rw [← modules, List.toFinset_card_of_nodup lists.nodup, List.length_map, size]

end Lists

/-- Calls that are refused can be left out. -/
theorem ofCalls_filter (build : BuildId) (calls : List (String × String)) :
    ofCalls build (calls.filter fun call => (written? call).isSome) = ofCalls build calls := by
  induction calls using List.reverseRecOn with
  | nil => rfl
  | append_singleton calls call ih =>
    rw [List.filter_append, ofCalls_concat]
    cases writes : written? call with
    | none =>
      rw [tryWrite_of_refused writes]
      simpa [writes] using ih
    | some id =>
      rw [← ih, ← ofCalls_concat]
      simp [writes]

/-- **A rule set is a map in the order of last writes.**  Let a build have any calls for rules,
granted or refused, from the empty rule set on.

* A call is granted, at any time, exactly if its text is coordinates of a module and its project is
  qualified, and it writes a rule for that module then.  A call that is refused changes nothing, so
  all of these can be left out.
* No module has two rules.
* What stands for a module is the project of the last call that wrote a rule for it, in the build
  itself; nothing does if there was no such call.
* The rules are listed in the order in which these last calls were made.
* There are as many rules as modules for which a rule was written.
* Every selector names the build itself and a qualified path. -/
theorem rules_are_last_writes (build : BuildId) (calls : List (String × String)) :
    let subs := ofCalls build calls
    (∀ call, (∃ next, subs.substitute call.1 call.2 = .ok next) ↔
      ∃ id, written? call = some id) ∧
    (∀ call error, subs.substitute call.1 call.2 = .error error →
      ofCalls build (calls ++ [call]) = subs) ∧
    ofCalls build (calls.filter fun call => (written? call).isSome) = subs ∧
    (subs.rules.map (·.1)).Nodup ∧
    (∀ id selector, subs.find? id = some selector ↔
      selector.build = build ∧ ∃ place, IsLastWrite calls place id selector.path) ∧
    (∀ id, subs.find? id = none ↔ ∀ call ∈ calls, written? call ≠ some id) ∧
    (∀ rule ∈ subs.rules, ∃ place, IsLastWrite calls place rule.1 rule.2.path) ∧
    (subs.rules.Pairwise fun earlier later => ∀ place after project project',
      IsLastWrite calls place earlier.1 project → IsLastWrite calls after later.1 project' →
      place < after) ∧
    subs.size = (calls.filterMap written?).toFinset.card ∧
    subs.build = build ∧
    ∀ rule ∈ subs.rules, rule.2.build = build ∧ IsQualified rule.2.path := by
  intro subs
  have lists : Lists build calls subs := .ofCalls build calls
  refine ⟨isOk_iff_written subs, fun call error refused => ?_, ofCalls_filter build calls,
    lists.nodup, fun id selector => lists.find?_eq_some_iff.trans (lists.mem_iff id selector),
    fun id => lists.find?_eq_none_iff, fun rule member => ((lists.mem_iff _ _).mp member).2,
    lists.ordered, lists.size_eq, lists.build_eq, fun rule member => ?_⟩
  · rw [ofCalls_concat, tryWrite, refused]
  · obtain ⟨own, place, isLast⟩ := (lists.mem_iff _ _).mp member
    obtain ⟨call, -, writes, given⟩ := isLast.writes
    exact ⟨own, given ▸ (written?_eq_some_iff.mp writes).2⟩

/-- The second call for the module of `core` takes the place of the first one, and two calls are
refused. -/
example :
    (ofCalls ⟨"lib"⟩ [("org:core", ":old"), ("org:cli", ":cli"), ("nonsense", ":"),
      ("org:core", ":new"), ("org:cli", "cli")]).rules =
      [(⟨"org", "cli"⟩, ⟨⟨"lib"⟩, ":cli"⟩), (⟨"org", "core"⟩, ⟨⟨"lib"⟩, ":new"⟩)] := by
  decide

end CompositeBuild.DependencySubstitutions
