import CompositeBuild.Proofs.Registry.CycleSearch

/-!
# Looking for a cycle, recursively

The search for a cycle can be told as a recursion that visits builds.  All of it shares one list of
the builds that were visited and one chain of builds that leads to where it stands.  A build that is
visited joins both, and its targets are tried in turn; if the goal is behind none of them, the build
is taken off the chain again, while it stays visited (`Dependencies.Tries`).

This recursion ends on every graph, because each descent visits a build that was not visited before
(`Dependencies.exists_tries`).  When it gives up, the chain is what it was at the beginning
(`Dependencies.Tries.chain_eq`).  `Dependencies.walk` keeps the same chain on its stack and enters
the same builds, apart from builds without targets, so it returns what the recursion ends with
(`Dependencies.findCycle_of_tries`).
-/

namespace CompositeBuild.Dependencies

/-! ### The recursion -/

/-- Trying targets in turn until `goal` is found: the builds visited so far, the chain so far and
the targets, and then whether the goal was found, with the visited builds and the chain of that
moment. -/
inductive Tries (deps : Dependencies) (goal : BuildId) :
    List BuildId → List BuildId → List BuildId → Bool → List BuildId → List BuildId → Prop
  /-- No target is left. -/
  | exhaust {visited chain : List BuildId} :
      Tries deps goal visited chain [] false visited chain
  /-- The next target is the goal. -/
  | arrive {visited chain untried : List BuildId} :
      Tries deps goal visited chain (goal :: untried) true visited (chain ++ [goal])
  /-- The next target was visited before. -/
  | skip {visited chain untried visited' chain' : List BuildId} {next : BuildId} {found : Bool}
      (apart : next ≠ goal) (old : next ∈ visited)
      (rest : Tries deps goal visited chain untried found visited' chain') :
      Tries deps goal visited chain (next :: untried) found visited' chain'
  /-- The next target is visited, and the goal is behind it. -/
  | descend {visited chain untried visited' chain' : List BuildId} {next : BuildId}
      (apart : next ≠ goal) (new : next ∉ visited)
      (inside : Tries deps goal (next :: visited) (chain ++ [next]) (deps.targets next)
        true visited' chain') :
      Tries deps goal visited chain (next :: untried) true visited' chain'
  /-- The next target is visited, the goal is not behind it, and the target is taken off again. -/
  | retreat {visited chain untried middle tried visited' chain' : List BuildId} {next : BuildId}
      {found : Bool} (apart : next ≠ goal) (new : next ∉ visited)
      (inside : Tries deps goal (next :: visited) (chain ++ [next]) (deps.targets next)
        false middle tried)
      (rest : Tries deps goal middle tried.dropLast untried found visited' chain') :
      Tries deps goal visited chain (next :: untried) found visited' chain'

variable {deps : Dependencies} {goal : BuildId}
  {visited chain targets visited' chain' : List BuildId} {found : Bool}

/-- A build that is not listed as a source has no targets. -/
theorem targets_of_not_mem_sources {build : BuildId} (unlisted : build ∉ deps.sources) :
    deps.targets build = [] := by
  refine List.eq_nil_iff_forall_not_mem.mpr fun target member => unlisted ?_
  exact mem_sources_of_hasEdge (member : deps.HasEdge build target)

namespace Tries

/-- What was visited stays visited. -/
theorem visited_subset (tries : Tries deps goal visited chain targets found visited' chain') :
    visited ⊆ visited' := by
  induction tries with
  | exhaust => exact List.Subset.refl _
  | arrive => exact List.Subset.refl _
  | skip apart old rest ih => exact ih
  | descend apart new inside ih => exact fun build member => ih (List.mem_cons_of_mem _ member)
  | retreat apart new inside rest ihInside ihRest =>
    exact fun build member => ihRest (ihInside (List.mem_cons_of_mem _ member))

/-- A search that fails leaves the chain as it was. -/
theorem chain_eq (tries : Tries deps goal visited chain targets found visited' chain')
    (failed : found = false) : chain' = chain := by
  induction tries with
  | exhaust => rfl
  | arrive => cases failed
  | skip apart old rest ih => exact ih failed
  | descend apart new inside ih => cases failed
  | retreat apart new inside rest ihInside ihRest =>
    rw [ihRest failed, ihInside rfl, List.dropLast_concat]

end Tries

/-! ### The recursion ends -/

/-- The builds with targets that were not visited. -/
def unvisited (deps : Dependencies) (visited : List BuildId) : List BuildId :=
  deps.sources.filter (· ∉ visited)

/-- The more was visited, the less is unvisited. -/
theorem length_unvisited_le (deps : Dependencies) (more : visited ⊆ visited') :
    (deps.unvisited visited').length ≤ (deps.unvisited visited).length := by
  refine (List.monotone_filter_right _ fun build unseen => ?_).length_le
  simp only [decide_eq_true_eq] at unseen ⊢
  exact fun member => unseen (more member)

/-- Visiting a build with targets leaves less unvisited. -/
theorem length_unvisited_lt {next : BuildId} (source : next ∈ deps.sources)
    (new : next ∉ visited) :
    (deps.unvisited (next :: visited)).length < (deps.unvisited visited).length := by
  have here : next ∈ deps.unvisited visited := by simp [unvisited, source, new]
  have less : deps.unvisited (next :: visited) = (deps.unvisited visited).filter (· ≠ next) := by
    simp [unvisited, List.filter_filter, not_or]
  rw [less]
  exact List.length_filter_lt_length_iff_exists.mpr ⟨next, here, by simp⟩

/-- **The recursion ends**, on every graph and from wherever it stands. -/
theorem exists_tries (deps : Dependencies) (goal : BuildId) (visited chain : List BuildId) :
    ∀ targets, ∃ found visited' chain', Tries deps goal visited chain targets found visited' chain'
  | [] => ⟨_, _, _, .exhaust⟩
  | next :: untried => by
    by_cases same : next = goal
    · subst same
      exact ⟨_, _, _, .arrive⟩
    by_cases old : next ∈ visited
    · obtain ⟨found, visited', chain', rest⟩ := exists_tries deps goal visited chain untried
      exact ⟨_, _, _, .skip same old rest⟩
    obtain ⟨found, middle, tried, inside⟩ :=
      exists_tries deps goal (next :: visited) (chain ++ [next]) (deps.targets next)
    cases found with
    | true => exact ⟨_, _, _, .descend same old inside⟩
    | false =>
      have more : (deps.unvisited middle).length ≤ (deps.unvisited visited).length :=
        length_unvisited_le deps fun build member =>
          inside.visited_subset (List.mem_cons_of_mem _ member)
      obtain ⟨found, visited', chain', rest⟩ := exists_tries deps goal middle tried.dropLast untried
      exact ⟨_, _, _, .retreat same old inside rest⟩
termination_by targets => ((deps.unvisited visited).length, targets.length)
decreasing_by
  · exact .right _ (by simp)
  · -- A build without targets may be visited too; then nothing is left to try inside.
    by_cases source : next ∈ deps.sources
    · exact .left _ _ (length_unvisited_lt source old)
    · have equal : deps.unvisited (next :: visited) = deps.unvisited visited := by
        refine List.filter_congr fun build listed => ?_
        have other : build ≠ next := fun same => source (same ▸ listed)
        simp [other]
      rw [equal, targets_of_not_mem_sources source]
      exact .right _ (by simp)
  · rcases Nat.lt_or_eq_of_le more with less | equal
    · exact .left _ _ less
    · rw [equal]
      exact .right _ (by simp)

/-! ### The walk is the recursion -/

/-- The builds that a walk has still to enter are those with targets that were not visited. -/
structure IsFresh (deps : Dependencies) (visited fresh : List BuildId) : Prop where
  nodup : fresh.Nodup
  mem_iff : ∀ build, build ∈ fresh ↔ build ∈ deps.sources ∧ build ∉ visited

namespace IsFresh

variable {fresh : List BuildId} {next : BuildId}

/-- Visiting a build is entering it, if it has targets. -/
theorem erase (isFresh : IsFresh deps visited fresh) :
    IsFresh deps (next :: visited) (fresh.erase next) where
  nodup := isFresh.nodup.erase next
  mem_iff build := by
    rw [isFresh.nodup.mem_erase_iff, isFresh.mem_iff, List.mem_cons, not_or]
    exact and_left_comm

/-- A walk does not enter a build without targets. -/
theorem visit (isFresh : IsFresh deps visited fresh) (unlisted : next ∉ deps.sources) :
    IsFresh deps (next :: visited) fresh := by
  have absent : next ∉ fresh := fun member => unlisted ((isFresh.mem_iff next).mp member).1
  have entered : IsFresh deps (next :: visited) (fresh.erase next) := isFresh.erase
  rwa [List.erase_of_not_mem absent] at entered

end IsFresh

/-- A walk that tries the targets of a build arrives if the recursion does, by the same chain, and
goes on from the build below otherwise. -/
theorem walk_of_tries (tries : Tries deps goal visited chain targets found visited' chain')
    {fresh : List BuildId} (isFresh : IsFresh deps visited fresh) {build : BuildId}
    {path : List (BuildId × List BuildId)} (stack : chain = (build :: path.map (·.1)).reverse) :
    ∃ fresh', IsFresh deps visited' fresh' ∧
      deps.walk goal fresh ((build, targets) :: path) =
        if found then some chain' else deps.walk goal fresh' path := by
  induction tries generalizing fresh build path with
  | exhaust => exact ⟨fresh, isFresh, by rw [walk]; rfl⟩
  | arrive => exact ⟨fresh, isFresh, by rw [walk, if_pos rfl, stack]; rfl⟩
  | skip apart old rest ih =>
    obtain ⟨fresh', isFresh', same⟩ := ih isFresh stack
    refine ⟨fresh', isFresh', ?_⟩
    rw [walk, if_neg apart, if_neg fun member => ((isFresh.mem_iff _).mp member).2 old]
    exact same
  | @descend visited chain untried visited' chain' next apart new inside ih =>
    by_cases source : next ∈ deps.sources
    · have longer : chain ++ [next] = (next :: ((build, untried) :: path).map (·.1)).reverse := by
        simp [stack]
      obtain ⟨fresh', isFresh', same⟩ := ih isFresh.erase longer
      refine ⟨fresh', isFresh', ?_⟩
      rw [walk, if_neg apart, if_pos ((isFresh.mem_iff next).mpr ⟨source, new⟩)]
      exact same
    · rw [targets_of_not_mem_sources source] at inside
      cases inside
  | @retreat visited chain untried middle tried visited' chain' next found apart new inside rest
      ihInside ihRest =>
    have restored : tried.dropLast = chain := by
      rw [inside.chain_eq rfl, List.dropLast_concat]
    by_cases source : next ∈ deps.sources
    · have longer : chain ++ [next] = (next :: ((build, untried) :: path).map (·.1)).reverse := by
        simp [stack]
      obtain ⟨between, isFreshBetween, entered⟩ := ihInside isFresh.erase longer
      obtain ⟨fresh', isFresh', same⟩ := ihRest isFreshBetween (restored.trans stack)
      refine ⟨fresh', isFresh', ?_⟩
      rw [walk, if_neg apart, if_pos ((isFresh.mem_iff next).mpr ⟨source, new⟩), entered]
      exact same
    · have passed : middle = next :: visited := by
        rw [targets_of_not_mem_sources source] at inside
        cases inside
        rfl
      subst passed
      obtain ⟨fresh', isFresh', same⟩ := ihRest (isFresh.visit source) (restored.trans stack)
      refine ⟨fresh', isFresh', ?_⟩
      rw [walk, if_neg apart, if_neg fun member => source ((isFresh.mem_iff next).mp member).1]
      exact same

/-- What the recursion ends with, begun at the target of an edge, is what the search returns. -/
theorem findCycle_of_tries {source target : BuildId} (apart : source ≠ target)
    (tries : Tries deps source [target] [target] (deps.targets target) found visited' chain') :
    deps.findCycle source target = if found then some chain' else none := by
  have isFresh : IsFresh deps [target] (deps.sources.erase target) :=
    { nodup := deps.nodup_sources.erase target
      mem_iff := fun build => by
        rw [deps.nodup_sources.mem_erase_iff, List.mem_singleton]
        exact and_comm }
  have stack : [target] = (target :: ([] : List (BuildId × List BuildId)).map (·.1)).reverse := rfl
  obtain ⟨fresh', -, same⟩ := walk_of_tries tries isFresh stack
  rw [findCycle, if_neg apart, same, walk]

end CompositeBuild.Dependencies
