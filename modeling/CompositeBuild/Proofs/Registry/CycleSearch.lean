import CompositeBuild.Proofs.Registry.Edges
import Mathlib.Data.List.Chain
import Mathlib.Logic.Relation

/-!
# Looking for a cycle

`Dependencies.findCycle` is a correct search on every graph, cyclic or not: the builds that it
returns lie on a path without repetitions from its start to its goal (`IsPath`), and if it returns
nothing, then the goal cannot be reached from the start by any number of edges.

A walk under way satisfies `Underway`.  Its stack is a path so far.  What it has left behind is
closed: an edge that leaves an entered build either has still to be tried from the stack, or leads
to an entered build that is not the goal.  So when the stack is empty, everything that can be
reached from the start has been entered, and the goal has not.
-/

namespace CompositeBuild.Dependencies

/-! ### Paths -/

/-- The builds of a chain follow the edges from its first to its last build, and none comes
twice. -/
structure IsPath (deps : Dependencies) (first last : BuildId) (chain : List BuildId) : Prop where
  head : chain.head? = some first
  last : chain.getLast? = some last
  edges : chain.IsChain deps.HasEdge
  nodup : chain.Nodup

/-- A path shows that its end can be reached from its beginning. -/
theorem IsPath.reachable {deps : Dependencies} {first last : BuildId} {chain : List BuildId}
    (path : IsPath deps first last chain) : Relation.ReflTransGen deps.HasEdge first last := by
  obtain ⟨head, ended, edges, -⟩ := path
  cases chain with
  | nil => simp at head
  | cons build rest =>
    obtain rfl : build = first := by simpa using head
    refine List.relationReflTransGen_of_exists_isChain_cons rest edges ?_
    rw [List.getLast?_eq_some_getLast (List.cons_ne_nil build rest)] at ended
    simpa using ended

/-! ### Walks under way -/

/-- What a walk from `start` to `goal` that has not met its goal knows: `fresh` lists the builds
that it has not entered, and `path` is its stack, innermost build first, with the targets of every
build that it has still to try. -/
structure Underway (deps : Dependencies) (start goal : BuildId) (fresh : List BuildId)
    (path : List (BuildId × List BuildId)) : Prop where
  edges : (path.map (·.1)).IsChain fun inner outer => deps.HasEdge outer inner
  bottom : ∀ build, (path.map (·.1)).getLast? = some build → build = start
  nodup : (path.map (·.1)).Nodup
  missed : goal ∉ path.map (·.1)
  entered : ∀ build ∈ path.map (·.1), build ∉ fresh
  begun : start ∉ fresh
  fresh_nodup : fresh.Nodup
  untried : ∀ place ∈ path, ∀ target ∈ place.2, deps.HasEdge place.1 target
  closed : ∀ build target, build ∉ fresh → deps.HasEdge build target →
    (target ≠ goal ∧ target ∉ fresh) ∨ ∃ place ∈ path, place.1 = build ∧ target ∈ place.2

namespace Underway

variable {deps : Dependencies} {start goal build next : BuildId} {fresh untried : List BuildId}
  {path : List (BuildId × List BuildId)}

/-- A walk that has tried everything has not missed its goal. -/
theorem unreachable (underway : Underway deps start goal fresh []) (apart : start ≠ goal) :
    ¬Relation.ReflTransGen deps.HasEdge start goal := by
  intro reachable
  have inside : ∀ build, Relation.ReflTransGen deps.HasEdge start build →
      build ≠ goal ∧ build ∉ fresh := by
    intro build reached
    induction reached with
    | refl => exact ⟨apart, underway.begun⟩
    | tail before edge ih =>
      rcases underway.closed _ _ ih.2 edge with there | ⟨place, none, -⟩
      · exact there
      · simp at none
  exact (inside goal reachable).1 rfl

/-- A walk that has tried all targets of a build leaves it. -/
theorem leave (underway : Underway deps start goal fresh ((build, []) :: path)) :
    Underway deps start goal fresh path where
  edges := underway.edges.tail
  bottom := by
    intro last ended
    refine underway.bottom last ?_
    cases path with
    | nil => simp at ended
    | cons place rest => simpa using ended
  nodup := (List.nodup_cons.mp underway.nodup).2
  missed := fun member => underway.missed (List.mem_cons_of_mem _ member)
  entered := fun other member => underway.entered other (List.mem_cons_of_mem _ member)
  begun := underway.begun
  fresh_nodup := underway.fresh_nodup
  untried := (List.forall_mem_cons.mp underway.untried).2
  closed := by
    intro source target old edge
    rcases underway.closed source target old edge with there | ⟨place, member, rfl, left⟩
    · exact .inl there
    · rcases List.mem_cons.mp member with rfl | deeper
      · simp at left
      · exact .inr ⟨place, deeper, rfl, left⟩

/-- A target that has been entered before is not tried again. -/
theorem pass (underway : Underway deps start goal fresh ((build, next :: untried) :: path))
    (apart : next ≠ goal) (old : next ∉ fresh) :
    Underway deps start goal fresh ((build, untried) :: path) where
  edges := underway.edges
  bottom := underway.bottom
  nodup := underway.nodup
  missed := underway.missed
  entered := underway.entered
  begun := underway.begun
  fresh_nodup := underway.fresh_nodup
  untried := by
    obtain ⟨here, below⟩ := List.forall_mem_cons.mp underway.untried
    refine List.forall_mem_cons.mpr ⟨fun target left => ?_, below⟩
    exact here target (List.mem_cons_of_mem _ left)
  closed := by
    intro source target outside edge
    rcases underway.closed source target outside edge with there | ⟨place, member, rfl, left⟩
    · exact .inl there
    · rcases List.mem_cons.mp member with rfl | deeper
      · rcases List.mem_cons.mp left with rfl | later
        · exact .inl ⟨apart, old⟩
        · exact .inr ⟨(build, untried), List.mem_cons_self .., rfl, later⟩
      · exact .inr ⟨place, List.mem_cons_of_mem _ deeper, rfl, left⟩

/-- A fresh target is entered, with all its own targets still to be tried. -/
theorem enter (underway : Underway deps start goal fresh ((build, next :: untried) :: path))
    (apart : next ≠ goal) (new : next ∈ fresh) :
    Underway deps start goal (fresh.erase next)
      ((next, deps.targets next) :: (build, untried) :: path) where
  edges := by
    have edge : deps.HasEdge build next :=
      underway.untried _ (List.mem_cons_self ..) next (List.mem_cons_self ..)
    exact List.isChain_cons_cons.mpr ⟨edge, underway.edges⟩
  bottom := by
    intro last ended
    exact underway.bottom last (by simpa using ended)
  nodup := by
    refine List.nodup_cons.mpr ⟨fun member => ?_, underway.nodup⟩
    exact underway.entered next member new
  missed := by
    intro member
    rcases List.mem_cons.mp member with rfl | deeper
    · exact apart rfl
    · exact underway.missed deeper
  entered := by
    intro other member
    rcases List.mem_cons.mp member with rfl | deeper
    · exact underway.fresh_nodup.not_mem_erase
    · exact fun stays => underway.entered other deeper (List.mem_of_mem_erase stays)
  begun := fun stays => underway.begun (List.mem_of_mem_erase stays)
  fresh_nodup := underway.fresh_nodup.erase next
  untried := by
    obtain ⟨here, below⟩ := List.forall_mem_cons.mp underway.untried
    refine List.forall_mem_cons.mpr ⟨fun target left => left, ?_⟩
    refine List.forall_mem_cons.mpr ⟨fun target left => ?_, below⟩
    exact here target (List.mem_cons_of_mem _ left)
  closed := by
    intro source target outside edge
    by_cases own : source = next
    · subst own
      exact .inr ⟨_, List.mem_cons_self .., rfl, edge⟩
    · have before : source ∉ fresh := fun stays =>
        outside ((List.mem_erase_of_ne own).mpr stays)
      rcases underway.closed source target before edge with
        ⟨other, old⟩ | ⟨place, member, rfl, left⟩
      · exact .inl ⟨other, fun stays => old (List.mem_of_mem_erase stays)⟩
      · rcases List.mem_cons.mp member with rfl | deeper
        · rcases List.mem_cons.mp left with rfl | later
          · exact .inl ⟨apart, underway.fresh_nodup.not_mem_erase⟩
          · exact .inr ⟨(build, untried), List.mem_cons_of_mem _ (List.mem_cons_self ..), rfl,
              later⟩
        · exact .inr ⟨place, List.mem_cons_of_mem _ (List.mem_cons_of_mem _ deeper), rfl, left⟩

/-- When a walk meets its goal, its stack is a path to the goal. -/
theorem arrive (underway : Underway deps start goal fresh ((build, goal :: untried) :: path)) :
    IsPath deps start goal ((build :: path.map (·.1)).reverse ++ [goal]) where
  head := by
    have bottom : ((build :: path.map (·.1)).getLast?) = some start := by
      rw [List.getLast?_eq_some_getLast (List.cons_ne_nil _ _)]
      exact congrArg some (underway.bottom _ (List.getLast?_eq_some_getLast (List.cons_ne_nil _ _)))
    rw [List.head?_append, List.head?_reverse, bottom]
    rfl
  last := by simp
  edges := by
    have edge : deps.HasEdge build goal :=
      underway.untried _ (List.mem_cons_self ..) goal (List.mem_cons_self ..)
    have turned : (goal :: build :: path.map (·.1)).IsChain fun inner outer =>
        deps.HasEdge outer inner := List.isChain_cons_cons.mpr ⟨edge, underway.edges⟩
    rw [← List.reverse_cons]
    exact List.isChain_reverse.mpr turned
  nodup := by
    rw [← List.reverse_cons]
    exact List.nodup_reverse.mpr (List.nodup_cons.mpr ⟨underway.missed, underway.nodup⟩)

end Underway

/-! ### What the search finds -/

/-- A walk under way finds a path to its goal, or there is none. -/
theorem walk_spec (deps : Dependencies) {start goal : BuildId} (apart : start ≠ goal)
    (fresh : List BuildId) (path : List (BuildId × List BuildId))
    (underway : Underway deps start goal fresh path) :
    (∃ chain, deps.walk goal fresh path = some chain ∧ IsPath deps start goal chain) ∨
      (deps.walk goal fresh path = none ∧ ¬Relation.ReflTransGen deps.HasEdge start goal) := by
  induction fresh, path using walk.induct deps goal with
  | case1 fresh =>
    right
    exact ⟨by rw [walk], underway.unreachable apart⟩
  | case2 fresh build path ih =>
    rw [walk]
    exact ih underway.leave
  | case3 fresh build untried path =>
    left
    refine ⟨_, by rw [walk, if_pos rfl], underway.arrive⟩
  | case4 fresh build next untried path other new ih =>
    rw [walk, if_neg other, if_pos new]
    exact ih (underway.enter other new)
  | case5 fresh build next untried path other old ih =>
    rw [walk, if_neg other, if_neg old]
    exact ih (underway.pass other old)

/-- A search finds a path from its target to its source, or there is none. -/
theorem findCycle_spec (deps : Dependencies) (source target : BuildId) :
    (∃ chain, deps.findCycle source target = some chain ∧ IsPath deps target source chain) ∨
      (deps.findCycle source target = none ∧
        ¬Relation.ReflTransGen deps.HasEdge target source) := by
  by_cases same : source = target
  · subst same
    left
    exact ⟨[source], by simp [findCycle], ⟨rfl, rfl, List.isChain_singleton source, by simp⟩⟩
  · have begun : Underway deps target source (deps.sources.erase target)
        [(target, deps.targets target)] :=
      { edges := List.isChain_singleton target
        bottom := by simp
        nodup := by simp
        missed := by simpa using same
        entered := by simpa using deps.nodup_sources.not_mem_erase
        begun := deps.nodup_sources.not_mem_erase
        fresh_nodup := deps.nodup_sources.erase target
        untried := by
          intro place member next tried
          rw [List.mem_singleton.mp member] at tried ⊢
          exact tried
        closed := by
          intro build next old edge
          right
          have entered : build = target := by
            by_contra other
            exact old ((List.mem_erase_of_ne other).mpr (mem_sources_of_hasEdge edge))
          subst entered
          exact ⟨_, List.mem_cons_self .., rfl, edge⟩ }
    have searched : deps.findCycle source target =
        deps.walk source (deps.sources.erase target) [(target, deps.targets target)] := by
      simp [findCycle, same]
    rw [searched]
    exact walk_spec deps (Ne.symm same) _ _ begun

/-- A search fails exactly if its source cannot be reached from its target. -/
theorem findCycle_eq_none_iff (deps : Dependencies) (source target : BuildId) :
    deps.findCycle source target = none ↔ ¬Relation.ReflTransGen deps.HasEdge target source := by
  rcases deps.findCycle_spec source target with ⟨chain, found, path⟩ | ⟨none, unreachable⟩
  · simp [found, path.reachable]
  · simp [none, unreachable]

end CompositeBuild.Dependencies
