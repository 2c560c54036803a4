import CompositeBuild.BuildId
import CompositeBuild.NameMap

/-!
# Dependencies between included builds

A build depends on the builds whose tasks it needs.  For each build that needs something, its
targets are listed in the order in which they were first needed.

`Dependencies.findCycle` tells whether an edge from one build to another lies on a cycle.  It walks
the edges depth first from the target and enters every build at most once, so it ends after no more
entries than there are builds with targets.
-/

namespace CompositeBuild

/-- The edges of the dependency graph, listed by the build that they leave. -/
structure Dependencies where
  edges : NameMap (List BuildId) := .empty

namespace Dependencies

/-- The builds that `source` depends on, in the order in which they were added. -/
def targets (deps : Dependencies) (source : BuildId) : List BuildId :=
  (deps.edges.get? source.text).getD []

/-- The builds that depend on something, in name order. -/
def sources (deps : Dependencies) : List BuildId :=
  deps.edges.names.map BuildId.mk

/-- Whether `source` depends on `target`. -/
def HasEdge (deps : Dependencies) (source target : BuildId) : Prop :=
  target ∈ deps.targets source

instance (deps : Dependencies) (source target : BuildId) : Decidable (deps.HasEdge source target) :=
  inferInstanceAs (Decidable (_ ∈ _))

/-- Add an edge, behind the edges that leave `source` already. -/
def add (deps : Dependencies) (source target : BuildId) : Dependencies :=
  if deps.HasEdge source target then deps
  else { edges := deps.edges.insert source.text (deps.targets source ++ [target]) }

/-- Take an edge away.  A build that is left without targets is no longer listed. -/
def remove (deps : Dependencies) (source target : BuildId) : Dependencies :=
  match deps.edges.get? source.text with
  | none => deps
  | some targets =>
    match targets.filter (· ≠ target) with
    | [] => { edges := deps.edges.erase source.text }
    | kept => { edges := deps.edges.insert source.text kept }

/-! ### Looking for a cycle

The state of the walk is the path from its start to where it stands, innermost build first, each
build with those of its targets that are still to be tried, and the list of the builds with targets
that it has not entered yet.  A build without targets is never worth entering. -/

/-- The weight of the part of a walk that is under way. -/
def openWeight (path : List (BuildId × List BuildId)) : Nat :=
  path.foldr (fun place weight => place.2.length + 1 + weight) 0

/-- Continue a walk until it meets `goal`, and return the builds on its path from the start to the
goal, both included. -/
def walk (deps : Dependencies) (goal : BuildId) (fresh : List BuildId) :
    List (BuildId × List BuildId) → Option (List BuildId)
  | [] => none
  | (_, []) :: path => deps.walk goal fresh path
  | (build, next :: untried) :: path =>
    if next = goal then
      some (((build :: path.map (·.1)).reverse) ++ [goal])
    else if next ∈ fresh then
      deps.walk goal (fresh.erase next) ((next, deps.targets next) :: (build, untried) :: path)
    else deps.walk goal fresh ((build, untried) :: path)
termination_by path => (fresh.length, openWeight path)
decreasing_by
  · exact .right _ (by simp [openWeight])
  · rename_i h
    exact .left _ _ (by
      have := List.length_pos_of_mem h
      rw [List.length_erase_of_mem h]; omega)
  · exact .right _ (by simp [openWeight])

/-- The builds on a path from `target` to `source`, if there is one, both included. -/
def findCycle (deps : Dependencies) (source target : BuildId) : Option (List BuildId) :=
  if source = target then some [source]
  else deps.walk source (deps.sources.erase target) [(target, deps.targets target)]

/-! ### What the edges are afterwards -/

/-- Builds with the same name are the same. -/
theorem text_inj {a b : BuildId} : a.text = b.text ↔ a = b := by
  cases a; cases b; simp

/-- Adding an edge appends its target to the targets of its source, unless it is there. -/
theorem targets_add (deps : Dependencies) (source target build : BuildId) :
    (deps.add source target).targets build =
      if source = build ∧ target ∉ deps.targets source then deps.targets source ++ [target]
      else deps.targets build := by
  by_cases present : target ∈ deps.targets source
  · simp [add, HasEdge, present]
  · have step : deps.add source target =
        { edges := deps.edges.insert source.text (deps.targets source ++ [target]) } := by
      simp [add, HasEdge, present]
    rw [step]
    unfold targets at present ⊢
    rw [NameMap.get?_insert]
    by_cases same : source = build
    · subst same; simp [present]
    · have apart : ¬source.text = build.text := fun e => same (text_inj.1 e)
      simp [same, apart]

/-- An added edge is there, and every other edge is there exactly if it was there before. -/
theorem hasEdge_add {deps : Dependencies} {source target a b : BuildId} :
    (deps.add source target).HasEdge a b ↔ (a = source ∧ b = target) ∨ deps.HasEdge a b := by
  unfold HasEdge
  rw [targets_add]
  split
  · next h =>
    obtain ⟨rfl, _⟩ := h
    simp [or_comm]
  · next h =>
    constructor
    · exact .inr
    · rintro (⟨rfl, rfl⟩ | present)
      · by_cases there : b ∈ deps.targets a
        · exact there
        · exact absurd ⟨rfl, there⟩ h
      · exact present

end Dependencies

end CompositeBuild
