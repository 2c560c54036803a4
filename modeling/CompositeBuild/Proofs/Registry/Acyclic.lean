import CompositeBuild.Proofs.Registry.CycleSearch
import CompositeBuild.Registry.Basic
import Mathlib.Data.Fintype.Card
import Mathlib.Data.Set.Finite.List

/-!
# Dependencies without cycles

An edge closes a cycle exactly if its source can be reached from its target, and whether it can does
not depend on the edge itself: a path from the target to the source that uses the edge has been at
the source before (`Dependencies.reachable_add_iff`).  So the search on the extended graph decides
whether the extended graph is without cycles (`Dependencies.Acyclic.add_iff`), and refusing exactly
the edges for which it finds something keeps the graph without cycles.

`Registry.addDependency_cases` says what a request for an edge does to a registry whose dependencies
are in order.
-/

namespace CompositeBuild

namespace Dependencies

variable {deps : Dependencies} {source target a b : BuildId}

/-- No build depends on itself, through however many edges. -/
def Acyclic (deps : Dependencies) : Prop :=
  ∀ build, ¬Relation.TransGen deps.HasEdge build build

/-- An added edge does not help to reach its own source. -/
theorem reachable_add_iff :
    Relation.ReflTransGen (deps.add source target).HasEdge a source ↔
      Relation.ReflTransGen deps.HasEdge a source := by
  constructor
  · intro reachable
    induction reachable using Relation.ReflTransGen.head_induction_on with
    | refl => exact .refl
    | head edge _ ih =>
      rcases hasEdge_add.mp edge with ⟨rfl, -⟩ | old
      · exact .refl
      · exact .head old ih
  · exact Relation.ReflTransGen.mono (fun _ _ old => hasEdge_add.mpr (.inr old)) a source

/-- What depends on something after an edge has been added did so before, or does so through the
edge. -/
theorem transGen_add (dependent : Relation.TransGen (deps.add source target).HasEdge a b) :
    Relation.TransGen deps.HasEdge a b ∨
      (Relation.ReflTransGen deps.HasEdge a source ∧
        Relation.ReflTransGen deps.HasEdge target b) := by
  induction dependent with
  | single edge =>
    rcases hasEdge_add.mp edge with ⟨rfl, rfl⟩ | old
    · exact .inr ⟨.refl, .refl⟩
    · exact .inl (.single old)
  | tail _ edge ih =>
    rcases hasEdge_add.mp edge with ⟨rfl, rfl⟩ | old
    · rcases ih with before | ⟨before, -⟩
      · exact .inr ⟨before.to_reflTransGen, .refl⟩
      · exact .inr ⟨before, .refl⟩
    · rcases ih with before | ⟨before, behind⟩
      · exact .inl (before.tail old)
      · exact .inr ⟨before, behind.tail old⟩

namespace Acyclic

/-- Adding an edge closes a cycle exactly if the source of the edge can be reached from its
target. -/
theorem add_iff (acyclic : deps.Acyclic) :
    (deps.add source target).Acyclic ↔ ¬Relation.ReflTransGen deps.HasEdge target source := by
  constructor
  · intro extended reachable
    have edge : (deps.add source target).HasEdge source target := hasEdge_add.mpr (.inl ⟨rfl, rfl⟩)
    exact extended source (.head' edge (reachable_add_iff.mpr reachable))
  · intro unreachable build cycle
    rcases transGen_add cycle with old | ⟨before, behind⟩
    · exact acyclic build old
    · exact unreachable (behind.trans before)

/-- The source of an edge cannot be reached from its target. -/
theorem unreachable_of_hasEdge (acyclic : deps.Acyclic) (edge : deps.HasEdge source target) :
    ¬Relation.ReflTransGen deps.HasEdge target source :=
  fun reachable => acyclic source (.head' edge reachable)

/-- Following edges comes to an end, because there are only finitely many builds with targets. -/
theorem wellFounded (acyclic : deps.Acyclic) :
    WellFounded fun next build => deps.HasEdge build next := by
  let after (next build : { build // build ∈ deps.sources }) : Prop :=
    Relation.TransGen deps.HasEdge build.1 next.1
  have : Finite { build // build ∈ deps.sources } := deps.sources.finite_toSet.to_subtype
  have : IsTrans _ after := ⟨fun _ _ _ first second => second.trans first⟩
  have : Std.Irrefl after := ⟨fun build cycle => acyclic build.1 cycle⟩
  have listed : WellFounded after := Finite.wellFounded_of_trans_of_irrefl after
  have ends (build : BuildId) (last : build ∉ deps.sources) :
      Acc (fun next build => deps.HasEdge build next) build :=
    .intro build fun next edge => absurd (mem_sources_of_hasEdge edge) last
  refine ⟨fun build => ?_⟩
  by_cases source : build ∈ deps.sources
  · refine listed.induction (C := fun build => Acc _ build.1) ⟨build, source⟩ ?_
    intro build ih
    refine .intro build.1 fun next edge => ?_
    by_cases further : next ∈ deps.sources
    · exact ih ⟨next, further⟩ (.single edge)
    · exact ends next further
  · exact ends build source

end Acyclic

/-- The search on the graph with the new edge fails exactly if the source could not be reached from
the target before. -/
theorem findCycle_add_eq_none_iff :
    (deps.add source target).findCycle source target = none ↔
      ¬Relation.ReflTransGen deps.HasEdge target source := by
  rw [findCycle_eq_none_iff, reachable_add_iff]

end Dependencies

namespace Registry

variable {registry : Registry}

/-- A request for an edge is refused after the configuration, for a target that is not registered,
and if the source can be reached from the target, and it leaves the registry as it is then.  Any
other request is granted, and adds the edge and nothing else. -/
theorem addDependency_cases (tidy : registry.dependencies.Tidy) (source target : BuildId) :
    (registry.closed = true ∧
      registry.addDependency source target =
        (.error (.configurationClosed .addTask), registry)) ∨
    (registry.closed = false ∧ registry.find? target = none ∧
      registry.addDependency source target = (.error (.unknownBuild target), registry)) ∨
    (registry.closed = false ∧
      Relation.ReflTransGen registry.dependencies.HasEdge target source ∧
      (∃ build, registry.find? target = some build) ∧
      ∃ chain, registry.addDependency source target = (.error (.cycle chain), registry)) ∨
    (registry.closed = false ∧
      ¬Relation.ReflTransGen registry.dependencies.HasEdge target source ∧
      ∃ build, registry.find? target = some build ∧
        registry.addDependency source target =
          (.ok build, { registry with
            dependencies := registry.dependencies.add source target })) := by
  unfold addDependency
  by_cases closed : registry.closed = true
  · exact .inl ⟨closed, if_pos closed⟩
  rw [if_neg closed]
  have opened : registry.closed = false := by simpa using closed
  cases found : registry.find? target with
  | none => exact .inr (.inl ⟨opened, rfl, rfl⟩)
  | some build =>
    cases search : (registry.dependencies.add source target).findCycle source target with
    | none =>
      have unreachable := Dependencies.findCycle_add_eq_none_iff.mp search
      exact .inr (.inr (.inr ⟨opened, unreachable, build, rfl, by simp only [search]⟩))
    | some chain =>
      have reachable : Relation.ReflTransGen registry.dependencies.HasEdge target source := by
        by_contra unreachable
        rw [Dependencies.findCycle_add_eq_none_iff.mpr unreachable] at search
        simp at search
      refine .inr (.inr (.inl ⟨opened, reachable, ⟨build, rfl⟩, chain, ?_⟩))
      simp only [search]
      refine congrArg (fun dependencies =>
        (Except.error (RegistryError.cycle chain), { registry with dependencies })) ?_
      by_cases old : registry.dependencies.HasEdge source target
      · simp [old, Dependencies.add]
      · simp [old, tidy.remove_add old]

end Registry

end CompositeBuild
