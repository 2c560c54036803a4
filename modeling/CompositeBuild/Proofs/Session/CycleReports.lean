import CompositeBuild.Proofs.Registry.Visiting
import CompositeBuild.Proofs.Session.Concourse

/-!
# Reports of cycles

A task is refused for a cycle with the builds that the search for a cycle has found.  They lie on a
path from the target of the refused edge back to its source, and the edge closes this path
(`Dependencies.IsPath.closed`).  The search looks at the graph with the edge in it, but no path to
the source of an edge uses that edge, so the reported path consists of edges that were recorded
before (`Dependencies.IsPath.of_add`).

The message of the refusal names the builds of the path in order, and the target again at the end.
-/

namespace CompositeBuild

variable {σ ρ : Type}

namespace Dependencies.IsPath

variable {deps : Dependencies} {source target first last : BuildId} {chain : List BuildId}

/-- There is a build on every path. -/
theorem ne_nil (path : IsPath deps first last chain) : chain ≠ [] := by
  rintro rfl
  simpa using path.head

/-- The edge from the end of a path to its beginning closes it. -/
theorem closed (path : IsPath deps target source chain) :
    (chain ++ [target]).IsChain (deps.add source target).HasEdge := by
  refine List.isChain_append.mpr ⟨?_, List.isChain_singleton target, ?_⟩
  · exact path.edges.imp fun one other edge => hasEdge_add.mpr (.inr edge)
  · intro final ends begun begins
    rw [path.last, Option.mem_some_iff] at ends
    rw [List.head?_cons, Option.mem_some_iff] at begins
    exact hasEdge_add.mpr (.inl ⟨ends.symm, begins.symm⟩)

/-- A path to the source of an added edge does not use that edge. -/
theorem of_add (path : IsPath (deps.add source target) first source chain) :
    IsPath deps first source chain := by
  obtain ⟨head, last, edges, nodup⟩ := path
  refine ⟨head, last, ?_, nodup⟩
  clear head
  induction edges with
  | nil => exact .nil
  | singleton build => exact .singleton build
  | @cons_cons build next rest edge later ih =>
    rw [List.getLast?_cons_cons] at last
    obtain ⟨unrepeated, nodup⟩ := List.nodup_cons.mp nodup
    have inner : build ≠ source := by
      rintro rfl
      exact unrepeated (List.mem_of_getLast? last)
    have old : deps.HasEdge build next :=
      (hasEdge_add.mp edge).resolve_left fun new => inner new.1
    exact .cons_cons old (ih last nodup)

end Dependencies.IsPath

/-- The message of a cycle names its builds in order, and the first one again. -/
theorem RegistryError.message_cycle {first : BuildId} {chain : List BuildId}
    (begins : chain.head? = some first) :
    (RegistryError.cycle chain).message = "Included build dependency cycle: " ++
      " -> ".intercalate ((chain ++ [first]).map (·.text)) := by
  have once : chain.take 1 = [first] := by
    rw [List.take_one, begins]
    rfl
  have described : describeCycle chain = " -> ".intercalate ((chain ++ [first]).map (·.text)) := by
    rw [describeCycle, once]
  rw [← described]
  unfold message
  rfl

/-- A cycle that is reported was found by the search in the graph with the new edge. -/
theorem Registry.findCycle_of_cycle {registry : Registry} {source target : BuildId}
    {chain : List BuildId}
    (refused : (registry.addDependency source target).1 = .error (.cycle chain)) :
    (registry.dependencies.add source target).findCycle source target = some chain := by
  unfold addDependency at refused
  split at refused
  · cases refused
  · cases bound : registry.find? target with
    | none =>
      rw [bound] at refused
      cases refused
    | some build =>
      simp only [bound] at refused
      cases search : (registry.dependencies.add source target).findCycle source target with
      | none =>
        rw [search] at refused
        cases refused
      | some found =>
        rw [search] at refused
        injection refused with same
        injection same with same
        rw [same]

namespace Session

/-- A task is refused for the cycle that the registry reports. -/
theorem addDependency_of_cycle {session : Session σ ρ} {source : BuildId}
    {reference : TaskReference} {chain : List BuildId}
    (refused : (session.addTask source reference).value.1 = .error (.cycle chain)) :
    (session.registry.addDependency source reference.build).1 = .error (.cycle chain) := by
  simp only [addTask] at refused
  generalize session.registry.addDependency source reference.build = step at refused ⊢
  obtain ⟨answer, registry⟩ := step
  cases answer with
  | error error =>
    cases error with
    | cycle found => simpa using refused
    | unknownBuild build => simp at refused
    | configurationClosed step => simp at refused
  | ok ref =>
    simp only [Logged.bind_value] at refused
    split at refused <;> simp at refused

/-- **The search for a cycle is an exact search for a path, and cycles are reported as found.**  On
every graph, with cycles or without, the recursion that visits builds ends, wherever it stands, and
the search returns what it ends with.  The search returns nothing exactly if no number of edges
leads from the target to the source.  What it returns is a path that begins with the target, ends
with the source, repeats no build and follows the edges, and the edge from the source to the target
makes it a cycle.

So if a task is refused for a cycle, in whatever state the session is, the reported builds are such
a path in the dependencies recorded before; the root of the cycle is the build of the wanted task;
and the message names the builds in order and that build again. -/
theorem cycles_are_found_and_reported (deps : Dependencies) (source target : BuildId) :
    (∀ visited chain targets, ∃ found visited' chain',
      deps.Tries source visited chain targets found visited' chain') ∧
    (source ≠ target → ∀ found visited chain,
      deps.Tries source [target] [target] (deps.targets target) found visited chain →
      deps.findCycle source target = if found then some chain else none) ∧
    (deps.findCycle source target = none ↔
      ¬Relation.ReflTransGen deps.HasEdge target source) ∧
    (∀ chain, deps.findCycle source target = some chain →
      chain ≠ [] ∧ chain.head? = some target ∧ chain.getLast? = some source ∧ chain.Nodup ∧
      chain.IsChain deps.HasEdge ∧ (chain ++ [target]).IsChain (deps.add source target).HasEdge) ∧
    ∀ (session : Session σ ρ) (reference : TaskReference) (chain : List BuildId),
      (session.addTask source reference).value.1 = .error (.cycle chain) →
      Dependencies.IsPath session.registry.dependencies reference.build source chain ∧
      (RegistryError.cycle chain).cycleRoot? = some reference.build ∧
      (RegistryError.cycle chain).message = "Included build dependency cycle: " ++
        " -> ".intercalate ((chain ++ [reference.build]).map (·.text)) := by
  refine ⟨fun visited chain targets => deps.exists_tries source visited chain targets,
    fun apart found visited chain tries => Dependencies.findCycle_of_tries apart tries,
    deps.findCycle_eq_none_iff source target, fun chain found => ?_,
    fun session reference chain refused => ?_⟩
  · have path : Dependencies.IsPath deps target source chain := by
      rcases deps.findCycle_spec source target with ⟨other, same, path⟩ | ⟨none, -⟩
      · rw [same] at found
        exact Option.some.inj found ▸ path
      · rw [none] at found
        cases found
    exact ⟨path.ne_nil, path.head, path.last, path.nodup, path.edges, path.closed⟩
  · have found := Registry.findCycle_of_cycle (addDependency_of_cycle refused)
    have path : Dependencies.IsPath session.registry.dependencies reference.build source chain := by
      rcases (session.registry.dependencies.add source reference.build).findCycle_spec source
          reference.build with ⟨other, same, path⟩ | ⟨none, -⟩
      · rw [same] at found
        exact Option.some.inj found ▸ path.of_add
      · rw [none] at found
        cases found
    exact ⟨path, path.head, RegistryError.message_cycle path.head⟩

/-- If `app` depends on `lib` and `lib` on `tools`, and `tools` wants a task of `app`, the cycle
through all three is reported, from `app` on. -/
theorem cycles_are_found_and_reported_layered :
    let session := (({} : Concourse _ _).run Concourse.layered).session
    let bundle : TaskPath := { text := ":bundle", qualified := by decide }
    let chain : List BuildId := [⟨"app"⟩, ⟨"lib"⟩, ⟨"tools"⟩]
    (session.addTask ⟨"tools"⟩ ⟨⟨"app"⟩, bundle⟩).value.1 = .error (.cycle chain) ∧
    (RegistryError.cycle chain).cycleRoot? = some ⟨"app"⟩ ∧
    (RegistryError.cycle chain).message =
      "Included build dependency cycle: app -> lib -> tools -> app" := by
  intro session bundle chain
  have refused : (session.addTask ⟨"tools"⟩ ⟨⟨"app"⟩, bundle⟩).value.1 = .error (.cycle chain) := by
    cbv
  obtain ⟨-, -, -, -, reports⟩ :=
    cycles_are_found_and_reported session.registry.dependencies ⟨"tools"⟩ ⟨"app"⟩
  obtain ⟨-, root, message⟩ := reports session ⟨⟨"app"⟩, bundle⟩ chain refused
  exact ⟨refused, root, message⟩

end Session

end CompositeBuild
