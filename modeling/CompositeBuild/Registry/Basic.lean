import CompositeBuild.Registry.Dependencies

/-!
# The registry of a composite build

The registry binds names to included builds and holds the dependencies between them.  Both may
change only while the composite is configured.  A dependency on a build that is not registered is
refused, and so is one that would make a build wait for itself.
-/

namespace CompositeBuild

/-- Which of the builds ever made for a composite is meant. -/
abbrev BuildRef := Nat

/-- A change of the registry that belongs to the configuration of a composite. -/
inductive ConfigurationStep where
  | registerBuild
  | addTask
  deriving DecidableEq, Repr

/-- How a step is called in messages. -/
def ConfigurationStep.description : ConfigurationStep → String
  | .registerBuild => "register an included build"
  | .addTask => "add a cross-build task dependency"

/-- Why the registry refuses a change. -/
inductive RegistryError where
  /-- No build of this name is registered. -/
  | unknownBuild (build : BuildId)
  /-- The dependency would close a cycle: the builds from its target back to its source. -/
  | cycle (chain : List BuildId)
  /-- The configuration of the composite is over. -/
  | configurationClosed (step : ConfigurationStep)
  deriving DecidableEq, Repr

/-- A cycle in words: its builds in order, and the first of them again. -/
def describeCycle (chain : List BuildId) : String :=
  " -> ".intercalate ((chain ++ chain.take 1).map (·.text))

/-- What is said about a build that is not registered. -/
def unknownBuildMessage (build : BuildId) : String :=
  s!"included build not found: {build}"

namespace RegistryError

/-- The text of a registry error. -/
def message : RegistryError → String
  | .unknownBuild build => unknownBuildMessage build
  | .cycle chain => s!"Included build dependency cycle: {describeCycle chain}"
  | .configurationClosed step =>
    s!"cannot {step.description} after the composite build has started executing"

/-- The first build of a cycle. -/
def cycleRoot? : RegistryError → Option BuildId
  | .cycle chain => chain.head?
  | _ => none

end RegistryError

/-- The builds of a composite by name, the dependencies between them, and whether the configuration
is over. -/
structure Registry where
  closed : Bool := false
  builds : NameMap BuildRef := .empty
  dependencies : Dependencies := {}

namespace Registry

/-- The build registered under a name. -/
def find? (registry : Registry) (name : BuildId) : Option BuildRef :=
  registry.builds.get? name.text

/-- Bind a name to a build, in place of the build that it named before. -/
def register (registry : Registry) (name : BuildId) (build : BuildRef) :
    Except RegistryError Registry :=
  if registry.closed then .error (.configurationClosed .registerBuild)
  else .ok { registry with builds := registry.builds.insert name.text build }

/-- Let `source` depend on `target`, and return the build that `target` names.

The edge is recorded first, so that a cycle is looked for in the graph that would result, and
withdrawn again if it is new and closes one. -/
def addDependency (registry : Registry) (source target : BuildId) :
    Except RegistryError BuildRef × Registry :=
  if registry.closed then (.error (.configurationClosed .addTask), registry)
  else
    match registry.find? target with
    | none => (.error (.unknownBuild target), registry)
    | some build =>
      let extended := registry.dependencies.add source target
      match extended.findCycle source target with
      | none => (.ok build, { registry with dependencies := extended })
      | some chain =>
        let isNew := !decide (registry.dependencies.HasEdge source target)
        let dependencies := if isNew then extended.remove source target else extended
        (.error (.cycle chain), { registry with dependencies })

/-- End the configuration. -/
def close (registry : Registry) : Registry := { registry with closed := true }

end Registry

end CompositeBuild
