import CompositeBuild.Text.Segments

/-!
# Module coordinates

An external module is named by its group and its name, written `group:name`.
-/

namespace CompositeBuild

/-- The coordinates of an external module. -/
structure ModuleId where
  group : String
  name : String
  deriving DecidableEq, Repr

namespace ModuleId

/-- The character between group and name. -/
def separator : Char := ':'

/-- Read coordinates.  There must be exactly one separator, with something on both sides. -/
def parse? (text : String) : Option ModuleId :=
  match Text.segments separator text.toList with
  | [group, name] =>
    if group ≠ [] ∧ name ≠ [] then
      some { group := String.ofList group, name := String.ofList name }
    else none
  | _ => none

instance : ToString ModuleId := ⟨fun id => s!"{id.group}:{id.name}"⟩

end ModuleId

end CompositeBuild
