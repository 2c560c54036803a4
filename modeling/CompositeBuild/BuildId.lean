/-!
# Build names
-/

namespace CompositeBuild

/-- The name that identifies one included build of a composite. -/
structure BuildId where
  text : String
  deriving DecidableEq, Repr, Inhabited

namespace BuildId

/-- Builds are listed by the order of their names. -/
instance : LT BuildId := ⟨fun a b => a.text < b.text⟩

instance : LE BuildId := ⟨fun a b => a.text ≤ b.text⟩

instance (a b : BuildId) : Decidable (a ≤ b) := inferInstanceAs (Decidable (a.text ≤ b.text))

instance : ToString BuildId := ⟨fun id => id.text⟩

/-- Build names in increasing order. -/
def sort (ids : List BuildId) : List BuildId :=
  ids.mergeSort fun a b => decide (a ≤ b)

end BuildId

end CompositeBuild
