import CompositeBuild.BuildId
import CompositeBuild.Text.Format
import CompositeBuild.Text.Segments

/-!
# Task paths and references to tasks of other builds

A task is addressed from outside its build by a qualified path, a text such as `:build` or
`:project:task` that starts with the separator.  A `TaskPath` carries the proof that it is
qualified, so there is no other kind.
-/

namespace CompositeBuild

/-- The character that starts every qualified path and separates its segments. -/
def pathSeparator : Char := ':'

/-- A text is qualified if it starts with the separator. -/
def IsQualified (text : String) : Prop :=
  text.toList.head? = some pathSeparator

instance (text : String) : Decidable (IsQualified text) :=
  inferInstanceAs (Decidable (_ = _))

/-- A text that is no task path. -/
structure UnqualifiedPath where
  text : String
  deriving DecidableEq, Repr

/-- What is said about a text that is no task path. -/
def UnqualifiedPath.message (error : UnqualifiedPath) : String :=
  s!"Task path '{error.text}' is not a qualified task path (e.g. ':task' or ':project:task')."

/-- A qualified task path. -/
structure TaskPath where
  text : String
  qualified : IsQualified text
  deriving DecidableEq, Repr

namespace TaskPath

/-- Read a task path, refusing every text that is not qualified. -/
def parse (text : String) : Except UnqualifiedPath TaskPath :=
  if qualified : IsQualified text then .ok { text, qualified } else .error { text }

/-- Read all paths of a list, stopping at the first that is not qualified. -/
def parseAll (texts : List String) : Except UnqualifiedPath (List TaskPath) :=
  texts.mapM parse

/-- The name of the task: the last segment of its path. -/
def name (path : TaskPath) : String :=
  String.ofList ((Text.segments pathSeparator path.text.toList).getLastD [])

/-- The conversion of a text, which reads it. -/
def ofText (text : String) : Except UnqualifiedPath TaskPath :=
  parse text

/-- Read a task path from a value of a data format, by way of the conversion. -/
def decode {α ε : Type} (format : Text.Format α ε) (value : α) : Except ε TaskPath := do
  let text ← format.read value
  (ofText text).mapError fun error => format.reject error.message

/-- The value of a data format that a task path is stored as. -/
def encode {α ε : Type} (format : Text.Format α ε) (path : TaskPath) : α :=
  format.write path.text

instance : ToString TaskPath := ⟨fun path => path.text⟩

/-- Paths are listed by the order of their texts. -/
instance : LT TaskPath := ⟨fun a b => a.text < b.text⟩

instance : LE TaskPath := ⟨fun a b => a.text ≤ b.text⟩

instance (a b : TaskPath) : Decidable (a ≤ b) := inferInstanceAs (Decidable (a.text ≤ b.text))

/-- Task paths in increasing order. -/
def sort (paths : List TaskPath) : List TaskPath :=
  paths.mergeSort fun a b => decide (a ≤ b)

/-- Exactly the qualified texts are task paths, and each is the text of the path read from it. -/
theorem parse_eq_ok_iff {text : String} {path : TaskPath} :
    parse text = .ok path ↔ path.text = text := by
  unfold parse
  constructor
  · intro h
    split at h
    · injection h with h; rw [← h]
    · exact absurd h (by simp)
  · rintro rfl
    simp [path.qualified]

/-- A refused text is carried by the error. -/
theorem parse_eq_error_iff {text : String} {error : UnqualifiedPath} :
    parse text = .error error ↔ ¬IsQualified text ∧ error.text = text := by
  unfold parse
  split <;> rename_i h
  · simp [h]
  · simp only [Except.error.injEq, h, not_false_eq_true, true_and]
    exact ⟨fun e => e ▸ rfl, fun e => by cases error; simp_all⟩

end TaskPath

/-- A task of another included build: the build that owns it and its path there. -/
structure TaskReference where
  build : BuildId
  path : TaskPath
  deriving DecidableEq, Repr

instance : ToString TaskReference := ⟨fun reference => s!"{reference.build}{reference.path}"⟩

end CompositeBuild
