import CompositeBuild.Text.Segments

/-!
# File paths

A path is a text whose parts stand between slashes.  Empty parts and single dots name nothing, so
many spellings lead to one place.  `FilePath.components` is the meaning of a path: whether it
starts at the root, and its parts without those that name nothing.  `FilePath.parent?` and
`FilePath.append` work on the spelling: a parent keeps the spelling of everything before the last
component.
-/

namespace CompositeBuild.FilePath

/-- The character between the parts of a path. -/
def separator : Char := '/'

/-- A part that names nothing: it is empty or the current directory. -/
def isIdle (part : List Char) : Bool :=
  part = [] || part = ['.']

/-- A path is absolute if it starts at the root. -/
def isAbsolute (path : List Char) : Bool :=
  path.head? = some separator

/-- The meaning of a path: whether it starts at the root, and the parts that name something. -/
def components (path : List Char) : Bool × List (List Char) :=
  (isAbsolute path, (Text.segments separator path).filter fun part => !isIdle part)

/-- The parts before the last one that names something, without the idle ones in between. -/
def partsAbove? (parts : List (List Char)) : Option (List (List Char)) :=
  match parts.reverse.dropWhile isIdle with
  | [] => none
  | _ :: above => some (above.dropWhile isIdle).reverse

/-- The directory that holds what a path names, `none` for the root and the empty path.

A leading `.` counts as a component of its own, so `./c` is in `.` and `c` is in the empty path. -/
def parent? (path : List Char) : Option (List Char) :=
  match path with
  | [] => none
  | '/' :: body => (partsAbove? (Text.segments separator body)).map fun parts =>
      separator :: Text.join separator parts
  | ['.'] => some []
  | '.' :: '/' :: body =>
    match partsAbove? (Text.segments separator body) with
    | none => some []
    | some [] => some ['.']
    | some parts => some ('.' :: separator :: Text.join separator parts)
  | path => some (Text.join separator ((partsAbove? (Text.segments separator path)).getD []))

/-- The path reached by following `path` from `base`.  An absolute path does not depend on the
base, and the empty path below a base keeps a separator at its end. -/
def append (base path : List Char) : List Char :=
  if isAbsolute path then path
  else if base = [] ∨ base.getLast? = some separator then base ++ path
  else base ++ separator :: path

end CompositeBuild.FilePath
