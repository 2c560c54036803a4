import CompositeBuild.FilePath

/-!
# Directory trees

What a program sees of the files around it: the directories and files below its current directory.
Whatever lies outside is a directory in which nothing can be found.

A program that only reads files need not know where they are.  A `FileReader` is any way to read
files by their paths, and a directory tree is one of them (`FileTree.reader`).
-/

namespace CompositeBuild

/-- Why a file cannot be read as text. -/
inductive ReadError where
  | notFound
  | notADirectory
  | isADirectory
  | nameTooLong
  /-- The bytes of the file are not UTF-8. -/
  | notText
  deriving DecidableEq, Repr

/-- The text of a read error. -/
def ReadError.message : ReadError → String
  | .notFound => "No such file or directory (os error 2)"
  | .notADirectory => "Not a directory (os error 20)"
  | .isADirectory => "Is a directory (os error 21)"
  | .nameTooLong => "File name too long (os error 36)"
  | .notText => "stream did not contain valid UTF-8"

/-- A way to read files as text by their paths.  The root is a directory, so no spelling of it is
the path of a file. -/
structure FileReader where
  readText : List Char → Except ReadError String
  root_unreadable : ∀ path, FilePath.components path = (true, []) →
    ∃ error, readText path = .error error

/-- A position below the current directory: the names that lead there. -/
abbrev FilePosition := List (List Char)

/-- The directories and files below the current directory. -/
structure FileTree where
  directories : List FilePosition := []
  files : List (FilePosition × ByteArray) := []

namespace FileTree

/-- Where a walk through the tree has come to. -/
inductive Place where
  /-- A position below the current directory, its innermost name first. -/
  | inside (names : List (List Char))
  /-- Somewhere above or beside the current directory. -/
  | outside
  deriving DecidableEq, Repr

/-- The file at a position. -/
def fileAt? (tree : FileTree) (position : FilePosition) : Option ByteArray :=
  (tree.files.find? fun file => file.1 = position).map (·.2)

/-- The current directory and the listed ones are directories. -/
def hasDirectory (tree : FileTree) (position : FilePosition) : Bool :=
  position = [] || tree.directories.contains position

/-- The longest name, in bytes, that a directory can hold. -/
def maxNameSize : Nat := 255

/-- The longest path, in bytes, that can be followed at all. -/
def maxPathSize : Nat := 4095

/-- The number of bytes of a text in UTF-8. -/
def byteSize (text : List Char) : Nat :=
  text.foldl (fun size c => size + c.utf8Size) 0

/-- Follow one part of a path.  Every part needs a directory to start from. -/
def follow (tree : FileTree) (place : Place) (part : List Char) : Except ReadError Place :=
  match place with
  | .outside =>
    if FilePath.isIdle part || part = ['.', '.'] then .ok .outside
    else if maxNameSize < byteSize part then .error .nameTooLong
    else .error .notFound
  | .inside names =>
    if !tree.hasDirectory names.reverse then .error .notADirectory
    else if FilePath.isIdle part then .ok place
    else if part = ['.', '.'] then
      match names with
      | [] => .ok .outside
      | _ :: above => .ok (.inside above)
    else if maxNameSize < byteSize part then .error .nameTooLong
    else
      let position := (part :: names).reverse
      if tree.hasDirectory position || (tree.fileAt? position).isSome then
        .ok (.inside (part :: names))
      else .error .notFound

/-- Follow a path from the current directory. -/
def locate (tree : FileTree) (path : List Char) : Except ReadError Place :=
  if path = [] then .error .notFound
  else if maxPathSize < byteSize path then .error .nameTooLong
  else
    let start := if FilePath.isAbsolute path then .outside else .inside []
    (Text.segments FilePath.separator path).foldlM tree.follow start

/-- The text of the file that a path leads to. -/
def readText (tree : FileTree) (path : List Char) : Except ReadError String := do
  match ← tree.locate path with
  | .outside => throw .isADirectory
  | .inside names =>
    match tree.fileAt? names.reverse with
    | none => throw .isADirectory
    | some bytes =>
      match String.fromUTF8? bytes with
      | none => throw .notText
      | some text => return text

/-- Parts that name nothing lead nowhere from outside. -/
theorem foldlM_follow_outside (tree : FileTree) {parts : List (List Char)}
    (idle : ∀ part ∈ parts, FilePath.isIdle part = true) :
    parts.foldlM tree.follow .outside = .ok .outside := by
  induction parts with
  | nil => rfl
  | cons part parts ih =>
    have stays : tree.follow .outside part = .ok .outside := by
      simp [follow, idle part (List.mem_cons_self ..)]
    rw [List.foldlM_cons, stays]
    exact ih fun other member => idle other (List.mem_cons_of_mem _ member)

/-- No spelling of the root is the path of a file. -/
theorem readText_root (tree : FileTree) {path : List Char}
    (root : FilePath.components path = (true, [])) :
    ∃ error, tree.readText path = .error error := by
  obtain ⟨absolute, unnamed⟩ := Prod.mk.inj root
  have idle : ∀ part ∈ Text.segments FilePath.separator path, FilePath.isIdle part = true := by
    simpa using unnamed
  have located : tree.locate path = .ok .outside ∨ ∃ error, tree.locate path = .error error := by
    simp only [locate, absolute, if_true, tree.foldlM_follow_outside idle]
    split
    · exact .inr ⟨_, rfl⟩
    · split
      · exact .inr ⟨_, rfl⟩
      · exact .inl rfl
  rcases located with outside | ⟨error, failed⟩
  · exact ⟨.isADirectory, by rw [readText, outside]; rfl⟩
  · exact ⟨error, by rw [readText, failed]; rfl⟩

/-- Reading files of a directory tree. -/
def reader (tree : FileTree) : FileReader where
  readText := tree.readText
  root_unreadable := fun _ => tree.readText_root

/-! ### Building a tree -/

/-- The same tree with a directory at the position and everywhere above it. -/
def withDirectories (tree : FileTree) (position : FilePosition) : FileTree :=
  let wanted := (List.range position.length).map fun n => position.take (n + 1)
  { tree with directories := tree.directories ++ wanted.filter fun d => !tree.hasDirectory d }

/-- Make the directories that a path passes through and return the position it leads to, its
innermost name first. -/
def makeWay (tree : FileTree) (parts : List (List Char)) : FileTree × List (List Char) :=
  parts.foldl (fun (tree, names) part =>
    if FilePath.isIdle part then (tree, names)
    else if part = ['.', '.'] then (tree, names.tail)
    else (tree.withDirectories (part :: names).reverse, part :: names)) (tree, [])

/-- Make a directory, with the directories above it. -/
def addDirectory (tree : FileTree) (path : List Char) : FileTree :=
  (tree.makeWay (Text.segments FilePath.separator path)).1

/-- The same tree with this file at the position.  A file that was there before is gone. -/
def withFile (tree : FileTree) (position : FilePosition) (content : ByteArray) : FileTree :=
  { tree with files := (position, content) :: tree.files.filter fun file => file.1 ≠ position }

/-- Put a file into the tree, with the directories above it. -/
def addFile (tree : FileTree) (path : List Char) (content : ByteArray) : FileTree :=
  let parts := (Text.segments FilePath.separator path).filter fun part => !FilePath.isIdle part
  let (tree, names) := tree.makeWay parts.dropLast
  tree.withFile (parts.getLastD [] :: names).reverse content

end FileTree

end CompositeBuild
