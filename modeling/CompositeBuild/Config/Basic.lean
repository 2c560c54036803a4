import CompositeBuild.FileTree
import CompositeBuild.Substitution.Collection
import CompositeBuild.Text.Blank

/-!
# Composite configurations

A configuration lists the builds that take part in a composite, each with its directory and the
substitution rules it contributes.  A configuration is usable if every name has something to see in
it, no name is given twice, and every rule can be written.  `CompositeConfig.validate` finds the
first problem in the order of the file.
-/

namespace CompositeBuild

/-- One substitution entry of a build: a module and the project that stands for it. -/
structure SubstitutionConfig where
  module : String
  project : String := ":"
  deriving DecidableEq, Repr

/-- The action that writes the rule of an entry. -/
def SubstitutionConfig.action (entry : SubstitutionConfig) : SubstitutionAction :=
  .ofRule entry.module entry.project

/-- One build of a configuration. -/
structure IncludedBuildConfig where
  name : String
  dir : String
  substitute : List SubstitutionConfig := []
  deriving DecidableEq, Repr

/-- The name of a configured build. -/
def IncludedBuildConfig.id (build : IncludedBuildConfig) : BuildId := ⟨build.name⟩

/-- The builds that take part in a composite. -/
structure CompositeConfig where
  builds : List IncludedBuildConfig := []
  deriving DecidableEq, Repr

/-- Why the values of a document do not make a configuration. -/
inductive DecodeError where
  /-- A value of one kind stands where another one is expected. -/
  | invalidType (found expected : String)
  /-- A list that stands for a record is too short. -/
  | invalidLength (length : Nat) (expected : String)
  | missingField (name : String)
  | unknownField (name : String) (expected : List String)
  deriving DecidableEq, Repr

/-- A field name between grave accents. -/
def DecodeError.field (name : String) : String := "`" ++ name ++ "`"

/-- The fields that a record has, in words. -/
def DecodeError.alternatives : List String → String
  | [] => "there are no fields"
  | [one] => s!"expected {field one}"
  | [one, two] => s!"expected {field one} or {field two}"
  | many => "expected one of " ++ ", ".intercalate (many.map field)

/-- The text of a decoding error. -/
def DecodeError.message : DecodeError → String
  | .invalidType found expected => s!"invalid type: {found}, expected {expected}"
  | .invalidLength length expected => s!"invalid length {length}, expected {expected}"
  | .missingField name => s!"missing field {field name}"
  | .unknownField name expected => s!"unknown field {field name}, {alternatives expected}"

/-- Why a configuration cannot be used. -/
inductive ConfigError where
  /-- The file cannot be read. -/
  | unreadable (path : String) (error : ReadError)
  /-- The text is no document. -/
  | malformed
  /-- The document does not describe a configuration. -/
  | undecodable (error : DecodeError)
  | emptyName
  | duplicateBuild (name : String)
  | invalidSubstitution (build reason : String)
  deriving DecidableEq, Repr

/-- The text of a configuration error. -/
def ConfigError.message : ConfigError → String
  | .unreadable path error => s!"IO error reading {path}: {error.message}"
  | .malformed => "Parse error: the text is not a TOML document"
  | .undecodable error => s!"Parse error: {error.message}"
  | .emptyName => "build name must not be empty"
  | .duplicateBuild name => s!"duplicate included build '{name}'"
  | .invalidSubstitution build reason => s!"invalid substitution in build '{build}': {reason}"

namespace CompositeConfig

/-- The first build of the given name. -/
def find? (config : CompositeConfig) (name : String) : Option IncludedBuildConfig :=
  config.builds.find? fun build => build.name = name

/-! ### Validation -/

/-- Check one entry of a build: first the module, then the project. -/
def validateEntry (build : String) (entry : SubstitutionConfig) : Except ConfigError Unit :=
  match ModuleId.parse entry.module with
  | .error error => .error (.invalidSubstitution build error.message)
  | .ok _ =>
    if IsQualified entry.project then .ok ()
    else .error (.invalidSubstitution build
      s!"invalid project path '{entry.project}': must start with ':'")

/-- Check builds in order, given the names of the builds before them: for each its name, then
whether the name is new, then its entries. -/
def validateBuilds (seen : List String) : List IncludedBuildConfig → Except ConfigError Unit
  | [] => .ok ()
  | build :: builds =>
    if Text.isBlank build.name then .error .emptyName
    else if build.name ∈ seen then .error (.duplicateBuild build.name)
    else do
      build.substitute.forM (validateEntry build.name)
      validateBuilds (build.name :: seen) builds

/-- Find the first problem of a configuration. -/
def validate (config : CompositeConfig) : Except ConfigError Unit :=
  validateBuilds [] config.builds

end CompositeConfig

end CompositeBuild
