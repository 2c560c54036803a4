import CompositeBuild.Config.Decode
import CompositeBuild.Log

/-!
# Configurations from files

The directories of a configuration file are relative to the directory that holds the file.
-/

namespace CompositeBuild

/-- The same build with its directory taken from `base`. -/
def IncludedBuildConfig.relativeTo (build : IncludedBuildConfig) (base : List Char) :
    IncludedBuildConfig :=
  { build with dir := String.ofList (FilePath.append base build.dir.toList) }

/-- The same configuration with all its directories taken from `base`. -/
def CompositeConfig.relativeTo (config : CompositeConfig) (base : List Char) : CompositeConfig :=
  { config with builds := config.builds.map fun build => build.relativeTo base }

/-- Read, check and complete the configuration in a file. -/
def CompositeConfig.loadThrough (documents : DocumentReader) (files : FileReader) (path : String) :
    Logged (Except ConfigError CompositeConfig) :=
  match files.readText path.toList with
  | .error error => pure (.error (.unreadable path error))
  | .ok text =>
    match parseThrough documents text with
    | .error error => pure (.error error)
    | .ok config => do
      Logged.emit .debug "loaded composite config"
        [("path", path), ("builds", toString config.builds.length)]
      match FilePath.parent? path.toList with
      | none => return .ok config
      | some base => return .ok (config.relativeTo base)

/-- Load the configuration in a file of a directory tree. -/
def CompositeConfig.load (tree : FileTree) (path : String) :
    Logged (Except ConfigError CompositeConfig) :=
  loadThrough Toml.parse? tree.reader path

end CompositeBuild
