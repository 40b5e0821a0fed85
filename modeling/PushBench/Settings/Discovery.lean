import PushBench.Files.Tree
import PushBench.Settings.Config
import PushBench.Toml.Reader

/-!
# Finding the configuration

A configuration is read from a named file, or from the nearest file of the standard name in a
directory or above it.
-/

namespace PushBench

/-- Why a configuration file could not be used. -/
inductive ConfigFileError where
  | unreadable (path : String) (reason : FileError)
  /-- The file is no TOML, or not a configuration. -/
  | malformed (path : String)
  deriving DecidableEq, Repr

namespace ConfigFileError

/-- What is wrong with a file that is no configuration. -/
def malformedText : String := "not a valid configuration"

/-- What lies behind the error. -/
def cause : ConfigFileError → String
  | .unreadable _ reason => reason.message
  | .malformed _ => malformedText

/-- The text of the error. -/
def message (error : ConfigFileError) : String :=
  match error with
  | .unreadable path _ => "failed to read " ++ path ++ ": " ++ error.cause
  | .malformed path => "failed to parse " ++ path ++ ": " ++ error.cause

end ConfigFileError

namespace Config

/-- The standard name of configuration files. -/
def fileName : String := "pvbench.toml"

/-- The configuration that a text spells. -/
def parse (text : String) : Option Config := (Toml.read text.toList).bind ofToml

/-- Reads the configuration at a path that is shown as `shown`. -/
def load (files : FileView) (shown : String) (path : Path) : Except ConfigFileError Config :=
  match files.readText path with
  | .error reason => .error (.unreadable shown reason)
  | .ok text =>
    match parse text with
    | some config => .ok config
    | none => .error (.malformed shown)

/-- Looks for a configuration in the directory whose names are given from the last to the first, and
then above it. The nearest file decides, even if it cannot be used. -/
def discoverUp (files : FileView) (names : List String) :
    Except ConfigFileError (Option (Path × Config)) :=
  let path : Path := (fileName :: names).reverse
  if files.isFile path then (load files path.text path).map fun config ↦ some (path, config)
  else
    match names with
    | [] => .ok none
    | _ :: above => discoverUp files above

/-- The nearest configuration in a directory or above it, and its path. -/
def discover (files : FileView) (directory : Path) :
    Except ConfigFileError (Option (Path × Config)) :=
  discoverUp files directory.steps.reverse

end Config

end PushBench
