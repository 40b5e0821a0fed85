import PushBench.CommandLine.Settings
import PushBench.Equivalence
import PushBench.Filter.Plan
import PushBench.Settings.Discovery

/-!
# Jobs

What a command line asks for, once the configuration, the cases and the filter are known: to hand
out a text, or to measure cases. Everything that can be wrong with a command line except the cases
themselves is found here, before anything is run.
-/

namespace PushBench

/-- Where a program runs. -/
structure Place where
  files : FileTree
  /-- The working directory. -/
  directory : Path

/-- Why a run fails. -/
inductive RunError where
  | configuration (error : ConfigFileError)
  | settings (error : SettingsRefusal)
  | registration (error : DuplicateName)
  | filter (error : InvalidFilter)
  | equivalence (error : EquivalenceError)
  /-- The output file cannot be written. -/
  | output (path : String) (reason : FileError)

namespace RunError

/-- The text of the error. -/
def message : RunError → String
  | .configuration error => error.message
  | .settings error => error.message
  | .registration _ => "failed to register cases"
  | .filter error => error.message
  | .equivalence error => error.message
  | .output path _ => "failed to create " ++ path

/-- What lies behind the error. -/
def cause : RunError → Option String
  | .configuration error => some error.cause
  | .settings _ => none
  | .registration error => some error.message
  | .filter _ => some InvalidFilter.cause
  | .equivalence _ => none
  | .output _ reason => some reason.message

/-- The lines of a text, each indented. -/
def indented (text : String) : String :=
  "    " ++ String.intercalate "\n    " (text.splitOn "\n")

/-- The error and what lies behind it as the program reports them. -/
def report (error : RunError) : String :=
  "Error: " ++ error.message ++
    match error.cause with
    | some cause => "\n\nCaused by:\n" ++ indented cause
    | none => ""

end RunError

/-- What there is to be done. -/
inductive Job : Type 1 where
  /-- A text goes to the output file, or to the console if there is none. -/
  | deliver (text : String) (output : Option String)
  /-- A text goes to the console. -/
  | present (text : String)
  | measure (settings : RunSettings) (registry : Registry)

/-- The files that a configuration is looked for in: the one that a command line names, or those of
a directory and of all above it. -/
def Flags.configPaths (flags : Flags) (directory : Path) : List Path :=
  match flags.config with
  | some shown => [.ofText directory shown]
  | none =>
    (List.range (directory.length + 1)).map fun count ↦ directory.take count ++ [Config.fileName]

namespace Job

/-- The configuration that a command line names, or that of the working directory. -/
def configFor (flags : Flags) (place : Place) : Except ConfigFileError Config :=
  match flags.config with
  | some shown => Config.load place.files shown (.ofText place.directory shown)
  | none => (Config.discover place.files place.directory).map fun found ↦
      match found with
      | some (_, config) => config
      | none => {}

/-- Whether the cases are only listed. A command decides before the switch does. -/
def isListing (flags : Flags) : Bool :=
  match flags.command with
  | some .list => true
  | some _ => false
  | none => flags.dryRun

/-- What there is to be done with the cases that a filter has left. -/
def forCases (flags : Flags) (settings : RunSettings) (registry : Registry) : Job :=
  if isListing flags then .present (registry.planText settings.workload)
  else if registry.isEmpty then .present "No cases found.\n"
  else .measure settings registry

/-- The settings that a command line and its configuration come to. -/
def settingsFor (flags : Flags) (place : Place) : Except RunError RunSettings := do
  let config ← (configFor flags place).mapError .configuration
  (flags.settingsWith config).mapError .settings

/-- The registered cases that a filter selects. A name that was taken is reported before a filter
that is no pattern. -/
def selectedFrom (registered : Option DuplicateName × Registry) (filter : String) :
    Except RunError Registry :=
  match registered with
  | (some error, _) => .error (.registration error)
  | (none, registry) =>
    match filterOf filter with
    | .error error => .error (.filter error)
    | .ok pattern => .ok (registry.filtered (some pattern))

/-- What a command line asks for. `register` registers the cases of a workload. -/
def ofFlags (flags : Flags) (place : Place)
    (register : Workload → Option DuplicateName × Registry) : Except RunError Job :=
  if flags.command = some .init then .ok (.deliver Config.defaultText flags.output)
  else
    match settingsFor flags place with
    | .error error => .error error
    | .ok settings =>
      (selectedFrom (register settings.workload) flags.filter).map (forCases flags settings)

end Job

end PushBench
