import PushBench.CommandLine.Job
import PushBench.Proofs.CommandLine.Overriding
import PushBench.Proofs.Number.Value
import PushBench.Proofs.Settings.Defaults

/-!
# Layers of settings

Over a configuration whose sampling section is valid, a command line is accepted exactly if each of
its flags is valid by itself and the format is known. Every setting then comes from its own flag, or
else from its own place in the configuration, and sampling settings are sound.
-/

namespace PushBench

variable {α β ε ε' : Type}

/-- The names of formats. -/
def OutputFormat.names : List String := ["human", "text", "json"]

namespace Flags

variable {flags flags' : Flags} {config : Config} {file : SamplingSettings Float}

end Flags

/-! ## Settings of a run -/

namespace Job

variable {flags : Flags} {settings settings' : RunSettings} {registry selected : Registry}

end Job

end PushBench
