import PushBench.CommandLine.Reader
import PushBench.Report.Basic

/-!
# Usage

What is shown when a command line calls for help or for the version, or is refused.
-/

namespace PushBench

/-- The name of the program. -/
def programName : String := "pvbench"

/-- The help on all flags and commands. -/
def helpText : String :=
  programName ++ " - persistent vector push benchmarks\n\n" ++
  "Usage: " ++ programName ++ " [OPTIONS] [FILTER] [COMMAND]\n\n" ++
  "Commands:\n" ++
  "  list  List the cases that would run\n" ++
  "  run   Run the suite (default)\n" ++
  "  init  Print a default configuration\n" ++
  "  help  Print this message\n\n" ++
  "Arguments:\n" ++
  "  [FILTER]  Filter cases by regular expression [default: .*]\n\n" ++
  "Options:\n" ++
  "      --config <CONFIG>                Configuration file\n" ++
  "  -n, --len <LEN>                      Elements pushed per invocation\n" ++
  "      --sample-window <SAMPLE_WINDOW>  Target duration of one sample\n" ++
  "      --min-samples <MIN_SAMPLES>      Fewest samples before the target can end sampling\n" ++
  "      --target-rme <TARGET_RME>        Relative margin of error target, percent\n" ++
  "      --max-time <MAX_TIME>            Time budget of a case\n" ++
  "      --confidence <CONFIDENCE>        Confidence level: 0.90, 0.95 or 0.99\n" ++
  "      --format <FORMAT>                Output format: human, json\n" ++
  "  -o, --output <OUTPUT>                Output file\n" ++
  "      --pin-cpu <PIN_CPU>              Pin the measuring thread to a processor\n" ++
  "      --verify                         Check the contents of all adapters before timing\n" ++
  "      --dry-run                        List cases without running them\n" ++
  "  -v, --verbose                        Verbose output\n" ++
  "  -h, --help                           Print help\n" ++
  "  -V, --version                        Print version\n"

namespace Interruption

/-- What goes to the console. -/
def consoleText : Interruption → String
  | .help => helpText
  | .version => programName ++ " " ++ programVersion ++ "\n"
  | .refused _ => ""

/-- What goes to the error stream. -/
def errorText : Interruption → String
  | .refused error =>
    "error: " ++ error.message ++ "\n\nFor more information, try '--help'.\n"
  | _ => ""

end Interruption

end PushBench
