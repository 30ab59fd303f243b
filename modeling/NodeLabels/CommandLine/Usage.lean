import NodeLabels.CommandLine
/-!
# Usage

What the program says about its command line.
-/

namespace NodeLabels.CommandLine

def usage : String :=
  "Keeps the labels of cluster nodes in line with what the cloud knows about them\n\n" ++
  "Usage: labeler [OPTIONS] <COMMAND>\n\n" ++
  "Commands:\n" ++
  "  topology  Keep the local node's physical topology labels up to date\n" ++
  "  predict   Label all GPU nodes with the GPU failure prediction, once\n" ++
  "  help      Print this message\n\n" ++
  "Options:\n" ++
  "  -c, --config <CONFIG>          Path to configuration file\n" ++
  "      --log-level <LOG_LEVEL>    Log level (trace, debug, info, warn, error)\n" ++
  "      --log-json                 Output logs in JSON format\n" ++
  "      --dry-run                  Log label patches but don't send them\n" ++
  "      --once                     topology: run a single update cycle and exit\n" ++
  "      --project-id <PROJECT_ID>  predict: Google Cloud project\n" ++
  "  -h, --help                     Print help\n" ++
  "  -V, --version                  Print version"

/-- What is wrong with the arguments, if anything. -/
def Refusal.complaint? : Refusal → Option String
  | .unknownArgument => some "unexpected argument found"
  | .invalidSubcommand => some "unrecognized subcommand"
  | .invalidValue => some "invalid or missing value for an option"
  | .argumentConflict => some "an option cannot be used multiple times"
  | .tooManyValues => some "unexpected value for an option"
  | .missingSubcommand => some "a subcommand is required but one was not provided"
  | .nothingGiven | .help | .version => none

end NodeLabels.CommandLine
