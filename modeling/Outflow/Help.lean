import Outflow.Options

/-!
# Explanations

What the program tells about itself: its version, its options, and why a command line was
refused.
-/

namespace Outflow

/-- The name of the program and its version. -/
def versionLine : String := "procdrain 0.1.0\n"

/-- Lines, each with its end. -/
def paragraph (lines : List String) : String := String.join (lines.map (· ++ "\n"))

namespace HelpTopic

/-- What is said about the option for more detail. -/
def verboseNote : String := "Enable verbose output (-v for debug, -vv for trace, -vvv for all)"

/-- An overview. -/
def overviewText : String := paragraph
  ["procdrain - Run a command, drain its output, report the result",
   "",
   "Usage: procdrain [OPTIONS] <COMMAND>",
   "",
   "Commands:",
   "  run     Run a command, draining stdout and stderr concurrently",
   "  config  Print the effective runner configuration",
   "  help    Print this message or the help of the given subcommand(s)",
   "",
   "Options:",
   s!"  -v, --verbose...  {verboseNote}",
   "  -h, --help        Print help",
   "  -V, --version     Print version"]

/-- The options of `config`. -/
def configText : String := paragraph
  ["Print the effective runner configuration",
   "",
   "Usage: procdrain config [OPTIONS]",
   "",
   "Options:",
   "  -c, --config <CONFIG>  Runner configuration file (TOML)",
   s!"  -v, --verbose...       {verboseNote}",
   "  -h, --help             Print help"]

/-- The options of `run`, with what is said about each. -/
def runOptions : List (String × String) :=
  [("-C, --cwd <DIR>", "Working directory for the command"),
   ("-v, --verbose...", verboseNote),
   ("-e, --env <KEY=VALUE>",
    "Extra environment variable, merged over the inherited environment"),
   ("    --no-capture",
    "Let the command write straight to this terminal instead of capturing"),
   ("    --live", "Log each output line as it arrives"),
   ("    --timeout <TIMEOUT>", "Stop the command after this long (e.g. \"30s\", \"5m\")"),
   ("-c, --config <CONFIG>", "Runner configuration file (TOML)")]

/-- How the explanations of `run` begin. -/
def runHead : List String :=
  ["Run a command, draining stdout and stderr concurrently",
   "",
   "Usage: procdrain run [OPTIONS] <COMMAND>...",
   "",
   "Arguments:"]

/-- The options of `run`, each in one line. -/
def runText : String :=
  let row (option note : String) : String := "  " ++ option.pushn ' ' (25 - option.length) ++ note
  paragraph (runHead ++
    ["  <COMMAND>...  Program and arguments to run", "", "Options:"] ++
    runOptions.map (fun (option, note) => row option note) ++
    [row "    --format <FORMAT>"
        "How to report the result [default: text] [possible values: text, json]",
     row "-h, --help" "Print help (see more with '--help')"])

/-- The options of `run`, each in a paragraph. -/
def fullRunText : String :=
  paragraph (runHead ++
    ["  <COMMAND>...", "          Program and arguments to run", "", "Options:"] ++
    runOptions.flatMap (fun (option, note) => ["  " ++ option, "          " ++ note, ""]) ++
    ["      --format <FORMAT>",
     "          How to report the result",
     "",
     "          Possible values:",
     "          - text: Replay captured stdout/stderr unchanged",
     "          - json: A single JSON document describing the run",
     -- The line between is not empty but has the indentation of the paragraph.
     "          ",
     "          [default: text]",
     "",
     "  -h, --help",
     "          Print help (see a summary with '-h')"])

/-- The arguments of `help`. -/
def helpText : String := paragraph
  ["Print this message or the help of the given subcommand(s)",
   "",
   "Usage: procdrain help [COMMAND]...",
   "",
   "Arguments:",
   "  [COMMAND]...  Print help for the subcommand(s)"]

/-- The explanation of a topic. -/
def text : HelpTopic → String
  | overview => overviewText
  | help => helpText
  | run inFull => if inFull then fullRunText else runText
  | config => configText

end HelpTopic

namespace UsageError

/-- What is wrong with a command line. -/
def reason : UsageError → String
  | helpWanted _ => "an explanation was asked for"
  | versionWanted => "the version was asked for"
  | nothingAsked => "a subcommand is required but was not provided"
  | verbMissing => "a subcommand is required but was not provided"
  | verbUnknown => "unrecognized subcommand"
  | argumentUnknown => "unexpected argument found"
  | commandMissing => "the following required arguments were not provided:\n  <COMMAND>..."
  | conflict => "an argument cannot be used with one of the others"
  | valueInvalid => "a value is missing or not one of those allowed"
  | valueUnwanted => "unexpected value found for an option that takes none"
  | valueRefused cause => s!"invalid value: {cause}"

/-- What is written to stdout. -/
def stdoutText : UsageError → String
  | helpWanted topic => topic.text
  | versionWanted => versionLine
  | _ => ""

/-- What is written to stderr. -/
def stderrText : UsageError → String
  | helpWanted _ => ""
  | versionWanted => ""
  | nothingAsked => HelpTopic.overview.text
  | e => s!"error: {e.reason}\n\nUsage: procdrain [OPTIONS] <COMMAND>\n\n" ++
    "For more information, try '--help'.\n"

end UsageError

end Outflow
