import GodotAtlas.CommandLine.Arguments
import GodotAtlas.Render.Markdown

namespace GodotAtlas.CommandLine

def usageLine : String :=
  "Usage: gdarch [OPTIONS] <PROJECT>\n"

def versionText : String :=
  s!"gdarch {Render.version}\n"

def helpText : String :=
  "\n".intercalate
    ["Godot project architecture extractor - builds a cross-referenced map of scripts, scenes, signals and assets",
     "",
     usageLine,
     "Arguments:",
     "  <PROJECT>  Path to the Godot project root (containing project.godot)",
     "",
     "Options:",
     "  -o, --output <OUTPUT>    Output file (default: <PROJECT>/PROJECT_ARCHITECTURE.md or .json)",
     "  -f, --format <FORMAT>    Output format [default: markdown] [possible values: markdown, json]",
     "      --full-source        Append the full source of every script",
     "      --exclude <EXCLUDE>  Comma-separated directory names to skip (replaces the configured list)",
     "  -c, --config <CONFIG>    Path to a YAML config file (default: auto-discover in the project root)",
     "  -v, --verbose...         Increase log verbosity (-v info, -vv debug)",
     "  -h, --help               Print help",
     "  -V, --version            Print version",
     ""]

namespace UsageError

def reason : UsageError → String
  | repeated => "an argument cannot be used multiple times"
  | invalidValue => "an argument has an invalid value or none"
  | unknownArgument => "unexpected argument found"
  | missingProject => "the following required arguments were not provided:\n  <PROJECT>"
  | valueForFlag => "unexpected value for an argument that takes none"
  | helpWanted => "help is asked for"
  | versionWanted => "the version is asked for"

def output : UsageError → String
  | helpWanted => helpText
  | versionWanted => versionText
  | _ => ""

def complaint : UsageError → String
  | helpWanted => ""
  | versionWanted => ""
  | e => s!"error: {e.reason}\n\n{usageLine}\nFor more information, try '--help'.\n"

def exitCode : UsageError → Nat
  | helpWanted => 0
  | versionWanted => 0
  | _ => 2

end UsageError

end GodotAtlas.CommandLine
