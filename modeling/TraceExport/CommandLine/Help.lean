/-
The texts that the command shows about itself.
-/
namespace TraceExport.CommandLine

/-- The name of the command. -/
def name : String := "etw-export-cli"

/-- The name and version. -/
def versionText : String := name ++ " 0.1.0\n"

/-- How the command is used. -/
def usageLine : String := "Usage: " ++ name ++ " [OPTIONS]"

/-- An option and what it is for, at a fixed width. -/
def helpLine (option purpose : String) : String :=
  "  " ++ option ++ String.ofList (List.replicate (27 - option.length) ' ') ++ purpose

/-- What the command is for, and its options. -/
def helpText : String := "\n".intercalate [
  "Replay trace events through a keyword-gated ETW exporter",
  "",
  usageLine,
  "",
  "Options:",
  helpLine "-c, --config <FILE>" "Path to configuration file (config.toml)",
  helpLine "-k, --keyword <KEYWORD>"
    "Session keyword, e.g. 0x8000000000000009 (overrides config)",
  helpLine "-e, --enable <CATEGORIES>" "Comma-separated categories to enable (overrides config)",
  helpLine "    --no-listener" "Run without an attached consumer",
  helpLine "-o, --output <FILE>" "Output file for exported events (default: stdout)",
  helpLine "    --format <FORMAT>"
    "Output format for exported events [possible values: json, text]",
  helpLine "    --render-all-args" "Render every argument kind, including convertable values",
  helpLine "    --list-categories" "Print the category keyword bits and exit",
  helpLine "-t, --threads <THREADS>" "Number of worker threads emitting events [default: 4]",
  helpLine "-v, --verbose..." "Verbosity level (can be repeated: -v, -vv, -vvv)",
  helpLine "-q, --quiet" "Suppress all output except errors",
  helpLine "-h, --help" "Print help",
  helpLine "-V, --version" "Print version"] ++ "\n"

end TraceExport.CommandLine
