/-
The texts that explain the command line.
-/
namespace ReplicaRouter.CommandLine

def programName : String := "switchyard"

def programVersion : String := "0.1.0"

def programPurpose : String :=
  "Read/write-splitting connection routing for replicated database clusters"

/-- The options of every command. -/
def sharedOptions : List String := [
  "      --log-level <LOG_LEVEL>    Log level override (error, warn, info, debug, trace)",
  "      --log-format <LOG_FORMAT>  Log format override (text, json)"]

def topHelp : List String :=
  [programPurpose,
    "",
    "Usage: switchyard [OPTIONS] <COMMAND>",
    "",
    "Commands:",
    "  config    Generate an example configuration file",
    "  validate  Validate configuration file",
    "  classify  Show how the router classifies a SQL statement",
    "  version   Show version information",
    "  help      Print this message or the help of the given subcommand(s)",
    "",
    "Options:"] ++ sharedOptions ++ [
    "  -h, --help                     Print help",
    "  -V, --version                  Print version"]

def subHelp (name : String) : List String :=
  if name = "config" then
    ["Generate an example configuration file",
      "",
      "Usage: switchyard config [OPTIONS] --output <OUTPUT>",
      "",
      "Options:",
      "  -p, --profile <PROFILE>        Configuration profile (default or load-balanced) [default: default]",
      "      --log-level <LOG_LEVEL>    Log level override (error, warn, info, debug, trace)",
      "  -o, --output <OUTPUT>          Output file path",
      "      --log-format <LOG_FORMAT>  Log format override (text, json)",
      "  -h, --help                     Print help"]
  else if name = "validate" then
    ["Validate configuration file",
      "",
      "Usage: switchyard validate [OPTIONS] --config <CONFIG>",
      "",
      "Options:",
      "  -c, --config <CONFIG>          Path to configuration file to validate"] ++ sharedOptions ++
      ["  -h, --help                     Print help"]
  else if name = "classify" then
    ["Show how the router classifies a SQL statement",
      "",
      "Usage: switchyard classify [OPTIONS] <SQL>",
      "",
      "Arguments:",
      "  <SQL>  SQL text, possibly several statements separated by ';'",
      "",
      "Options:",
      "      --autocommit <AUTOCOMMIT>  Classify as if autocommit were on " ++
        "[default: true] [possible values: true, false]"] ++
      sharedOptions ++ ["  -h, --help                     Print help"]
  else if name = "version" then
    ["Show version information",
      "",
      "Usage: switchyard version [OPTIONS]",
      "",
      "Options:"] ++ sharedOptions ++ ["  -h, --help                     Print help"]
  else
    ["Print this message or the help of the given subcommand(s)",
      "",
      "Usage: switchyard help [COMMAND]..."]

/-- What the `version` command shows, on a machine of this kind. -/
def versionReport (target : String) : List String := [
  programName ++ " v" ++ programVersion,
  programPurpose,
  "",
  "Target: " ++ target,
  "",
  "Features:",
  "  • Lazy writer/reader switching with transaction pinning",
  "  • Random or round-robin reader selection",
  "  • Per-host connection pools with sliding expiration",
  "  • Lightweight SQL classification for transaction boundaries"]

end ReplicaRouter.CommandLine
