import BuildPicker.Loading.Settings

/-!
The help text of the command line.
-/

namespace BuildPicker.CommandLine

def usageLine : String :=
  "Usage: run-select [OPTIONS] --history <HISTORY> --job <JOB>"

def helpText (environment : Option String) : String :=
  "\n".intercalate [
    "Select a build from a job's history",
    "",
    usageLine,
    "",
    "Options:",
    "      --history <HISTORY>    Build history file (YAML, or JSON with a .json extension)",
    "  -j, --job <JOB>            Job to select from",
    "  -s, --selector <SELECTOR>  Selector expression; defaults to the latest stable build",
    "  -f, --filter <FILTER>      Filter expression; defaults to accepting every build",
    "      --origin <ORIGIN>      Build that started this request, as job#number",
    "      --var <VARS>           Variable binding NAME=VALUE, repeatable",
    "      --config <CONFIG>      Selector settings file [env: " ++ Settings.environmentVariable ++
      "=" ++ environment.getD "" ++ "]",
    "  -v, --verbose              Log every candidate the selector visits",
    "  -h, --help                 Print help",
    ""]

end BuildPicker.CommandLine
