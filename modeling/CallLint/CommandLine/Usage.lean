/-!
# Usage and help texts
-/

namespace CallLint.CommandLine

/-- The name of the program in messages. -/
def programName : String := "authlint"

/-- The version of the program. -/
def version : String := "0.1.0"

/-- The lines of the usage text. -/
def usageLines : List String := [
  "usage: authlint [-h] [--source SOURCE_DIRS] [--config CONFIG]",
  "                [--format \x7bjson\x7d] [--out OUTPUT_PATH]",
  "                [--fail-on \x7berror,warning,info,hidden\x7d] [--suggest-fixes]",
  "                [--verbose]"]

/-- The lines of the help text after the usage. -/
def helpLines : List String := [
  "",
  "Flag literal string arguments passed to qualified calls in authentication code",
  "",
  "options:",
  "  -h, --help            show this help message and exit",
  "  --source SOURCE_DIRS, -s SOURCE_DIRS",
  "                        File or directory of Python source to analyze",
  "                        (repeatable).",
  "  --config CONFIG       Path to the YAML settings file (ignored when missing).",
  "  --format \x7bjson\x7d       Report format for file output (defaults to json).",
  "  --out OUTPUT_PATH, --output OUTPUT_PATH",
  "                        Write the JSON report to this path instead of stdout.",
  "  --fail-on \x7berror,warning,info,hidden\x7d",
  "                        Lowest severity that makes the scan fail (defaults to",
  "                        warning).",
  "  --suggest-fixes       Attach extract-constant fix proposals to reported",
  "                        findings.",
  "  --verbose, -v         Enable debug logging."]

/-- The text of lines. -/
def ofLines (ls : List String) : List Char := ls.flatMap fun l => l.toList ++ ['\n']

/-- The usage text. -/
def usage : List Char := ofLines usageLines

/-- The help text. -/
def help : List Char := ofLines (usageLines ++ helpLines)

end CallLint.CommandLine
