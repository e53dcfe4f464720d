/-!
What the program says about itself.
-/

namespace RowScript.CommandLine

def versionText : String := "wr 0.1.0\n"

/-- The commands and the options that all of them share. -/
def helpText : String :=
  String.join (List.map (· ++ "\n") [
    "Run directive scripts over JSON rows",
    "",
    "Usage: wr [OPTIONS] <COMMAND>",
    "",
    "Commands:",
    "  run    Run a directive script over a JSON array of rows",
    "  check  Parse and initialize a script without processing rows",
    "  list   List available directives",
    "  usage  Show the argument grammar of a directive",
    "  help   Print this message or the help of the given subcommand(s)",
    "",
    "Options:",
    "  -c, --config <CONFIG>  Path to config file",
    "  -h, --help             Print help",
    "  -V, --version          Print version"])

end RowScript.CommandLine
