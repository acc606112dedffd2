import SchemaDraft.CommandLine.Invocation

/-!
The texts that the command line has about itself.
-/

namespace SchemaDraft.CommandLine

def versionText : String := "pg-blueprint 0.1.0\n"

/-- Lines with a line feed after each. -/
def textOfLines (lines : List String) : String := String.join (lines.map (· ++ "\n"))

/-- The help about a topic. It shows the connection string that holds if no other is given. -/
def Topic.text (defaultUrl : Option String) : Topic → String
  | .overview => textOfLines
    ["Compile JSON schema blueprints to PostgreSQL DDL and apply them",
     "",
     "Usage: pg-blueprint [OPTIONS] <COMMAND>",
     "",
     "Commands:",
     "  compile     Print the statements for the given blueprint files",
     "  apply       Compile every file, then execute the statements in order",
     "  show-index  Print the catalog definition of an index",
     "  help        Print this message or the help of the given subcommand(s)",
     "",
     "Options:",
     "  -d, --database-url <DATABASE_URL>  PostgreSQL connection string [env: DATABASE_URL=" ++
       defaultUrl.getD "" ++ "]",
     "  -v, --verbose                      Enable verbose output",
     "  -h, --help                         Print help",
     "  -V, --version                      Print version"]
  | .compile => textOfLines
    ["Print the statements for the given blueprint files",
     "",
     "Usage: pg-blueprint compile <FILES>...",
     "",
     "Arguments:",
     "  <FILES>...  Blueprint JSON files, compiled in order",
     "",
     "Options:",
     "  -h, --help  Print help"]
  | .apply => textOfLines
    ["Compile every file, then execute the statements in order",
     "",
     "Usage: pg-blueprint apply [OPTIONS] <FILES>...",
     "",
     "Arguments:",
     "  <FILES>...  Blueprint JSON files, applied in order",
     "",
     "Options:",
     "      --dry-run  Show SQL without executing (dry run)",
     "  -h, --help     Print help"]
  | .showIndex => textOfLines
    ["Print the catalog definition of an index",
     "",
     "Usage: pg-blueprint show-index <NAME>",
     "",
     "Arguments:",
     "  <NAME>  Index name",
     "",
     "Options:",
     "  -h, --help  Print help"]
  | .help => textOfLines
    ["Print this message or the help of the given subcommand(s)",
     "",
     "Usage: pg-blueprint help [COMMAND]...",
     "",
     "Arguments:",
     "  [COMMAND]...  Print help for the subcommand(s)"]

end SchemaDraft.CommandLine
