/-!
# Help

What the program says about itself.  The short help has one line for each
argument, the long one a paragraph.
-/

namespace SchemaScript

namespace CommandLine

/-- Lines as a text in which every line is ended. -/
def ofLines (lines : List String) : String :=
  String.join (lines.map fun line => line ++ "\n")

def shortHelp : String :=
  ofLines [
    "Convert dataset-shaped XSD schemas into SQL Server CREATE TABLE scripts",
    "",
    "Usage: xsd-to-sql [OPTIONS] [XSD_INPUT] [SQL_OUTPUT]",
    "",
    "Arguments:",
    "  [XSD_INPUT]   XSD file to convert",
    "  [SQL_OUTPUT]  SQL file to write (overwritten if it exists)",
    "",
    "Options:",
    "      --prefix <PREFIX>    Table name prefix (default: input file name without extension)",
    "      --no-trailing-comma  Omit the comma after the last column of each table",
    "      --format <FORMAT>    Output format [default: sql] [possible values: sql, json]",
    "  -v, --verbose            Enable debug logging on stderr",
    "  -h, --help               Print help (see more with '--help')",
    "  -V, --version            Print version"]

def longHelp : String :=
  ofLines [
    "Convert dataset-shaped XSD schemas into SQL Server CREATE TABLE scripts",
    "",
    "Usage: xsd-to-sql [OPTIONS] [XSD_INPUT] [SQL_OUTPUT]",
    "",
    "Arguments:",
    "  [XSD_INPUT]",
    "          XSD file to convert",
    "",
    "  [SQL_OUTPUT]",
    "          SQL file to write (overwritten if it exists)",
    "",
    "Options:",
    "      --prefix <PREFIX>",
    "          Table name prefix (default: input file name without extension)",
    "",
    "      --no-trailing-comma",
    "          Omit the comma after the last column of each table",
    "",
    "      --format <FORMAT>",
    "          Output format",
    "",
    "          Possible values:",
    "          - sql:  CREATE TABLE script",
    "          - json: JSON array of discovered tables",
    "          ",
    "          [default: sql]",
    "",
    "  -v, --verbose",
    "          Enable debug logging on stderr",
    "",
    "  -h, --help",
    "          Print help (see a summary with '-h')",
    "",
    "  -V, --version",
    "          Print version"]

def versionText : String :=
  ofLines ["xsd-to-sql 0.1.0"]

def usage : String :=
  "Usage: xsd-to-sql <path_to_xsd> <output_file_path>"

end CommandLine

end SchemaScript
