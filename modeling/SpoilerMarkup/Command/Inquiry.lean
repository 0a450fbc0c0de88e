import SpoilerMarkup.Command.Render

/-!
What the program says of itself: its version, and how it is used. Main definition:
`Inquiry.result`.
-/
namespace SpoilerMarkup.Command

def versionText : String := "spoiler 0.1.0\n"

def textOfLines (lines : List String) : String :=
  String.join (lines.map (· ++ "\n"))

def helpText : String :=
  textOfLines
    ["Spoiler markdown renderer - CLI",
      "",
      "Usage: spoiler <COMMAND>",
      "",
      "Commands:",
      "  render  Render markdown to HTML",
      "  help    Print this message or the help of the given subcommand(s)",
      "",
      "Options:",
      "  -h, --help     Print help",
      "  -V, --version  Print version"]

/-- The help on the command that renders. It shows the path of a configuration that the environment
names. -/
def renderHelpText (config : Option String) : String :=
  textOfLines
    ["Render markdown to HTML",
      "",
      "Usage: spoiler render [OPTIONS] [FILES]...",
      "",
      "Arguments:",
      "  [FILES]...  Markdown files to render (`-` or none reads stdin)",
      "",
      "Options:",
      "  -o, --output <OUTPUT>  Write HTML to this file instead of stdout",
      "      --class <CLASS>    CSS class for spoiler spans (overrides config)",
      "      --no-gfm           Disable GitHub Flavored Markdown extensions",
      "  -c, --config <CONFIG>  Path to configuration file (default: auto-discover spoiler.toml) " ++
        "[env: SPOILER_CONFIG=" ++ config.getD "" ++ "]",
      "  -v, --verbose          Enable verbose output",
      "  -h, --help             Print help"]

/-- What comes of a command line that does not ask for rendering. `complaint` is what the reader of
arguments says of one that is not well formed. -/
def Inquiry.result (config : Option String) (complaint : String) : Inquiry → Result
  | .version => { exit := 0, stdout := versionText }
  | .help => { exit := 0, stdout := helpText }
  | .renderHelp => { exit := 0, stdout := renderHelpText config }
  | .misuse => { exit := 2, stderr := complaint }

end SpoilerMarkup.Command
