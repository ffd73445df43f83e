import TableScaffold.CommandLine.Options

/-!
# Help

What the program tells about itself: its version, its commands and its options.
-/

namespace TableScaffold.CommandLine

/-- The name of the program. -/
def programName : Text := "crudgen".toList

/-- The text that answers a question for the version. -/
def versionText : Text := programName ++ " 0.1.0\n".toList

/-- What the program does. -/
def programAbout : Text :=
  "Generate proto messages, HTTP handlers, services and Postgres repositories from table DDL".toList

/-- What a command does. -/
def Command.about : Command → Text
  | generate => "Generate all enabled artifacts".toList
  | only .proto => "Generate only .proto files".toList
  | only .handler => "Generate only HTTP handlers".toList
  | only .service => "Generate only service wrappers".toList
  | only .repository => "Generate only repositories".toList
  | inspect => "Inspect schema (show parsed tables for debugging)".toList

/-- What the word for help does. -/
def helpAbout : Text := "Print this message or the help of the given subcommand(s)".toList

/-- What an option does. -/
def ValueOption.about : ValueOption → Text
  | config =>
    "Path to configuration file (TOML format); defaults to ./crudgen.toml if present".toList
  | schema => "Path to SQL schema file (overrides config)".toList
  | output => "Root output directory (overrides config)".toList
  | templates => "Directory with template overrides (overrides config)".toList

/-- What a switch does. -/
def Switch.about : Switch → Text
  | dryRun => "Dry run - show what would be generated without writing files".toList
  | help => "Print help".toList
  | version => "Print version".toList

/-- How a switch is listed. -/
def Switch.listing : Switch → Text
  | dryRun => "    --dry-run".toList
  | help => "-h, --help".toList
  | version => "-V, --version".toList

/-- How an option is listed. -/
def ValueOption.listing (o : ValueOption) : Text := ['-', o.letter, ',', ' '] ++ o.usage

/-- Rows of two columns, the first of which is as wide as its widest entry. -/
def rows (entries : List (Text × Text)) : Text :=
  let width := (entries.map (·.1.length)).foldl max 0
  entries.flatMap fun e =>
    "  ".toList ++ e.1 ++ List.replicate (width - e.1.length) ' ' ++ "  ".toList ++ e.2 ++ ['\n']

/-- A heading with rows under it. -/
def titled (title : Text) (entries : List (Text × Text)) : Text :=
  "\n".toList ++ title ++ ":\n".toList ++ rows entries

/-- What something does, and how it is called. -/
def heading (about usage : Text) : Text :=
  about ++ "\n\nUsage: ".toList ++ programName ++ [' '] ++ usage ++ ['\n']

/-- The help for a topic. -/
def HelpTopic.text : HelpTopic → Text
  | program =>
    heading programAbout "[OPTIONS] [COMMAND]".toList
      ++ titled "Commands".toList
        (Command.all.map (fun c => (c.name, c.about)) ++ [(helpWord, helpAbout)])
      ++ titled "Options".toList
        (ValueOption.all.map (fun o => (o.listing, o.about))
          ++ Switch.all.map fun s => (s.listing, s.about))
  | command c =>
    heading c.about c.name
      ++ titled "Options".toList [(Switch.help.listing, Switch.help.about)]
  | help =>
    heading helpAbout "help [COMMAND]...".toList
      ++ titled "Arguments".toList
        [("[COMMAND]...".toList, "Print help for the subcommand(s)".toList)]

end TableScaffold.CommandLine
