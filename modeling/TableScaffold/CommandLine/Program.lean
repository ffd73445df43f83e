import TableScaffold.CommandLine.Help
import TableScaffold.CommandLine.Listing
import TableScaffold.Config.Load
import TableScaffold.Config.Validation
import TableScaffold.Generation.Run
import TableScaffold.Standalone

/-!
# The program

A command line is read, the configuration is loaded and overridden by it, and the
command is carried out.  The program runs in any monad with files, and its outcome
is a value: what it prints, without the log that it keeps beside, and its exit code.
-/

namespace TableScaffold.CommandLine

/-- How the program ends. -/
inductive Outcome where
  | finished (output : Text)
  /-- with an error, behind what was printed before it -/
  | failed (output error : Text)
  /-- without having begun -/
  | misused (fault : UsageFault)
  deriving DecidableEq, Repr

namespace Outcome

/-- The exit code. -/
def code : Outcome → Nat
  | finished _ => 0
  | failed _ _ => 1
  | misused _ => 2

/-- What is printed. -/
def output : Outcome → Text
  | finished output => output
  | failed output _ => output
  | misused _ => []

/-- What is printed as an error. -/
def errorOutput : Outcome → Text
  | finished _ => []
  | failed _ error => error
  | misused fault => fault.message

end Outcome

/-- The report of an error, and of the one behind it if there is one. -/
def errorReport (message : Text) (cause : Option Text) : Text :=
  let indented (t : Text) : Text := t.flatMap fun c => if c = '\n' then "\n    ".toList else [c]
  "Error: ".toList ++ message ++ ['\n']
    ++ match cause with
      | none => []
      | some cause => "\nCaused by:\n    ".toList ++ indented cause ++ ['\n']

/-- The end with an error. -/
def fail (output : Text) (e : ScaffoldError) : Outcome :=
  .failed output (errorReport e.message e.cause?)

/-- The configuration with what the command line says in place of its own. -/
def Options.override (o : Options) (c : Config) : Config :=
  let c := { c with
    schemaFile := o.schema.getD c.schemaFile
    outputDir := o.output.getD c.outputDir
    templateDir := o.templates.or c.templateDir
    dryRun := o.dryRun || c.dryRun }
  match o.command with
  | some (.only k) => c.only k
  | _ => c

/-- The listing of a schema: the tables before its first fault, and their number if
there is no fault. -/
def inspection (sql : Text) : Outcome :=
  let schema := Schema.read sql
  let listed := schema.tables.flatMap tableLines
  match schema.failure with
  | some e => .failed listed (errorReport e.message none)
  | none => .finished (listed ++ countLine schema.tables.length)

variable {m : Type → Type} [Monad m] [FileAccess m] [FormatAccess m]

/-- Lists the schema of a configuration. -/
def inspect (c : Config) : m Outcome := do
  match ← FileAccess.readText c.schemaFile with
  | .error fault => return .failed [] (errorReport fault.message none)
  | .ok sql => return inspection sql

variable [Template.Engine]

/-- Generates what a configuration asks for, if it is accepted. -/
def generate (c : Config) : m Outcome := do
  let result ← (do c.validate; c.generate : ExceptT ScaffoldError m Report).run
  match result with
  | .error e => return fail [] e
  | .ok report => return .finished (if c.dryRun then dryRunLines report.files else [])

variable [ForeignSettings]

/-- Carries out what the options ask for. -/
def perform (o : Options) (environment : Environment) : m Outcome := do
  match ← (Config.load (m := m) o.config environment).run with
  | .error e => return fail [] e
  | .ok c =>
    let c := o.override c
    if o.command = some .inspect then inspect c else generate c

/-- Runs the program with the words of a command line. -/
def run (words : List Text) (environment : Environment) : m Outcome :=
  match Options.parse words with
  | .error (.fault fault) => return .misused fault
  | .error (.help topic) => return .finished topic.text
  | .error .version => return .finished versionText
  | .ok o => perform o environment

end TableScaffold.CommandLine
