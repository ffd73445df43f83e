import TableScaffold.Config.Basic
import TableScaffold.Text.Terminal

/-!
# Reading the command line

The words of a command line are options with their values, switches, and a command
at the end.  `Options.parse` reads them from the front; a word that asks for help or
the version ends the reading, and so does the first word that cannot be read.

An option whose value is the next word stays pending until the word after that, or
the end, is reached; only then is it known whether it is complete and new.
-/

namespace TableScaffold.CommandLine

/-! ## What can be said -/

/-- A command. -/
inductive Command where
  /-- generate all kinds that are switched on -/
  | generate
  /-- generate one kind -/
  | only (k : ArtifactKind)
  /-- list the tables of the schema -/
  | inspect
  deriving DecidableEq, Repr

namespace Command

/-- All commands, in the order in which help lists them. -/
def all : List Command :=
  [generate, only .proto, only .handler, only .service, only .repository, inspect]

/-- The word for a command. -/
def name : Command → Text
  | generate => "generate".toList
  | only .proto => "proto".toList
  | only .handler => "handlers".toList
  | only .service => "services".toList
  | only .repository => "repositories".toList
  | inspect => "inspect".toList

/-- The command that a word stands for. -/
def ofName? (w : Text) : Option Command := all.find? (·.name = w)

end Command

/-- The word that asks for help. -/
def helpWord : Text := "help".toList

/-- Whether a word is a command or asks for help. -/
def isCommandWord (w : Text) : Bool := w = helpWord || (Command.ofName? w).isSome

/-- An option with a value. -/
inductive ValueOption where
  | config
  | schema
  | output
  | templates
  deriving DecidableEq, Repr

namespace ValueOption

/-- All options with a value, in the order in which help lists them. -/
def all : List ValueOption := [config, schema, output, templates]

/-- The long name of an option. -/
def name : ValueOption → Text
  | config => "config".toList
  | schema => "schema".toList
  | output => "output".toList
  | templates => "templates".toList

/-- The short name of an option. -/
def letter : ValueOption → Char
  | config => 'c'
  | schema => 's'
  | output => 'o'
  | templates => 't'

/-- An option with the name of its value. -/
def usage (o : ValueOption) : Text :=
  "--".toList ++ o.name ++ " <".toList ++ o.name.map Char.toUpper ++ ['>']

end ValueOption

/-- A word without a value. -/
inductive Switch where
  | dryRun
  | help
  | version
  deriving DecidableEq, Repr

namespace Switch

/-- All switches. -/
def all : List Switch := [dryRun, help, version]

/-- The long name of a switch. -/
def name : Switch → Text
  | dryRun => "dry-run".toList
  | help => "help".toList
  | version => "version".toList

/-- A switch as it is written. -/
def usage (s : Switch) : Text := "--".toList ++ s.name

end Switch

/-- What a command line asks for. -/
structure Options where
  config : Option Path := none
  schema : Option Path := none
  output : Option Path := none
  templates : Option Path := none
  dryRun : Bool := false
  command : Option Command := none
  deriving DecidableEq, Repr

namespace Options

/-- The value of an option. -/
def get (o : Options) : ValueOption → Option Path
  | .config => o.config
  | .schema => o.schema
  | .output => o.output
  | .templates => o.templates

/-- Gives an option a value. -/
def set (o : Options) (name : ValueOption) (v : Path) : Options :=
  match name with
  | .config => { o with config := some v }
  | .schema => { o with schema := some v }
  | .output => { o with output := some v }
  | .templates => { o with templates := some v }

end Options

/-! ## What ends the reading -/

/-- What help is asked for. -/
inductive HelpTopic where
  | program
  | command (c : Command)
  | help
  deriving DecidableEq, Repr

/-- Why a command line cannot be read. -/
inductive UsageFault where
  | unexpectedArgument (word : Text)
  | unknownCommand (word : Text)
  | unexpectedValue (value option : Text)
  | missingValue (option : Text)
  | repeated (option : Text)
  deriving DecidableEq, Repr

/-- The wording of a fault, with what a terminal shows of the words in it. -/
def UsageFault.wording : UsageFault → Text
  | unexpectedArgument word =>
    "error: unexpected argument '".toList ++ Text.visible word ++ "' found".toList
  | unknownCommand word =>
    "error: unrecognized subcommand '".toList ++ Text.visible word ++ ['\'']
  | unexpectedValue value option =>
    "error: unexpected value '".toList ++ Text.visible value ++ "' for '".toList ++ option
      ++ "' found; no more were expected".toList
  | missingValue option =>
    "error: a value is required for '".toList ++ option ++ "' but none was supplied".toList
  | repeated option =>
    "error: the argument '".toList ++ option ++ "' cannot be used multiple times".toList

/-- The message of a fault: the first line of its wording. -/
def UsageFault.message (f : UsageFault) : Text := Text.firstLine f.wording

/-- What ends the reading of a command line early. -/
inductive Stop where
  | fault (f : UsageFault)
  | help (topic : HelpTopic)
  | version
  deriving DecidableEq, Repr

/-! ## Words -/

/-- The form of a word. -/
inductive Word where
  /-- two dashes alone, behind which no option counts -/
  | separator
  /-- a long name, perhaps with a value attached -/
  | long (name : Text) (attached : Option Text)
  /-- the letters behind one dash -/
  | short (letters : Text)
  | plain (w : Text)
  deriving DecidableEq, Repr

/-- A long name and the value attached to it. -/
def splitAttached (t : Text) : Text × Option Text :=
  match t.dropWhile (· ≠ '=') with
  | [] => (t, none)
  | _ :: v => (t.takeWhile (· ≠ '='), some v)

/-- The form of a word. -/
def Word.of (w : Text) : Word :=
  match w with
  | ['-', '-'] => separator
  | '-' :: '-' :: t => long (splitAttached t).1 (splitAttached t).2
  | '-' :: c :: t => short (c :: t)
  | w => plain w

/-! ## Reading -/

/-- What has been read. -/
structure Progress where
  options : Options := {}
  /-- an option that was named, with the word behind it if there was one -/
  pending : Option (ValueOption × Option Text) := none
  deriving DecidableEq, Repr

namespace Progress

/-- Gives an option its value, which is neither empty nor a second one. -/
def assign (p : Progress) (o : ValueOption) (v : Text) : Except Stop Progress :=
  if (p.options.get o).isSome then .error (.fault (.repeated o.usage))
  else if v.isEmpty then .error (.fault (.missingValue o.usage))
  else .ok { p with options := p.options.set o v }

/-- Completes the pending option. -/
def settle (p : Progress) : Except Stop Progress :=
  match p.pending with
  | none => .ok p
  | some (o, none) => .error (.fault (.missingValue o.usage))
  | some (o, some v) => { p with pending := none }.assign o v

/-- Whether the next word is the value of an option. -/
def awaitsValue (p : Progress) : Bool :=
  match p.pending with
  | some (_, none) => true
  | _ => false

/-- An option behind what was read, with the value attached to it. -/
def addOption (p : Progress) (o : ValueOption) (attached : Option Text) : Except Stop Progress := do
  let p ← p.settle
  match attached with
  | some v => p.assign o v
  | none => return { p with pending := some (o, none) }

/-- A switch behind what was read. -/
def addSwitch (p : Progress) (s : Switch) : Except Stop Progress := do
  let p ← p.settle
  match s with
  | .help => throw (.help .program)
  | .version => throw .version
  | .dryRun =>
    if p.options.dryRun then throw (.fault (.repeated s.usage))
    return { p with options := { p.options with dryRun := true } }

/-- A long name behind what was read. -/
def addLong (p : Progress) (name : Text) (attached : Option Text) : Except Stop Progress :=
  match ValueOption.all.find? (·.name = name), Switch.all.find? (·.name = name), attached with
  | some o, _, _ => p.addOption o attached
  | none, some s, none => p.addSwitch s
  | none, some s, some v => .error (.fault (.unexpectedValue v s.usage))
  | none, none, _ => .error (.fault (.unexpectedArgument ("--".toList ++ name)))

/-- The value attached to a letter, with or without an equals sign. -/
def attachedToLetter : Text → Option Text
  | [] => none
  | '=' :: v => some v
  | v => some v

/-- Letters behind what was read.  A letter without a value ends the reading, so
there is no second one. -/
def addLetters (p : Progress) : Text → Except Stop Progress
  | [] => .ok p
  | c :: r =>
    match ValueOption.all.find? (·.letter = c) with
    | some o => p.addOption o (attachedToLetter r)
    | none =>
      if c = 'h' then p.addSwitch .help
      else if c = 'V' then p.addSwitch .version
      else .error (.fault (.unexpectedArgument ['-', c]))

/-- A word behind what was read that is neither an option nor a command. -/
def addPlain (p : Progress) (w : Text) : Except Stop Progress :=
  match p.pending with
  | some (o, none) => .ok { p with pending := some (o, some w) }
  | _ => .error (.fault (.unknownCommand w))

end Progress

/-- The help that the words behind `help` ask for. -/
def helpTopic : List Text → Stop
  | [] => .help .program
  | w :: rest =>
    match if w = helpWord then some .help else (Command.ofName? w).map HelpTopic.command with
    | none => .fault (.unknownCommand w)
    | some topic =>
      match rest with
      | [] => .help topic
      | w :: _ => .fault (.unknownCommand w)

/-- What the words behind a command stop the reading with, if they do; a command
takes no words but those that ask for help. -/
def afterCommand (c : Command) : List Text → Except Stop Unit
  | [] => .ok ()
  | w :: rest =>
    match Word.of w with
    | .separator =>
      match rest with
      | [] => .ok ()
      | w :: _ => .error (.fault (.unexpectedArgument w))
    | .long name attached =>
      if name = Switch.help.name then
        match attached with
        | none => .error (.help (.command c))
        | some v => .error (.fault (.unexpectedValue v Switch.help.usage))
      else .error (.fault (.unexpectedArgument ("--".toList ++ name)))
    | .short letters =>
      if letters.head? = some 'h' then .error (.help (.command c))
      else .error (.fault (.unexpectedArgument ('-' :: letters.take 1)))
    | .plain w => .error (.fault (.unexpectedArgument w))

/-- Reads the words behind what was read. -/
def readWords (p : Progress) : List Text → Except Stop Options
  | [] => p.settle.map (·.options)
  | w :: rest =>
    if isCommandWord w && !p.awaitsValue then
      match Command.ofName? w with
      | none => .error (helpTopic rest)
      | some c =>
        match afterCommand c rest with
        | .error stop => .error stop
        | .ok _ => p.settle.map fun p => { p.options with command := some c }
    else
      match Word.of w with
      | .separator =>
        match rest with
        | [] => p.settle.map (·.options)
        | w :: _ =>
          .error (.fault (if isCommandWord w then .unexpectedArgument w else .unknownCommand w))
      | .long name attached => (p.addLong name attached).bind fun p => readWords p rest
      | .short letters => (p.addLetters letters).bind fun p => readWords p rest
      | .plain w => (p.addPlain w).bind fun p => readWords p rest

/-- Reads a command line, without the name of the program. -/
def Options.parse (words : List Text) : Except Stop Options := readWords {} words

end TableScaffold.CommandLine
