/-!
# Arguments of the command line

Options that concern all commands may stand before and behind the command's name; on each side
a value or a switch may be given once. A word that starts with a dash is an option unless `--`
came before it, and never the value of one.
-/

namespace StorageLayout.CommandLine

inductive OutputFormat where
  | text
  | json
  deriving DecidableEq, Repr

structure Reporting where
  format : OutputFormat
  /-- Nothing is written; the exit code tells the result. -/
  quiet : Bool
  /-- How often more detail was asked for. -/
  verbosity : Nat
  deriving DecidableEq, Repr

inductive Command where
  /-- Show the layout of a contract. -/
  | layout (file : String) (contract : Option String)
  /-- Compare two versions of a contract. -/
  | diff (old new : String) (contract : Option String)
  /-- Judge the upgrade between two versions by a policy. -/
  | upgrade (old new : String) (contract : Option String) (config : Option String)
  /-- Look for overfilled slots in a written layout. -/
  | check (file : String)
  deriving DecidableEq, Repr

inductive Invocation where
  | run (reporting : Reporting) (command : Command)
  | showVersion
  | showHelp
  deriving DecidableEq, Repr

inductive UsageError where
  | unknownOption (text : String)
  | unknownCommand (text : String)
  | missingCommand
  | missingValue (option : String)
  | unwantedValue (option : String)
  | badValue (option text : String)
  | repeated (option : String)
  | missingFile
  | unwantedFile (text : String)
  deriving DecidableEq, Repr

def UsageError.message : UsageError → String
  | unknownOption text => s!"unexpected argument '{text}'"
  | unknownCommand text => s!"unrecognized subcommand '{text}'"
  | missingCommand => "a subcommand is required"
  | missingValue option => s!"a value is required for '--{option}'"
  | unwantedValue option => s!"'--{option}' takes no value"
  | badValue option text => s!"invalid value '{text}' for '--{option}'"
  | repeated option => s!"'--{option}' cannot be used multiple times"
  | missingFile => "a file is required"
  | unwantedFile text => s!"unexpected argument '{text}'"

inductive Form where
  /-- The two dashes after which all arguments are plain words. -/
  | endOfOptions
  /-- A long option, perhaps with a value behind an equals sign. -/
  | long (name : String) (value : Option String)
  /-- One-letter options in a row. -/
  | short (letters : List Char)
  | plain
  deriving DecidableEq, Repr

/-- The text before the first equals sign, and the text behind it if there is one. -/
def splitAtEquals (cs : List Char) : String × Option String :=
  match cs.dropWhile (· ≠ '=') with
  | [] => (String.ofList cs, none)
  | _ :: value => (String.ofList (cs.takeWhile (· ≠ '=')), some (String.ofList value))

def Form.of (arg : String) : Form :=
  match arg.toList with
  | ['-', '-'] => .endOfOptions
  | '-' :: '-' :: rest =>
    let (name, value) := splitAtEquals rest
    .long name value
  | '-' :: c :: rest => .short (c :: rest)
  | _ => .plain

inductive CommandName where
  | layout
  | diff
  | upgrade
  | check
  deriving DecidableEq, Repr

namespace CommandName

def ofString? : String → Option CommandName
  | "layout" => some layout
  | "diff" => some diff
  | "upgrade" => some upgrade
  | "check" => some check
  | _ => none

def fileCount : CommandName → Nat
  | layout | check => 1
  | diff | upgrade => 2

def takesValue (command : Option CommandName) (option : String) : Bool :=
  option = "output" ||
    match command with
    | none | some check => false
    | some layout | some diff => option = "contract"
    | some upgrade => option = "contract" || option = "config"

end CommandName

/-- What was given on one side of the command's name. -/
structure Given where
  output : Option OutputFormat
  quiet : Bool
  verbosity : Nat
  contract : Option String
  config : Option String
  /-- The last file first. -/
  files : List String
  deriving DecidableEq, Repr

def Given.nothing : Given where
  output := none
  quiet := false
  verbosity := 0
  contract := none
  config := none
  files := []

/-- How reading the arguments of one side ends. -/
inductive Stop where
  /-- All arguments are read. -/
  | done (given : Given)
  /-- A command's name came, and these arguments follow it. -/
  | command (given : Given) (name : CommandName) (rest : List String)
  | showVersion
  | showHelp
  deriving DecidableEq, Repr

namespace Given

/-- Record a value; a file's name may not be empty. -/
def setValue (g : Given) (option value : String) : Except UsageError Given :=
  match option with
  | "output" =>
    if g.output.isSome then .error (.repeated option)
    else
      match value with
      | "text" => .ok { g with output := some .text }
      | "json" => .ok { g with output := some .json }
      | _ => .error (.badValue option value)
  | "contract" =>
    if g.contract.isSome then .error (.repeated option)
    else .ok { g with contract := some value }
  | "config" =>
    if g.config.isSome then .error (.repeated option)
    else if value = "" then .error (.badValue option value)
    else .ok { g with config := some value }
  | _ => .error (.unknownOption option)

def setSwitch (g : Given) (option : String) : Except UsageError Given :=
  match option with
  | "quiet" =>
    if g.quiet then .error (.repeated option) else .ok { g with quiet := true }
  | "verbose" => .ok { g with verbosity := g.verbosity + 1 }
  | _ => .error (.unknownOption ("--" ++ option))

def addFile (g : Given) (name : CommandName) (file : String) : Except UsageError Given :=
  if name.fileCount ≤ g.files.length then .error (.unwantedFile file)
  else if file = "" then .error (.badValue "file" file)
  else .ok { g with files := file :: g.files }

end Given

/-- A long option that ends the reading at once. The version is shown only before a command. -/
def stopAtLong? (command : Option CommandName) (option : String) : Option Stop :=
  if option = "help" then some .showHelp
  else if option = "version" ∧ command = none then some .showVersion
  else none

/-- A one-letter option that ends the reading at once. -/
def stopAtLetter? (command : Option CommandName) (letter : Char) : Option Stop :=
  if letter = 'h' then some .showHelp
  else if letter = 'V' ∧ command = none then some .showVersion
  else none

/-- Read one-letter options up to one that ends the reading. -/
def readLetters (command : Option CommandName) (g : Given) :
    List Char → Except UsageError (Given ⊕ Stop)
  | [] => .ok (.inl g)
  | c :: cs =>
    if c = 'v' then readLetters command { g with verbosity := g.verbosity + 1 } cs
    else
      match stopAtLetter? command c with
      | some stop => .ok (.inr stop)
      | none => .error (.unknownOption (String.ofList ['-', c]))

/-- Read the arguments behind the end of the options. -/
def readPlain (command : Option CommandName) (g : Given) : List String → Except UsageError Stop
  | [] => .ok (.done g)
  | arg :: rest =>
    match command with
    | none => .error (.unknownCommand arg)
    | some name => do
      let g ← g.addFile name arg
      readPlain command g rest

/-- Read the names behind `help`: none, or that of a command or of `help` itself. -/
def readHelpTopic : List String → Except UsageError Stop
  | [] => .ok .showHelp
  | name :: rest =>
    if name = "help" ∨ (CommandName.ofString? name).isSome then
      match rest with
      | [] => .ok .showHelp
      | extra :: _ => .error (.unknownCommand extra)
    else .error (.unknownCommand name)

/-- Read the arguments of one side: before the command's name, or behind it. -/
def readSide (command : Option CommandName) (g : Given) : List String → Except UsageError Stop
  | [] => .ok (.done g)
  | arg :: rest =>
    match Form.of arg with
    | .endOfOptions => readPlain command g rest
    | .short letters => do
      match ← readLetters command g letters with
      | .inl g => readSide command g rest
      | .inr stop => return stop
    | .long option value =>
      if CommandName.takesValue command option then
        match value, rest with
        | some value, rest => do
          let g ← g.setValue option value
          readSide command g rest
        | none, [] => .error (.missingValue option)
        | none, value :: rest =>
          if Form.of value = .plain then do
            let g ← g.setValue option value
            readSide command g rest
          else .error (.missingValue option)
      else
        match stopAtLong? command option, value with
        | _, some _ => .error (.unwantedValue option)
        | some stop, none => .ok stop
        | none, none => do
          let g ← g.setSwitch option
          readSide command g rest
    | .plain =>
      match command with
      | some name => do
        let g ← g.addFile name arg
        readSide command g rest
      | none =>
        match CommandName.ofString? arg with
        | some name => .ok (.command g name rest)
        | none => if arg = "help" then readHelpTopic rest else .error (.unknownCommand arg)

def makeCommand (name : CommandName) (g : Given) : Except UsageError Command :=
  match name, g.files.reverse with
  | .layout, [file] => .ok (.layout file g.contract)
  | .check, [file] => .ok (.check file)
  | .diff, [old, new] => .ok (.diff old new g.contract)
  | .upgrade, [old, new] => .ok (.upgrade old new g.contract g.config)
  | _, _ => .error .missingFile

/-- Put together what was given on both sides; behind the command wins. -/
def combine (before behind : Given) : Reporting where
  format := (behind.output <|> before.output).getD .text
  quiet := before.quiet || behind.quiet
  verbosity := if behind.verbosity = 0 then before.verbosity else behind.verbosity

def parseArguments (args : List String) : Except UsageError Invocation := do
  match ← readSide none .nothing args with
  | .done _ => .error .missingCommand
  | .showVersion => return .showVersion
  | .showHelp => return .showHelp
  | .command before name rest =>
    match ← readSide (some name) .nothing rest with
    | .done behind => return .run (combine before behind) (← makeCommand name behind)
    | .command _ _ _ => .error .missingCommand
    | .showVersion => return .showVersion
    | .showHelp => return .showHelp

end StorageLayout.CommandLine
