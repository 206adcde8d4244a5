import StorageLayout.CommandLine.Arguments
import StorageLayout.CommandLine.Report
import StorageLayout.Exchange.Document
import StorageLayout.Exchange.Policy
import StorageLayout.Json.Reader

/-!
# Running a command

A command reads its files one after another and stops at the first that is of no use. The exit
code is 0 if the report passes, 1 if it fails or there is none, and 2 if the arguments make no
sense; it does not depend on how anything is reported.
-/

namespace StorageLayout.CommandLine

inductive ReadFailure where
  | notFound
  | accessDenied
  /-- The path goes on behind the name of a file. -/
  | notADirectory
  | isADirectory
  | nameTooLong
  /-- The contents cannot be read for another reason. -/
  | broken
  deriving DecidableEq, Repr

namespace ReadFailure

def code : ReadFailure → Nat
  | notFound => 2
  | accessDenied => 13
  | notADirectory => 20
  | isADirectory => 21
  | nameTooLong => 36
  | broken => 5

def text : ReadFailure → String
  | notFound => "No such file or directory"
  | accessDenied => "Permission denied"
  | notADirectory => "Not a directory"
  | isADirectory => "Is a directory"
  | nameTooLong => "File name too long"
  | broken => "Input/output error"

end ReadFailure

/-- The files a command can see, by path. -/
abbrev Files := String → Except ReadFailure ByteArray

inductive CommandError where
  | unreadable (path : String) (failure : ReadFailure)
  | notText (path : String)
  | badJson (path : String) (fault : Json.Fault)
  | document (cause : DocumentError)
  | selection (path : String) (cause : DocumentError)
  | layout (cause : LayoutError)
  | policy (cause : PolicyError)

def CommandError.message : CommandError → String
  | unreadable path failure =>
    s!"could not read '{path}': {failure.text} (os error {failure.code})"
  | notText path => s!"could not read '{path}': stream did not contain valid UTF-8"
  | badJson path fault => s!"invalid JSON in '{path}': {fault.message}"
  | document cause => cause.message
  | selection path cause => s!"{path}: {cause.message}"
  | layout cause => cause.message
  | policy cause => cause.message

variable (files : Files)

def readText (path : String) : Except CommandError String :=
  match files path with
  | .error failure => .error (.unreadable path failure)
  | .ok bytes =>
    match String.fromUTF8? bytes with
    | some text => .ok text
    | none => .error (.notText path)

def readJson (path : String) : Except CommandError Json := do
  let text ← readText files path
  (Json.read text).mapError (.badJson path)

/-- The layout of the contract in a document. -/
def readContract (path : String) (name : Option String) : Except CommandError Layout := do
  let value ← readJson files path
  let document ← (Document.ofJson value).mapError .document
  let contract ← (document.select name).mapError (.selection path)
  return contract.layout

def readLayout (path : String) : Except CommandError Layout := do
  let value ← readJson files path
  (Layout.load value).mapError .layout

/-- The policy in a file, or the standard one without a file. -/
def readPolicy : Option String → Except CommandError Policy
  | none => .ok .standard
  | some path => do
    let text ← readText files path
    (Policy.ofToml text).mapError .policy

def report : Command → Except CommandError Report
  | .layout file contract => do
    let m ← readContract files file contract
    return .layout m
  | .diff old new contract => do
    let old ← readContract files old contract
    let new ← readContract files new contract
    return .comparison (old.compare new)
  | .upgrade old new contract config => do
    let policy ← readPolicy files config
    let old ← readContract files old contract
    let new ← readContract files new contract
    return .upgrade { old, new, policy }
  | .check file => do
    let m ← readLayout files file
    return .overfills m.contractName m.overfills

structure Outcome where
  code : Nat
  stdout : String
  stderr : String
  deriving DecidableEq, Repr

/-- 0 for a report that passes, else 1. -/
def exitCode : Except CommandError Report → Nat
  | .ok r => if r.passes then 0 else 1
  | .error _ => 1

def asLines (lines : List String) : String :=
  String.join (lines.map (· ++ "\n"))

def showReport (format : OutputFormat) (r : Report) : String :=
  match format with
  | .text => asLines r.lines
  | .json => r.toJson.pretty ++ "\n"

def showError (format : OutputFormat) (e : CommandError) : String :=
  match format with
  | .text => s!"error: {e.message}\n"
  | .json => (Json.object [("error", .string e.message)]).compact ++ "\n"

def conclude (reporting : Reporting) (result : Except CommandError Report) : Outcome :=
  if reporting.quiet then { code := exitCode result, stdout := "", stderr := "" }
  else
    match result with
    | .ok r => { code := exitCode result, stdout := showReport reporting.format r, stderr := "" }
    | .error e =>
      { code := exitCode result, stdout := "", stderr := showError reporting.format e }

def versionText : String :=
  "slotguard 0.1.0"

def helpLines : List String :=
  ["Storage layout and upgrade-safety checks for smart contracts", "", "Commands:",
    "  layout FILE [--contract NAME]", "  diff V1 V2 [--contract NAME]",
    "  upgrade V1 V2 [--contract NAME] [--config FILE]", "  check MAPPING", "", "Options:",
    "  --output text|json", "  --quiet", "  -v, --verbose", "  -h, --help", "  -V, --version"]

def run (args : List String) : Outcome :=
  match parseArguments args with
  | .error e => { code := 2, stdout := "", stderr := s!"error: {e.message}\n" }
  | .ok .showVersion => { code := 0, stdout := versionText ++ "\n", stderr := "" }
  | .ok .showHelp => { code := 0, stdout := asLines helpLines, stderr := "" }
  | .ok (.run reporting command) => conclude reporting (report files command)

def Command.paths : Command → List String
  | .layout file _ | .check file => [file]
  | .diff old new _ => [old, new]
  | .upgrade old new _ config => config.toList ++ [old, new]

theorem code_conclude (reporting : Reporting) (result : Except CommandError Report) :
    (conclude reporting result).code = exitCode result := by
  unfold conclude
  split
  · rfl
  · split <;> rfl

end StorageLayout.CommandLine
