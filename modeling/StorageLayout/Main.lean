import StorageLayout.CommandLine.Run

/-!
# The program

Reads the files that the arguments name, and writes what the run leaves behind.
-/

namespace StorageLayout.CommandLine

/-- The code of a system's error, which may come negated, stands for a failure. -/
def hasCode (code : UInt32) (failure : ReadFailure) : Bool :=
  code.toNat = failure.code || (-code).toNat = failure.code

def readFailureOf : IO.Error → ReadFailure
  | .noFileOrDirectory _ _ _ => .notFound
  | .permissionDenied _ _ _ => .accessDenied
  | .inappropriateType _ code _ =>
    if hasCode code .isADirectory then .isADirectory else .notADirectory
  | .invalidArgument _ code _ => if hasCode code .nameTooLong then .nameTooLong else .broken
  | _ => .broken

def readAhead : List String → IO (List (String × Except ReadFailure ByteArray))
  | [] => pure []
  | path :: rest => do
    let contents ← (IO.FS.readBinFile path).toBaseIO
    let others ← readAhead rest
    return (path, contents.mapError readFailureOf) :: others

def filesOf (contents : List (String × Except ReadFailure ByteArray)) : Files :=
  fun path => (contents.lookup path).getD (.error .notFound)

end StorageLayout.CommandLine

open StorageLayout.CommandLine in
def main (args : List String) : IO UInt32 := do
  let paths :=
    match parseArguments args with
    | .ok (.run _ command) => command.paths
    | _ => []
  let contents ← readAhead paths
  let outcome := run (filesOf contents) args
  IO.print outcome.stdout
  IO.eprint outcome.stderr
  return outcome.code.toUInt32
