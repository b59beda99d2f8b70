import MeshDestination.CommandLine

/-!
# The program

Reads the file that the command names and writes what the command leaves behind.
-/

open MeshDestination

/-- The reason of a failure to read a file. -/
def fileError : IO.Error → FileError
  | .permissionDenied .. => .denied
  | .inappropriateType _ code _ => if code = 21 then .isDirectory else .notInDirectory
  | _ => .missing

/-- The bytes of a file. -/
def fileContent (path : String) : IO (Except FileError (List UInt8)) := do
  try
    let bytes ← IO.FS.readBinFile path
    return .ok bytes.data.toList
  catch e =>
    return .error (fileError e)

/-- Runs the command of some arguments. -/
def runArguments (args : List String) : IO CommandResult := do
  match args with
  | "profile" :: rest =>
    match ProfileCommand.ofArguments? rest with
    | some command =>
      let content ← fileContent command.definition
      return command.run content
    | none => return usageError
  | _ => return usageError

def main (args : List String) : IO UInt32 := do
  let result ← runArguments args
  IO.print result.stdout
  IO.eprint result.stderr
  return result.code.toUInt32
