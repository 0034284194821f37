import HostRouting.Cli.Run
import HostRouting.Http.Client
import HostRouting.Http.Script

/-!
# The program

The command line as a program. It reads the one file that a command names and prints the
outcome. There is no network here: a service is always out of reach.
-/
namespace HostRouting

/-- The text of a file. -/
def readTextFile (path : Text) : IO (Except Cli.FileError Text) := do
  try
    let bytes ← IO.FS.readBinFile (String.ofList path)
    let text := Text.ofUtf8 bytes.toList
    return if Text.utf8Bytes text = bytes.toList then .ok text else .error .notText
  catch
    | .noFileOrDirectory .. => return .error .notFound
    | .inappropriateType .. => return .error .isDirectory
    | .permissionDenied .. => return .error .permissionDenied
    | _ => return .error .other

/-- The file that is read, under its own path only. -/
def filesOf (arguments : List Text) : IO Cli.Files :=
  match Cli.fileOf? arguments with
  | none => return fun _ => .error .notFound
  | some path => do
    let contents ← readTextFile path
    return fun other => if other = path then contents else .error .notFound

end HostRouting

def main (arguments : List String) : IO UInt32 := do
  let arguments := arguments.map String.toList
  let files ← HostRouting.filesOf arguments
  let (outcome, _) :=
    HostRouting.Cli.run arguments files HostRouting.Http.Client.standard
      HostRouting.Http.unreachable []
  (← IO.getStdout).putStr (String.ofList outcome.stdout)
  (← IO.getStderr).putStr (String.ofList outcome.stderr)
  return UInt32.ofNat outcome.exit
