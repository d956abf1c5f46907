import Hierarchy.Dump.Run

/-!
# The command line

The dump command with its files read from the system.
-/

set_option autoImplicit false

namespace Hierarchy.Main

/-- What the system reports as the reason for a failed read.  A directory where a file was
wanted has the code 21, or its negative; the other wrong kind is a file on the way. -/
def readErrorOf : IO.Error → ReadError
  | .noFileOrDirectory _ _ _ => .missing
  | .inappropriateType _ code _ =>
      if code = 21 ∨ code = 0 - 21 then .isDirectory else .notDirectory
  | e => .system e.toString

def readText (path : String) : IO (Except ReadError String) := do
  match ← (IO.FS.readBinFile path).toBaseIO with
  | .ok bytes => return textOfBytes bytes
  | .error e => return .error (readErrorOf e)

/-- The bundled listings, seen from where the command is built. -/
def bundled : String := "fixtures"

end Hierarchy.Main

def main (arguments : List String) : IO UInt32 := do
  let outcome ← Hierarchy.Dump.perform Hierarchy.Main.bundled Hierarchy.Main.readText arguments
  (← IO.getStdout).putStr outcome.stdout
  (← IO.getStderr).putStr outcome.stderr
  return outcome.exit.toUInt32
