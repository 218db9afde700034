import MarkTree.Program
import MarkTree.Run.Memory

/-!
# The entry of the program

The console of the process, and `main`.
-/

namespace MarkTree.Program

/-- What the system says about a failure. -/
def systemText : IO.Error → String
  | .noFileOrDirectory _ code _ | .noSuchThing _ code _ =>
    "No such file or directory (os error " ++ toString code ++ ")"
  | .inappropriateType _ code _ => "Is a directory (os error " ++ toString code ++ ")"
  | .permissionDenied _ code _ => "Permission denied (os error " ++ toString code ++ ")"
  | e => toString e

/-- Does an action, and tells a failure in the system's words. -/
def attemptAction {α : Type} (act : IO α) : IO (Except String α) := do
  match ← act.toBaseIO with
  | .ok a => return .ok a
  | .error e => return .error (systemText e)

/-- The console of the process. -/
def processConsole : Console IO where
  readInput := do
    match ← attemptAction (do (← IO.getStdin).readBinToEnd) with
    | .ok bytes => return textOfBytes bytes
    | .error why => return .error why
  readFile := fun path => do
    match ← attemptAction (IO.FS.readBinFile path) with
    | .ok bytes => return textOfBytes bytes
    | .error why => return .error why
  write := fun t => attemptAction (do (← IO.getStdout).putStr t)
  flush := attemptAction (do (← IO.getStdout).flush)
  report := fun e => do (← IO.getStderr).putStr e.message

end MarkTree.Program

open MarkTree.Program in
/-- The entry of the program. -/
def main (args : List String) : IO UInt32 := do
  match ← execute processConsole args with
  | .ok code => return code.toUInt32
  | .error r =>
    if r.exitCode = 0 then IO.print (refusalText r) else IO.eprint (refusalText r)
    return r.exitCode.toUInt32
