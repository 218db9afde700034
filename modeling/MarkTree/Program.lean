import MarkTree.CommandLine
import MarkTree.Run.Execution

/-!
# The program

The program reads its arguments and runs. Its exit code is 0 if anything was selected and 1 if
nothing was or the run failed. Arguments that ask for no run have an exit code and a text of their
own.
-/

namespace MarkTree.Program

def versionText : String := "gquery 0.1.0\n"

/-- What the program says when it is asked for its version. What is said about arguments that ask for no
run otherwise is up to the parser of arguments. -/
def refusalText : Refusal → String
  | .version => versionText
  | _ => ""

/-- What the program does with its arguments in a given world: the exit code of the run, or why there
is no run. -/
def execute {m : Type → Type} [Monad m] (con : Console m) (args : List String) :
    m (Except Refusal Nat) :=
  match CommandLine.parse args with
  | .error r => pure (.error r)
  | .ok o => do return .ok (if ← run con o then 0 else 1)

end MarkTree.Program
