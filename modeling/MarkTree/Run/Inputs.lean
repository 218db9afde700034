import MarkTree.Run.Basic

/-!
# Inputs of a run

Without paths a run reads standard input. Otherwise it reads the paths in order and puts a line
ending behind each; a dash stands for standard input, which is read at the first dash only, so that
every later dash gives an empty line. The first input that cannot be read ends the reading.
-/

namespace MarkTree

variable {m : Type → Type} [Monad m]

/-- Reads the rest of the paths behind the text read so far. `taken` says that standard input has
been read. -/
def Console.readListed (con : Console m) (taken : Bool) (text : String) :
    List String → m (Except RunError String)
  | [] => pure (.ok text)
  | path :: rest =>
    if path = "-" then
      if taken then con.readListed true (text ++ "\n") rest
      else do
        match ← con.readInput with
        | .error why => pure (.error (.input .standard why))
        | .ok t => con.readListed true (text ++ t ++ "\n") rest
    else do
      match ← con.readFile path with
      | .error why => pure (.error (.input (.file path) why))
      | .ok t => con.readListed taken (text ++ t ++ "\n") rest

/-- The text of all inputs of a run. -/
def Console.readAll (con : Console m) (paths : List String) : m (Except RunError String) :=
  match paths with
  | [] => do
    match ← con.readInput with
    | .error why => pure (.error (.input .standard why))
    | .ok t => pure (.ok t)
  | paths => con.readListed false "" paths

end MarkTree
