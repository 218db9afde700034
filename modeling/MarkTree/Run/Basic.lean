import MarkTree.Document
import MarkTree.Listing

/-!
# Runs

A run reads Markdown from its inputs, selects nodes of one kind, and lists them. `Options` says what
to select and how to list it; `Console` is all that a run may do to the world around it, in any
monad, so that a run can be looked at as a function of what the world answers.
-/

namespace MarkTree

/-- Where a text comes from. -/
inductive InputName
  | standard
  | file (path : String)
deriving DecidableEq, Repr

def InputName.message : InputName → String
  | .standard => "stdin"
  | .file path => "file " ++ Text.quoted path

/-- Why a run fails. -/
inductive RunError
  /-- The text cannot be read as a document. -/
  | document (cause : ReadError)
  /-- An input cannot be read. -/
  | input (name : InputName) (why : String)
  /-- The listing cannot be written. -/
  | output (why : String)
deriving DecidableEq, Repr

/-- What is said about a run that fails, with the ending of the last line. -/
def RunError.message : RunError → String
  | .document cause => "Markdown parse error:\n" ++ cause.message ++ "\n"
  | .input name why => why ++ " while reading " ++ name.message ++ "\n"
  | .output why => why ++ " while writing output\n"

/-- What a run is asked to do. -/
structure Options where
  kind : Kind := .any
  /-- Select only what stands below nodes of this kind. -/
  scope : Option Kind := none
  format : ListingFormat := .plain
  /-- Write nothing, and only tell whether anything was selected. -/
  quiet : Bool := false
  /-- Leave out what no node stands for, instead of refusing it. -/
  lenient : Bool := false
  paths : List String := []
deriving DecidableEq, Repr, Inhabited

/-- What a run can do to the world. Reading and writing either succeed or tell why they do not. -/
structure Console (m : Type → Type) where
  readInput : m (Except String String)
  readFile : String → m (Except String String)
  write : String → m (Except String Unit)
  flush : m (Except String Unit)
  report : RunError → m Unit

end MarkTree
