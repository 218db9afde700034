import MarkTree.Run.Execution

/-!
# Runs in memory

A console whose inputs are given beforehand and whose output is kept. Its output may hold no more
than a number of bytes: of a text that goes beyond, the bytes that fit are kept, and the write fails.
-/

namespace MarkTree

/-- What a console in memory answers. -/
structure Memory where
  input : Except String String := .ok ""
  file : String → Except String String
  /-- How many bytes the output holds, and what a write beyond them says. -/
  limit : Option (Nat × String) := none
  /-- What flushing says, if it fails. -/
  flushFailure : Option String := none

/-- What a run left behind: the bytes that were kept, and the failures it reported. -/
structure Trace where
  kept : ByteArray := .empty
  errors : List RunError := []

namespace Memory

/-- Keeps the bytes of a text as far as they fit. -/
def keep (mem : Memory) (t : String) (trace : Trace) : Except String Unit × Trace :=
  let bytes := t.toUTF8
  match mem.limit with
  | none => (.ok (), { trace with kept := trace.kept ++ bytes })
  | some (most, why) =>
    let free := most - trace.kept.size
    if bytes.size ≤ free then (.ok (), { trace with kept := trace.kept ++ bytes })
    else (.error why, { trace with kept := trace.kept ++ bytes.extract 0 free })

/-- The same memory with an output that holds so many bytes. -/
def limited (mem : Memory) (limit : Option (Nat × String)) : Memory := { mem with limit }

def console (mem : Memory) : Console (StateM Trace) where
  readInput := pure mem.input
  readFile := fun path => pure (mem.file path)
  write := fun t trace => mem.keep t trace
  flush := pure (mem.flushFailure.elim (.ok ()) .error)
  report := fun e => modify fun trace => { trace with errors := trace.errors ++ [e] }

end Memory

/-- The text of some bytes, or why they are none. -/
def textOfBytes (bytes : ByteArray) : Except String String :=
  match String.fromUTF8? bytes with
  | some t => .ok t
  | none => .error "stream did not contain valid UTF-8"

/-- The text of the first bytes of a text; a character that was cut is replaced. -/
def prefixText (bytes : ByteArray) : String :=
  match String.fromUTF8? bytes with
  | some t => t
  | none =>
    let cut := [1, 2, 3].find? fun n => (String.fromUTF8? (bytes.extract 0 (bytes.size - n))).isSome
    match cut with
    | some n => ((String.fromUTF8? (bytes.extract 0 (bytes.size - n))).getD "") ++ "\uFFFD"
    | none => "\uFFFD"

/-- What a run left on its output, as text. -/
def Trace.text (t : Trace) : String := prefixText t.kept

/-- Files by name; of two with one name the first counts. -/
def fileIn (files : List (String × String)) (missing : String → String) (path : String) :
    Except String String :=
  match files.lookup path with
  | some t => .ok t
  | none => .error (missing path)

/-- The steps of a path, without those that stay in place. -/
def pathSteps (path : String) : List String :=
  (path.splitOn "/").filter fun p => !p.isEmpty && p != "."

/-- The files of a directory, as seen by a program that runs in it. -/
def fileInDirectory (files : List (String × String)) (path : String) : Except String String :=
  let steps := pathSteps path
  match files.find? fun f => pathSteps f.1 == steps && !steps.isEmpty with
  | some f => .ok f.2
  | none =>
    if !path.isEmpty && (steps.isEmpty || files.any fun f => steps.isPrefixOf (pathSteps f.1)) then
      .error "Is a directory (os error 21)"
    else .error "No such file or directory (os error 2)"

/-- A run on given texts: whether anything was selected, and what was written. -/
def runInMemory (o : Options) (input : String) (files : List (String × String)) :
    Except RunError (Bool × String) :=
  let mem : Memory := { input := .ok input, file := fileIn files ("File not found: " ++ ·) }
  let (found, trace) := run mem.console o {}
  match trace.errors.getLast? with
  | some e => .error e
  | none => .ok (found, trace.text)

-- irreducible, so that two runs are compared by what they are asked to do and not by doing it
/-- A run on given inputs that writes its listing in pieces, to an output that holds so many bytes. -/
@[irreducible] def runLimited (parse : String → Except String Markup) (mem : Memory)
    (cut : String → List String) (o : Options) (limit : Option (Nat × String)) : Bool × Trace :=
  runWith parse ((mem.limited limit).console.inPieces cut) o {}

end MarkTree
