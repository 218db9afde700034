/-!
# Declared arguments

A program declares its arguments as data: what each is called, what it takes, and what it is if nothing
is said of it. A `Parser` reads the arguments of a call by such a declaration. It answers with the
values that were given for each argument, or with the reason why there is no run.
-/

namespace MarkTree

/-- Why arguments do not ask for a run. -/
inductive Refusal
  | invalidValue
  | missingArgument
  | unknownArgument
  | conflict
  | tooManyValues
  | help
  | version
deriving DecidableEq, Repr

/-- The exit code of a program that is not run. -/
def Refusal.exitCode : Refusal → Nat
  | .help | .version => 0
  | _ => 2

namespace CommandLine

/-- What it means that an argument is given. -/
inductive Action
  /-- It takes a value, and is given once. -/
  | set
  /-- It takes a value each time that it is given. -/
  | append
  /-- It takes no value, and is given once. -/
  | flag
  | help
  | version
deriving DecidableEq, Repr

/-- An argument that a program declares. -/
structure Argument where
  id : String
  /-- What it is called behind two dashes. -/
  long : Option String := none
  /-- What it is called behind one dash. -/
  letter : Option Char := none
  action : Action := .set
  /-- The values that it takes, unless it takes any. -/
  values : Option (List String) := none
  required : Bool := false
  /-- Its value if none is given. -/
  default? : Option String := none
deriving DecidableEq, Repr

namespace Argument

def accepts (a : Argument) (v : String) : Bool := a.values.all (·.contains v)

def takesValue (a : Argument) : Bool := a.action == .set || a.action == .append

/-- An argument without a name is known by its place among those that are no options. -/
def byPlace (a : Argument) : Bool := a.long.isNone && a.letter.isNone

end Argument

/-- All arguments of a program. -/
abbrev Declaration := List Argument

namespace Declaration

def named? (D : Declaration) (name : String) : Option Argument := D.find? (·.long == some name)

def lettered? (D : Declaration) (c : Char) : Option Argument := D.find? (·.letter == some c)

/-- What the argument at place `i` is given for. The last that is known by its place may take all from
there on. -/
def placed? (D : Declaration) (i : Nat) : Option Argument :=
  let byPlace := D.filter (·.byPlace)
  byPlace[i]?.or (byPlace.getLast?.filter (·.action == .append))

end Declaration

/-- The values that were given for each argument, by its identity, in their order. -/
abbrev Matches := String → List String

namespace Matches

/-- What some arguments and their values come to. -/
def of (given : List (Argument × String)) : Matches := fun id =>
  (given.filter (·.1.id == id)).map (·.2)

def add (m : Matches) (a : Argument) (v : String) : Matches := fun id =>
  if id = a.id then m id ++ [v] else m id

/-- The value of an argument that has one at most, as it was given or as it was declared. -/
def value? (m : Matches) (a : Argument) : Option String := (m a.id).head?.or a.default?

end Matches

/-- Reads the arguments of a call by what a program declares. -/
abbrev Parser := Declaration → List String → Except Refusal Matches

end CommandLine

end MarkTree
