import MarkTree.CommandLine.Scanner
import MarkTree.Run.Basic

/-!
# The command line

What the program declares of its arguments, and the run that their values ask for. The first argument
that is no option names the kind to select, the others are paths.
-/

namespace MarkTree.CommandLine

/-- The kind to select. -/
def kindArgument : Argument where
  id := "node_type"
  values := some (Kind.selectable.map Kind.name)
  required := true

/-- The kind of the nodes to select below. -/
def scopeArgument : Argument where
  id := "within"
  long := some "within"
  values := some (Kind.selectable.map Kind.name)

def formatArgument : Argument where
  id := "output"
  long := some "output"
  letter := some 'o'
  values := some (ListingFormat.all.map ListingFormat.name)
  default? := some ListingFormat.plain.name

def quietArgument : Argument where
  id := "quiet"
  long := some "quiet"
  letter := some 'q'
  action := .flag
  default? := some "false"

/-- Leave out what no node stands for, instead of refusing it. -/
def lenientArgument : Argument where
  id := "allow_unknown_markdown"
  long := some "allow-unknown-markdown"
  action := .flag
  default? := some "false"

def pathsArgument : Argument where
  id := "markdown_file_paths"
  action := .append

def helpArgument : Argument where
  id := "help"
  long := some "help"
  letter := some 'h'
  action := .help

def versionArgument : Argument where
  id := "version"
  long := some "version"
  letter := some 'V'
  action := .version

/-- The arguments of the program. -/
def arguments : Declaration :=
  [kindArgument, scopeArgument, formatArgument, quietArgument, lenientArgument, pathsArgument,
    helpArgument, versionArgument]

/-- The kind with a name that can be asked for. -/
def kindOf (value : String) : Except Refusal Kind :=
  (Kind.ofName value).mapError fun _ => .invalidValue

def formatOf (value : String) : Except Refusal ListingFormat :=
  match ListingFormat.named? value with
  | some f => .ok f
  | none => .error .invalidValue

/-- The value of an argument that has to have one. -/
def valueOf (m : Matches) (a : Argument) : Except Refusal String :=
  match m.value? a with
  | some v => .ok v
  | none => .error .missingArgument

/-- The run that the values of the arguments ask for. -/
def optionsOf (m : Matches) : Except Refusal Options := do
  return {
    kind := ← kindOf (← valueOf m kindArgument)
    scope := ← (m.value? scopeArgument).mapM kindOf
    format := ← formatOf (← valueOf m formatArgument)
    quiet := m.value? quietArgument == some "true"
    lenient := m.value? lenientArgument == some "true"
    paths := m pathsArgument.id }

/-- The run that some arguments ask for, with a given way of reading them. -/
def parseWith (parser : Parser) (args : List String) : Except Refusal Options := do
  optionsOf (← parser arguments args)

/-- The run that some arguments ask for. -/
def parse (args : List String) : Except Refusal Options := parseWith scan args

end MarkTree.CommandLine
