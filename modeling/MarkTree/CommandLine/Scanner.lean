import MarkTree.CommandLine.Arguments

/-!
# Scanning arguments

A parser that goes through the arguments from left to right. An option may stand anywhere; what is no
option goes by its place, and behind a double dash everything does. The value of an option may be joined
to it or be the next argument. A value is checked when the next thing is taken up, so that of two faults
the earlier one is told, unless the later one is an option that nobody declared or one that takes no
value but has one.
-/

namespace MarkTree.CommandLine

/-- What an argument looks like. -/
inductive Shape
  | dashes
  /-- The long name of an option, with a value if one is joined to it. -/
  | long (name : String) (value : Option String)
  /-- The letters of options, or the letter of one and its value. -/
  | letters (first : Char) (rest : List Char)
  | plain
deriving DecidableEq, Repr

namespace Shape

/-- Splits the characters behind two dashes at the first equals sign. -/
def ofLong (cs : List Char) : Shape :=
  let name := cs.takeWhile (· != '=')
  match cs.drop name.length with
  | _ :: v => .long (String.ofList name) (some (String.ofList v))
  | [] => .long (String.ofList name) none

def of (a : String) : Shape :=
  match a.toList with
  | ['-', '-'] => .dashes
  | '-' :: '-' :: cs => ofLong cs
  | '-' :: c :: cs => .letters c cs
  | _ => .plain

end Shape

/-- An argument that was taken up, with its value. An option may still wait for that. -/
structure Pending where
  argument : Argument
  value : Option String
deriving Repr

/-- What the arguments so far say. -/
structure Draft where
  given : Matches := .of []
  /-- What is not checked yet. -/
  pending : Option Pending := none
  /-- How many arguments went by their place. -/
  placed : Nat := 0
  /-- Whether a double dash has ended the options. -/
  ended : Bool := false

namespace Draft

def add (d : Draft) (a : Argument) (v : String) : Draft := { d with given := d.given.add a v }

/-- Gives an argument a value. -/
def give (a : Argument) (v : String) (d : Draft) : Except Refusal Draft :=
  if a.action ≠ .append ∧ d.given a.id ≠ [] then .error .conflict
  else if a.accepts v then .ok (d.add a v)
  else .error .invalidValue

/-- Checks what was taken up last. -/
def settle (d : Draft) : Except Refusal Draft :=
  match d.pending with
  | none => .ok d
  | some ⟨a, some v⟩ => give a v { d with pending := none }
  | some ⟨_, none⟩ => .error .invalidValue

/-- Takes up a value at the next place. -/
def place (D : Declaration) (v : String) (d : Draft) : Except Refusal Draft :=
  match D.placed? d.placed with
  | none => .error .unknownArgument
  | some a => .ok { d with pending := some ⟨a, some v⟩, placed := d.placed + 1 }

/-- Takes an argument that goes by its place. -/
def takePlain (D : Declaration) (v : String) (d : Draft) : Except Refusal Draft := do
  place D v (← settle d)

/-- Takes something that has no value, once what was taken up before is checked. -/
def takeBare (value : Option String) (f : Draft → Except Refusal Draft) (d : Draft) :
    Except Refusal Draft :=
  if value.isSome then .error .tooManyValues else do f (← settle d)

/-- Takes up an option that has a value. A joined one is checked at once, another one is waited for. -/
def start (a : Argument) (value : Option String) (d : Draft) : Except Refusal Draft :=
  match value with
  | some v => give a v d
  | none => .ok { d with pending := some ⟨a, none⟩ }

def takeValued (a : Argument) (value : Option String) (d : Draft) : Except Refusal Draft := do
  start a value (← settle d)

/-- Takes an option. -/
def takeOption (a : Argument) (value : Option String) : Draft → Except Refusal Draft :=
  match a.action with
  | .set | .append => takeValued a value
  | .flag => takeBare value (give a "true")
  | .help => takeBare value fun _ => throw .help
  | .version => takeBare value fun _ => throw .version

/-- Takes an option by its long name. -/
def takeLong (D : Declaration) (name : String) (value : Option String) : Draft → Except Refusal Draft :=
  match D.named? name with
  | none => fun _ => .error .unknownArgument
  | some a => takeOption a value

/-- The value behind the letter of an option, with or without an equals sign before it. -/
def joinedValue : List Char → Option String
  | [] => none
  | '=' :: v => some (String.ofList v)
  | v => some (String.ofList v)

/-- Takes options by their letters. What follows the letter of an option with a value is the value. -/
def takeLetters (D : Declaration) (c : Char) (rest : List Char) : Draft → Except Refusal Draft :=
  match D.lettered? c with
  | none => fun _ => .error .unknownArgument
  | some a =>
    if a.takesValue then takeOption a (joinedValue rest)
    else
      match rest with
      | [] => takeOption a none
      | c :: rest => fun d => do takeLetters D c rest (← takeOption a none d)

/-- Gives a value to the option that waits for one, if there is such an option. -/
def supply (v : String) (d : Draft) : Option Draft :=
  match d.pending with
  | some ⟨a, none⟩ => some { d with pending := some ⟨a, some v⟩ }
  | _ => none

/-- Takes the next argument. -/
def take (D : Declaration) (d : Draft) (a : String) : Except Refusal Draft :=
  if d.ended then takePlain D a d
  else
    match Shape.of a with
    | .dashes => .ok { d with ended := true }
    | .long name value => takeLong D name value d
    | .letters c rest => takeLetters D c rest d
    | .plain => (supply a d).elim (takePlain D a d) .ok

/-- What all arguments together give. -/
def finish (D : Declaration) (d : Draft) : Except Refusal Matches := do
  let d ← settle d
  if D.any fun a => a.required && (d.given a.id).isEmpty then throw .missingArgument
  return d.given

end Draft

/-- Scans all arguments. -/
def scan : Parser := fun D args => do Draft.finish D (← args.foldlM (Draft.take D) {})

end MarkTree.CommandLine
