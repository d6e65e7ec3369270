/-!
# Arguments of a command line

One level of a command line holds options and positional arguments, and ends with the last
argument or with the name of a command of the next level.

**Options** are written `--name`, `--name value` and `--name=value`, or with a single letter `-n`,
`-n value`, `-nvalue` and `-n=value`; letters without values can be written together. An option
is given once unless it repeats. After `--` every argument is positional.
-/

namespace Backlog.Arguments

/-- An option of a level. -/
structure Opt where
  name : String
  letter : Option Char := none
  /-- It comes with a value. -/
  valued : Bool := true
  repeats : Bool := false
  /-- Its value may look like an option. -/
  anyValue : Bool := false

/-- What was given on one level; an option without a value has an empty one. -/
structure Given where
  options : List (String × String) := []
  positional : List String := []

namespace Given

def has (g : Given) (name : String) : Bool := g.options.any (·.1 = name)

def value? (g : Given) (name : String) : Option String := (g.options.find? (·.1 = name)).map (·.2)

def values (g : Given) (name : String) : List String :=
  (g.options.filter (·.1 = name)).map (·.2)

/-- Notes an option, unless it was given before and does not repeat. -/
def note (g : Given) (o : Opt) (value : String) : Option Given :=
  if ¬ o.repeats ∧ g.has o.name then none
  else some { g with options := g.options ++ [(o.name, value)] }

def place (g : Given) (arg : String) : Given := { g with positional := g.positional ++ [arg] }

end Given

/-- How an argument is written. -/
inductive Form
  | positional
  | ending
  | long (name : String) (attached : Option String)
  | letters (cs : List Char)

/-- A text before the first equals sign and the text behind it, if there is one. -/
def splitAssignment (cs : List Char) : String × Option String :=
  match cs.dropWhile (· ≠ '=') with
  | [] => (String.ofList cs, none)
  | _ :: value => (String.ofList (cs.takeWhile (· ≠ '=')), some (String.ofList value))

def formOf (arg : String) : Form :=
  match arg.toList with
  | ['-', '-'] => .ending
  | '-' :: '-' :: cs =>
    let (name, attached) := splitAssignment cs
    .long name attached
  | ['-'] => .positional
  | '-' :: cs => .letters cs
  | _ => .positional

def Form.isPositional : Form → Bool
  | positional => true
  | _ => false

/-- The value of an option from the arguments behind it. -/
def takeValue (o : Opt) : List String → Option (String × List String)
  | [] => none
  | arg :: rest => if o.anyValue || (formOf arg).isPositional then some (arg, rest) else none

/-- An option with the value attached to it, or else with the next argument. -/
def noteValued (g : Given) (o : Opt) (attached : Option String) (rest : List String) :
    Option (Given × List String) :=
  match attached with
  | some v => (g.note o v).map fun g => (g, rest)
  | none => do
    let (v, rest) ← takeValue o rest
    return (← g.note o v, rest)

/-- Letters written together: those without values, and at the end perhaps one with a value. -/
def noteLetters (opts : List Opt) (g : Given) (rest : List String) :
    List Char → Option (Given × List String)
  | [] => some (g, rest)
  | c :: cs => do
    let o ← opts.find? (·.letter = some c)
    if o.valued then
      let attached := match cs with
        | [] => none
        | '=' :: value => some (String.ofList value)
        | value => some (String.ofList value)
      noteValued g o attached rest
    else noteLetters opts (← g.note o "") rest cs

def noteLong (opts : List Opt) (g : Given) (rest : List String) (name : String)
    (attached : Option String) : Option (Given × List String) := do
  let o ← opts.find? (·.name = name)
  if o.valued then noteValued g o attached rest
  else if attached.isSome then none
  else return (← g.note o "", rest)

/-- A level of a command line. -/
structure Level where
  options : List Opt := []
  /-- The number of positional arguments. -/
  places : Nat := 0
  /-- The commands of the next level. -/
  commands : List String := []

namespace Level

def placeAll (l : Level) (g : Given) : List String → Option Given
  | [] => some g
  | arg :: rest => if g.positional.length < l.places then l.placeAll (g.place arg) rest else none

/-- Reads a level with so much fuel: what was given, and the command that ends it with the
arguments behind. -/
def readFrom (l : Level) : Nat → Given → List String → Option (Given × Option (String × List String))
  | 0, _, _ => none
  | _ + 1, g, [] => some (g, none)
  | n + 1, g, arg :: rest =>
    if l.commands.contains arg then some (g, some (arg, rest))
    else
      match formOf arg with
      | .positional =>
        if g.positional.length < l.places then l.readFrom n (g.place arg) rest else none
      | .ending => (l.placeAll g rest).map fun g => (g, none)
      | .long name attached => do
        let (g, rest) ← noteLong l.options g rest name attached
        l.readFrom n g rest
      | .letters cs => do
        let (g, rest) ← noteLetters l.options g rest cs
        l.readFrom n g rest

def read (l : Level) (args : List String) : Option (Given × Option (String × List String)) :=
  l.readFrom (args.length + 1) {} args

/-- Reads a level that has to end with a command. -/
def readCommand (l : Level) (args : List String) : Option (Given × String × List String) := do
  let (g, next) ← l.read args
  let (command, rest) ← next
  return (g, command, rest)

/-- Reads a last level, with every place filled. -/
def readLast (l : Level) (args : List String) : Option Given := do
  let (g, _) ← l.read args
  if g.positional.length = l.places then return g else none

end Level

end Backlog.Arguments
