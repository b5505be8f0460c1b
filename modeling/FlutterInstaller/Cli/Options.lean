/-!
Reading the options of a command. An option is a flag or takes one value, which is attached by an
equals sign or is the next argument; a value that is the next argument is taken up only when another
option is read or the arguments end.
-/
namespace FlutterInstaller.Cli

/-- Why a command line is not accepted, or ends in a text about the program. -/
inductive UsageError
  | missingCommand
  | help
  | version
  | unknownCommand
  | unknownArgument
  | missingValue
  | repeated
  | unexpectedValue
  deriving DecidableEq, Repr

def UsageError.exitCode : UsageError → Nat
  | .help | .version => 0
  | _ => 2

inductive Kind
  | flag
  | valued (filled : Bool)
  deriving DecidableEq

structure Grammar where
  options : List (String × Kind)
  short : List (Char × String)

/-- The options given so far, and the one that was given last with its value still to be taken up. -/
structure Given where
  values : List (String × String)
  pending : Option (String × Option String)
  trailing : Bool

namespace Given

def empty : Given := ⟨[], none, false⟩

abbrev Step := Except UsageError Given

def take (s : Grammar) (name value : String) (g : Given) : Step :=
  if (g.values.lookup name).isSome then .error .repeated
  else if s.options.lookup name = some (.valued true) ∧ value = "" then .error .missingValue
  else .ok { g with values := (name, value) :: g.values }

def settle (s : Grammar) (g : Given) : Step :=
  match g.pending with
  | none => .ok g
  | some (_, none) => .error .missingValue
  | some (name, some value) => take s name value { g with pending := none }

def readLong (s : Grammar) (name : String) (attached : Option String) (g : Given) : Step :=
  if name = "help" then
    match attached with
    | some _ => .error .unexpectedValue
    | none => (g.settle s).bind fun _ => .error .help
  else match s.options.lookup name, attached with
    | none, _ => .error .unknownArgument
    | some .flag, some _ => .error .unexpectedValue
    | some .flag, none => (g.settle s).bind (take s name "")
    | some (.valued _), some value => (g.settle s).bind (take s name value)
    | some (.valued _), none => (g.settle s).map fun g => { g with pending := some (name, none) }

def readShort (s : Grammar) : List Char → Given → Step
  | [], g => .ok g
  | c :: cs, g =>
    if c = 'h' then (g.settle s).bind fun _ => .error .help
    else match s.short.lookup c with
      | none => .error .unknownArgument
      | some name =>
        match s.options.lookup name with
        | some (.valued _) =>
          match cs with
          | [] => readLong s name none g
          | '=' :: value => readLong s name (some (String.ofList value)) g
          | value => readLong s name (some (String.ofList value)) g
        | _ => (readLong s name none g).bind (readShort s cs)

def splitValue (cs : List Char) : String × Option String :=
  let name := String.ofList (cs.takeWhile (· ≠ '='))
  match cs.dropWhile (· ≠ '=') with
  | _ :: value => (name, some (String.ofList value))
  | [] => (name, none)

def readWord (a : String) (g : Given) : Step :=
  match g.pending, g.trailing with
  | some (name, none), false => .ok { g with pending := some (name, some a) }
  | _, _ => .error .unknownArgument

def read (s : Grammar) (a : String) (g : Given) : Step :=
  if g.trailing then readWord a g
  else match a.toList with
    | ['-', '-'] => .ok { g with trailing := true }
    | '-' :: '-' :: cs => let (name, attached) := splitValue cs; readLong s name attached g
    | '-' :: c :: cs => readShort s (c :: cs) g
    | _ => readWord a g

def ofArguments (s : Grammar) (arguments : List String) : Step :=
  (arguments.foldlM (fun g a => read s a g) empty).bind (settle s)

def flag (g : Given) (name : String) : Bool := (g.values.lookup name).isSome

def value? (g : Given) (name : String) : Option String := g.values.lookup name

end Given

end FlutterInstaller.Cli
