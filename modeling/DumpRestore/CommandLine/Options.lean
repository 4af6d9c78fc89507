/-
This file reads the options and arguments of a command. Options stand under short names of one
letter, which may be strung together, and long names; the value of an option follows it in the
same argument or is the next one. Two hyphens end the options. A command may stop at its first
argument that is no option, as one with subcommands does.
-/

import DumpRestore.Text.Quoted
import DumpRestore.Text.Similarity

namespace DumpRestore

/-- An option: the key it is given under, its names, and whether it takes a value. -/
structure OptionSpec where
  key : Text
  names : List Text
  takesValue : Bool := true

/-- A command: the words that call it, what follows them in its usage, its options, and whether
options may follow arguments. -/
structure CommandSpec where
  path : Text
  usage : Text
  options : List OptionSpec
  interspersed : Bool := true

/-- What is wrong with the arguments of a command. An unknown name comes with the names that it may
stand for. -/
inductive UsageFault where
  | unknownOption (name : Text) (suggestions : List Text)
  | missingValue (name : Text)
  | unexpectedValue (name : Text)
  | unknownCommand (name : Text) (suggestions : List Text)
  | missingCommand
  | missingArgument (name : Text)
  | extraArguments (arguments : List Text)
  | invalidValue (names problem : Text)
deriving Repr, DecidableEq

namespace UsageFault

/-- The question whether one of some names was meant. -/
def suggestion : List Text → Text
  | [] => []
  | [name] => " Did you mean " ++ Text.quoted name ++ "?"
  | names => " (Did you mean one of: " ++ Text.join ", " (names.map Text.quoted) ++ "?)"

/-- The fault in words. -/
def message : UsageFault → Text
  | .unknownOption name names => "No such option " ++ Text.quoted name ++ "." ++ suggestion names
  | .missingValue name => "Option " ++ Text.quoted name ++ " requires an argument."
  | .unexpectedValue name => "Option " ++ Text.quoted name ++ " does not take a value."
  | .unknownCommand name names =>
    "No such command " ++ Text.quoted name ++ "." ++ suggestion names
  | .missingCommand => "Missing command."
  | .missingArgument name => "Missing argument '" ++ name ++ "'."
  | .extraArguments [argument] => "Got unexpected extra argument (" ++ argument ++ ")"
  | .extraArguments arguments =>
    "Got unexpected extra arguments (" ++ Text.join " " arguments ++ ")"
  | .invalidValue names problem => "Invalid value for " ++ names ++ ": " ++ problem

/-- Whether the fault is told without the usage of the command. -/
def isBare : UsageFault → Bool
  | .missingValue _ | .unexpectedValue _ => true
  | _ => false

end UsageFault

/-- The arguments of a command, read: the options in the order in which they were given, each with
its value where it takes one, and what is left. -/
structure Arguments where
  options : List (Text × Text) := []
  rest : List Text := []
deriving Repr, DecidableEq

namespace Arguments

/-- An option more in front. -/
def withOption (key value : Text) (arguments : Arguments) : Arguments :=
  { arguments with options := (key, value) :: arguments.options }

/-- An argument more in front. -/
def withArgument (argument : Text) (arguments : Arguments) : Arguments :=
  { arguments with rest := argument :: arguments.rest }

/-- Whether an option was given. -/
def has (key : Text) (arguments : Arguments) : Bool :=
  arguments.options.any fun option => option.1 == key

/-- The values an option was given, in order. -/
def values (key : Text) (arguments : Arguments) : List Text :=
  (arguments.options.filter fun option => option.1 == key).map Prod.snd

/-- The last value an option was given. -/
def value? (key : Text) (arguments : Arguments) : Option Text :=
  (arguments.values key).getLast?

/-- The options that were given, each once, in the order in which they were first given. -/
def keys (arguments : Arguments) : List Text :=
  (arguments.options.map Prod.fst).eraseDups

end Arguments

namespace CommandSpec

/-- The option with a name. -/
def option? (command : CommandSpec) (name : Text) : Option OptionSpec :=
  command.options.find? fun option => option.names.elem name

/-- The long names of the options. -/
def longNames (command : CommandSpec) : List Text :=
  (command.options.flatMap OptionSpec.names).filter fun name => 2 < name.length

/-- The options that one argument gives, and the option that takes the next argument as its value
where there is one. -/
abbrev Given := List (Text × Text) × Option (Text × OptionSpec)

/-- The options in a string of short names. The first that takes a value takes the rest of the
string, or the next argument where nothing is left. -/
def shortOptions (command : CommandSpec) : Text → Except UsageFault Given
  | [] => .ok ([], none)
  | letter :: rest =>
    match command.option? ['-', letter] with
    | none => .error (.unknownOption ['-', letter] [])
    | some option =>
      if option.takesValue then
        if rest.isEmpty then .ok ([], some (['-', letter], option))
        else .ok ([(option.key, rest)], none)
      else (command.shortOptions rest).map fun (given, waiting) =>
        ((option.key, []) :: given, waiting)

/-- The options in an argument that starts with a hyphen. A long name may be followed by an equals
sign and a value. -/
def optionsIn (command : CommandSpec) (argument : Text) : Except UsageFault Given :=
  let (name, attached) := match Text.splitFirst? "=" argument with
    | some (name, value) => (name, some value)
    | none => (argument, none)
  let long := if 2 < name.length || name == "--".toList then command.option? name else none
  match long, attached with
  | some option, some value =>
    if option.takesValue then .ok ([(option.key, value)], none)
    else .error (.unexpectedValue name)
  | some option, none =>
    if option.takesValue then .ok ([], some (name, option)) else .ok ([(option.key, [])], none)
  | none, _ =>
    match argument with
    | '-' :: '-' :: _ => .error (.unknownOption name (Text.similarNames command.longNames name))
    | _ => command.shortOptions (argument.drop 1)

/-- Whether an argument gives options. -/
def givesOptions : Text → Bool
  | '-' :: _ :: _ => true
  | _ => false

/-- Reads arguments; `waiting` is the option whose value the next argument is. -/
def readFrom (command : CommandSpec) (waiting : Option (Text × OptionSpec)) :
    List Text → Except UsageFault Arguments
  | [] => match waiting with
    | some (name, _) => .error (.missingValue name)
    | none => .ok {}
  | argument :: rest =>
    match waiting with
    | some (_, option) =>
      (command.readFrom none rest).map (Arguments.withOption option.key argument)
    | none =>
      if argument == "--".toList then .ok { rest }
      else if givesOptions argument then
        match command.optionsIn argument with
        | .error fault => .error fault
        | .ok (given, waiting) =>
          (command.readFrom waiting rest).map fun arguments =>
            { arguments with options := given ++ arguments.options }
      else if command.interspersed then
        (command.readFrom none rest).map (Arguments.withArgument argument)
      else .ok { rest := argument :: rest }

/-- The options and arguments of a command. -/
def read (command : CommandSpec) (arguments : List Text) : Except UsageFault Arguments :=
  command.readFrom none arguments

/-- What is written where the arguments of the command are wrong: its usage and where to find help,
unless the fault is told alone, and the fault. -/
def complaint (command : CommandSpec) (fault : UsageFault) : Text :=
  let usage : Text := if fault.isBare then []
    else "Usage: " ++ command.path ++ " " ++ command.usage ++ "\nTry '" ++ command.path ++
      " --help' for help.\n\n"
  usage ++ "Error: " ++ fault.message ++ "\n"

end CommandSpec

end DumpRestore
