/-!
# DaoForge.Command.Basic

The commands of the program and how they are written as arguments.

An option with a value is followed by it (`--input a.json`), or joined to it by an equals sign
(`--input=a.json`); after a short name the value may also follow at once (`-ia.json`). Only `--input`
may repeat.
-/

namespace DaoForge

/-- How resolved declarations are printed. -/
inductive SpecFormat where
  | json
  | yaml
  deriving DecidableEq, Repr

/-- What a command works on. -/
structure CommandInput where
  /-- Declaration files, and folders that hold them. -/
  paths : List String
  /-- File with options. -/
  config : Option String
  deriving DecidableEq, Repr

inductive Command where
  /-- Writes the generated units into a folder. -/
  | generate (input : CommandInput) (output : String)
  /-- Generates in memory and reports problems. -/
  | check (input : CommandInput)
  /-- Prints the resolved declarations. -/
  | specs (input : CommandInput) (format : SpecFormat)
  /-- Prints the statements that create a database's schema. -/
  | schema (input : CommandInput) (database : String)
  deriving DecidableEq, Repr

/-- Why arguments are no command. -/
inductive UsageError where
  | noCommand
  | unknownCommand (word : String)
  | unknownArgument (argument : String)
  | noValue (option : String)
  | repeated (option : String)
  | required (option : String)
  | unknownFormat (word : String)
  deriving DecidableEq, Repr

/-- Wording of the error. -/
def UsageError.message : UsageError → String
  | .noCommand => "a command is required: generate, check, specs or schema"
  | .unknownCommand word => "unrecognized subcommand '" ++ word ++ "'"
  | .unknownArgument argument => "unexpected argument '" ++ argument ++ "' found"
  | .noValue option => "a value is required for '--" ++ option ++ "' but none was supplied"
  | .repeated option => "the argument '--" ++ option ++ "' cannot be used multiple times"
  | .required option => "the required argument '--" ++ option ++ "' was not provided"
  | .unknownFormat word => "invalid value '" ++ word ++ "' for '--format': json or yaml is possible"

namespace Command

/-! ## arguments -/

/-- Long names of the options of a command. -/
def optionNames : String → List String
  | "generate" => ["input", "config", "output", "no-format", "verbose"]
  | "check" => ["input", "config", "verbose"]
  | "specs" => ["input", "config", "format", "verbose"]
  | "schema" => ["input", "config", "database", "verbose"]
  | _ => ["verbose"]

/-- The option of a short name. -/
def shortName? : Char → Option String
  | 'i' => some "input"
  | 'o' => some "output"
  | 'v' => some "verbose"
  | _ => none

def takesValue (option : String) : Bool := option != "no-format" && option != "verbose"

/-- The characters without one leading equals sign. -/
def dropEquals : List Char → List Char
  | '=' :: rest => rest
  | cs => cs

/-- The option that an argument names, and the value that is joined to it. -/
def readOption? (argument : String) : Option (String × Option String) :=
  match argument.toList with
  | '-' :: '-' :: cs =>
    let name := String.ofList (cs.takeWhile (· != '='))
    match cs.dropWhile (· != '=') with
    | _ :: value => some (name, some (String.ofList value))
    | [] => some (name, none)
  | '-' :: c :: cs =>
    (shortName? c).map fun name =>
      (name, if cs.isEmpty then none else some (String.ofList (dropEquals cs)))
  | _ => none

/-- An argument that cannot be the value of the option before it. -/
def isOptionLike (argument : String) : Bool :=
  match argument.toList with
  | '-' :: _ :: _ => true
  | _ => false

/-- What arguments say: the word for the command, and options with their values in order. -/
structure Arguments where
  word : Option String := none
  options : List (String × String) := []

namespace Arguments

/-- The values of an option. -/
def values (a : Arguments) (option : String) : List String :=
  a.options.filterMap fun given => if given.1 = option then some given.2 else none

/-- Adds an option. -/
def add (a : Arguments) (option value : String) : Except UsageError Arguments :=
  if !(optionNames (a.word.getD "")).contains option then .error (.unknownArgument ("--" ++ option))
  else if option != "input" && !(a.values option).isEmpty then .error (.repeated option)
  else .ok { a with options := a.options ++ [(option, value)] }

/-- Reads arguments in order. `pending` is an option that waits for its value. -/
def read (a : Arguments) (pending : Option String) : List String → Except UsageError Arguments
  | [] =>
    match pending with
    | some option => .error (.noValue option)
    | none => .ok a
  | argument :: rest =>
    match pending with
    | some option =>
      if isOptionLike argument then .error (.noValue option)
      else do (← a.add option argument).read none rest
    | none =>
      match readOption? argument with
      | some (option, some value) =>
        if takesValue option then do (← a.add option value).read none rest
        else .error (.unknownArgument argument)
      | some (option, none) =>
        if takesValue option then a.read (some option) rest
        else do (← a.add option "").read none rest
      | none =>
        if isOptionLike argument then .error (.unknownArgument argument)
        else
          match a.word with
          | some _ => .error (.unknownArgument argument)
          | none =>
            if ["generate", "check", "specs", "schema"].contains argument then
              read { a with word := some argument } none rest
            else .error (.unknownCommand argument)

/-- The value of an option that must be given. -/
def required (a : Arguments) (option : String) : Except UsageError String :=
  match a.values option with
  | value :: _ => .ok value
  | [] => .error (.required option)

/-- The files that a command works on. -/
def input (a : Arguments) : Except UsageError CommandInput :=
  match a.values "input" with
  | [] => .error (.required "input")
  | paths => .ok ⟨paths, (a.values "config").head?⟩

end Arguments

/-- Reads a command. -/
def ofArguments (arguments : List String) : Except UsageError Command := do
  let a ← Arguments.read {} none arguments
  match a.word with
  | some "generate" => return .generate (← a.input) (← a.required "output")
  | some "check" => return .check (← a.input)
  | some "specs" =>
    match a.values "format" with
    | [] | "json" :: _ => return .specs (← a.input) .json
    | "yaml" :: _ => return .specs (← a.input) .yaml
    | word :: _ => .error (.unknownFormat word)
  | some "schema" => return .schema (← a.input) (← a.required "database")
  | _ => .error .noCommand

end Command

end DaoForge
