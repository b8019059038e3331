import DaoForge.Command.Basic
import DaoForge.Compile
import DaoForge.Declaration.File
import DaoForge.Options.File
import DaoForge.Output.FileSink
import DaoForge.Output.Memory

/-!
# DaoForge.Command.Run

What a command does to the disk, and what it prints.

A command loads the declarations, then the options. An error ends it with code 1 and one line on
standard error. Problems of the declarations do not end it: what resolves is still generated or
printed, then the problems are listed on standard error, and the code is 1.

Units are written as they are generated; no formatter is run. A name that has no identifier and is not
refused for it stops a command: the units that were generated before it have been written.
-/

namespace DaoForge

/-- What a command leaves behind. -/
structure Outcome where
  code : Nat := 0
  stdout : String := ""
  stderr : String := ""
  disk : Disk

namespace Outcome

/-- A command that an error ended. -/
def failure (d : Disk) (message : String) : Outcome :=
  { code := 1, stderr := "error: " ++ message ++ "\n", disk := d }

/-- A command that stopped amid its work. -/
def stopped (d : Disk) (message : String) : Outcome :=
  { code := 101, stderr := message ++ "\n", disk := d }

/-- A command that printed a text, and found problems in the declarations. -/
def report (d : Disk) (stdout : String) (problems : List Diagnostic) : Outcome :=
  if problems.isEmpty then { stdout, disk := d }
  else
    let listed := String.join (problems.map fun problem => "  " ++ problem.message ++ "\n")
    let count := toString problems.length
    { code := 1
      stdout
      stderr := "\nDiagnostics:\n" ++ listed ++ "error: " ++ count ++ " diagnostic(s) reported\n"
      disk := d }

end Outcome

namespace Command

/-- The options of a command: the defaults, or those of a file. -/
def loadOptions (d : Disk) : Option String → Except String Options
  | none => .ok {}
  | some path =>
    match Options.load d path with
    | .ok o => .ok o
    | .error cause => .error ("Failed to load options '" ++ path ++ "': " ++ cause.message)

/-- The declarations of a command. -/
def loadCatalog (d : Disk) (input : CommandInput) : Except String Catalog :=
  match Catalog.load d input.paths with
  | .ok c => .ok c
  | .error cause => .error cause.message

/-- The declarations and options of a command. -/
def load (d : Disk) (input : CommandInput) : Except String (Catalog × Options) := do
  let c ← loadCatalog d input
  return (c, ← loadOptions d input.config)

/-- A command whose options cannot be used. -/
def refused (d : Disk) (cause : OptionError) : Outcome :=
  .failure d ("configuration error: " ++ cause.message)

def generated (units : Nat) (output : String) (s : FileSink) : String :=
  "Generated " ++ toString units ++ " unit(s) into '" ++ output ++ "' (" ++ toString s.written ++
    " written, " ++ toString s.unchanged ++ " unchanged, " ++ toString s.removed ++ " removed).\n"

def runGenerate (d : Disk) (input : CommandInput) (output : String) : Outcome :=
  match load d input with
  | .error message => .failure d message
  | .ok (c, o) =>
    match FileSink.start d output with
    | (.error cause, d) => .failure d cause.message
    | (.ok s, d) =>
      match c.compile o with
      | .error (.options cause) => refused d cause
      | .error cause@(.stopped _ units) =>
        match s.emitAll d units with
        | (.error cause, _, d) => .failure d (EmitError.io cause).message
        | (.ok (), _, d) => .stopped d cause.message
      | .ok compilation =>
        match s.run d compilation.units with
        | (.error cause, _, d) => .failure d (EmitError.io cause).message
        | (.ok (), s, d) =>
          .report d (generated compilation.units.length output s) compilation.report.diagnostics

def checked (c : Catalog) (compilation : Compilation) : String :=
  let entities := compilation.report.entities
  "Checked " ++ toString c.size ++ " declaration(s): " ++ toString entities ++ " entit" ++
    (if entities = 1 then "y" else "ies") ++ ", " ++ toString compilation.report.databases ++
    " database(s), " ++ toString compilation.units.length ++ " unit(s).\n"

def runCheck (d : Disk) (input : CommandInput) : Outcome :=
  match load d input with
  | .error message => .failure d message
  | .ok (c, o) =>
    match c.compile o with
    | .error (.options cause) => refused d cause
    | .error cause@(.stopped _ _) => .stopped d cause.message
    | .ok compilation => .report d (checked c compilation) compilation.report.diagnostics

/-- Resolved declarations as a text. -/
def specsText (schema : ResolvedSchema) : SpecFormat → Except String String
  | .json => .ok (schema.toTree.toPrettyJson 0)
  | .yaml =>
    match schema.toTree.toYaml? with
    | some text => .ok (trimBlankEnd text)
    | none =>
      .error "Failed to serialize specs: serializing nested enums in YAML is not supported yet"

def runSpecs (d : Disk) (input : CommandInput) (format : SpecFormat) : Outcome :=
  match loadCatalog d input with
  | .error message => .failure d message
  | .ok c =>
    match specsText c.schema format with
    | .error message => .failure d message
    | .ok text => .report d (text ++ "\n") c.schema.diagnostics

def runSchema (d : Disk) (input : CommandInput) (name : String) : Outcome :=
  match loadCatalog d input with
  | .error message => .failure d message
  | .ok c =>
    match c.schema.database? name with
    | some database =>
      let header := "-- " ++ database.declaration ++ " (version " ++ toString database.version.toInt ++ ")\n"
      let statements := database.schemaStatements.map fun statement => statement ++ ";\n"
      { stdout := header ++ String.join statements, disk := d }
    | none =>
      if c.schema.isSuccess then .failure d ("Database '" ++ name ++ "' not found")
      else .report d "" c.schema.diagnostics

/-- Runs a command. -/
def run (d : Disk) : Command → Outcome
  | .generate input output => runGenerate d input output
  | .check input => runCheck d input
  | .specs input format => runSpecs d input format
  | .schema input database => runSchema d input database

/-- The paths that a command reads or writes. -/
def paths : Command → List String
  | .generate input output => input.paths ++ input.config.toList ++ [output]
  | .check input => input.paths ++ input.config.toList
  | .specs input _ | .schema input _ => input.paths

end Command

/-- Runs the program with arguments. -/
def runProgram (d : Disk) (arguments : List String) : Outcome :=
  match Command.ofArguments arguments with
  | .ok command => command.run d
  | .error cause => { code := 2, stderr := "error: " ++ cause.message ++ "\n", disk := d }

end DaoForge
