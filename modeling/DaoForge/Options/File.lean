import DaoForge.Disk.Basic
import DaoForge.Options
import DaoForge.Yaml.Fields
import DaoForge.Yaml.Printer

/-!
# DaoForge.Options.File

Options in a YAML file. Every option may be left out, also all of them; names that are no options are
ignored. A name or a path is any scalar, as it is written.
-/

namespace DaoForge

/-- Why options cannot be loaded. -/
inductive ConfigError where
  | unreadable (cause : IoError)
  /-- The file's content cannot be read at all. -/
  | unreadableContent (cause : IoError)
  /-- The file is no YAML, or a value does not fit its option. -/
  | malformed (cause : Yaml.Refusal)
  | invalid (cause : OptionError)
  deriving DecidableEq, Repr

/-- Wording of the error. -/
def ConfigError.message : ConfigError → String
  | .unreadable cause => "I/O error: " ++ cause.message
  | .unreadableContent cause => "YAML error: " ++ cause.message
  | .malformed cause => "YAML error: " ++ cause.message
  | .invalid cause => cause.message

namespace Suffixes

/-- The fields in a file. -/
def fields : List (Yaml.Node.Reader.Field Suffixes) :=
  [⟨"table", fun r node s => return { s with table := ← r.text node }⟩,
    ⟨"mapper", fun r node s => return { s with mapper := ← r.text node }⟩,
    ⟨"queries", fun r node s => return { s with queries := ← r.text node }⟩,
    ⟨"dao", fun r node s => return { s with dao := ← r.text node }⟩,
    ⟨"database", fun r node s => return { s with database := ← r.text node }⟩,
    ⟨"schema", fun r node s => return { s with schema := ← r.text node }⟩]

end Suffixes

namespace Options

/-- The fields in a file. -/
def fields : List (Yaml.Node.Reader.Field Options) :=
  [⟨"runtime_crate", fun r node o => return { o with runtimeCrate := ← r.text node }⟩,
    ⟨"output_module", fun r node o => return { o with outputModule := ← r.text node }⟩,
    ⟨"suffixes", fun r node o => do
      return { o with suffixes := ← r.record "struct Suffixes" Suffixes.fields {} node }⟩,
    ⟨"format", fun r node o => return { o with format := ← r.bool node }⟩]

/-- Options from the text of a file. They need not be valid. -/
def ofYaml (text : String) : Except Yaml.Refusal Options :=
  let document := Yaml.Document.ofText text
  document.read fun
    | none => .ok {}
    | some node =>
      Yaml.Node.Reader.record ⟨document.broken, Yaml.rootPath⟩ "struct KabinOptions" fields {} node

/-- The text of a file with these options. -/
def toYaml (o : Options) : String := o.toTree.toYaml?.getD ""

/-- Valid options from a file. -/
def load (d : Disk) (path : String) : Except ConfigError Options := do
  let text ←
    match d.read path with
    | .ok text => .ok text
    | .error .isADirectory => .error (.unreadableContent .isADirectory)
    | .error cause => .error (.unreadable cause)
  match ofYaml text with
  | .error cause => .error (.malformed cause)
  | .ok o =>
    match o.validate with
    | .ok () => .ok o
    | .error cause => .error (.invalid cause)

/-- Writes options to a file. -/
def save (o : Options) (d : Disk) (path : String) : Except IoError Disk := d.write path o.toYaml

end Options

end DaoForge
