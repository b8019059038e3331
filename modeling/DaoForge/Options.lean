import DaoForge.Diagnostic
import DaoForge.Text.Path
import DaoForge.Tree.Basic

/-!
# DaoForge.Options

What a user can choose about the generated code: the path of the run-time library, the module the
units live in, and what their names end in. Every option has a default.

`Options.validate` lets only those options through whose names can be used in code.
-/

namespace DaoForge

/-- What the names of generated units end in. -/
structure Suffixes where
  table : String := "Table"
  mapper : String := "Mapper"
  queries : String := "Queries"
  dao : String := "Impl"
  database : String := "Impl"
  schema : String := "Schema"
  deriving DecidableEq, Repr

/-- The options of a run. -/
structure Options where
  /-- Path of the crate with the run-time library. -/
  runtimeCrate : String := "kabin_runtime"
  /-- Path of the module that holds the units; their qualified names begin with it. -/
  outputModule : String := "crate::generated"
  suffixes : Suffixes := {}
  /-- Pass the units through a formatter. -/
  format : Bool := true
  deriving DecidableEq, Repr

/-- Why options cannot be used. -/
inductive OptionError where
  | notAPath (option value : String)
  | notAName (option value : String)
  /-- Two units of one declaration would have the same name. -/
  | equalSuffixes
  /-- The path of the run-time library cannot be written in code. -/
  | unusableRuntime (cause : GenerationError)
  deriving DecidableEq, Repr

namespace OptionError

/-- The option that is at fault. -/
def option : OptionError → String
  | .notAPath option _ | .notAName option _ => option
  | .equalSuffixes => "suffixes"
  | .unusableRuntime _ => "runtime_crate"

def reason : OptionError → String
  | .notAPath _ value => "'" ++ value ++ "' is not a Rust path"
  | .notAName _ value => "'" ++ value ++ "' must be a non-empty identifier"
  | .equalSuffixes => "table/mapper and queries/dao suffixes must differ"
  | .unusableRuntime cause => cause.message

def message (e : OptionError) : String :=
  "invalid option " ++ quoted e.option ++ ": " ++ e.reason

end OptionError

/-! ## validation -/

/-- Plain names joined by `::`, which may also stand in front. -/
def isPlainPath (path : String) : Bool := (segments (dropLeadingSeparator path)).all isAsciiName

namespace Suffixes

/-- The suffixes with the names of their options, in the order in which they are checked. -/
def named (s : Suffixes) : List (String × String) :=
  [("suffixes.table", s.table), ("suffixes.mapper", s.mapper), ("suffixes.queries", s.queries),
    ("suffixes.dao", s.dao), ("suffixes.database", s.database), ("suffixes.schema", s.schema)]

end Suffixes

namespace Options

/-- The paths with the names of their options. -/
def paths (o : Options) : List (String × String) :=
  [("runtime_crate", o.runtimeCrate), ("output_module", o.outputModule)]

/-- What is wrong with the options: the first of a malformed path, a malformed suffix and suffixes
that are equal. -/
def fault? (o : Options) : Option OptionError :=
  match o.paths.find? fun path => !isPlainPath path.2 with
  | some (option, value) => some (.notAPath option value)
  | none =>
    match o.suffixes.named.find? fun suffix => !isAsciiName suffix.2 with
    | some (option, value) => some (.notAName option value)
    | none =>
      if o.suffixes.mapper = o.suffixes.table ∨ o.suffixes.queries = o.suffixes.dao then
        some .equalSuffixes
      else none

def validate (o : Options) : Except OptionError Unit :=
  match o.fault? with
  | some error => .error error
  | none => .ok ()

end Options

/-! ## documents -/

namespace Suffixes

/-- Names of the fields, in order. -/
def fieldNames : List String := ["table", "mapper", "queries", "dao", "database", "schema"]

def toTree (s : Suffixes) : Tree :=
  .record [("table", .text s.table), ("mapper", .text s.mapper), ("queries", .text s.queries),
    ("dao", .text s.dao), ("database", .text s.database), ("schema", .text s.schema)]

/-- Reads suffixes; one that is left out is the default. -/
def ofTree? (tree : Tree) : Option Suffixes :=
  match tree.fields fieldNames with
  | some [table, mapper, queries, dao, database, schema] => do
    let standard : Suffixes := {}
    some
      { table := ← Tree.defaulted Tree.asText? standard.table table
        mapper := ← Tree.defaulted Tree.asText? standard.mapper mapper
        queries := ← Tree.defaulted Tree.asText? standard.queries queries
        dao := ← Tree.defaulted Tree.asText? standard.dao dao
        database := ← Tree.defaulted Tree.asText? standard.database database
        schema := ← Tree.defaulted Tree.asText? standard.schema schema }
  | _ => none

end Suffixes

namespace Options

/-- Names of the fields, in order. -/
def fieldNames : List String := ["runtime_crate", "output_module", "suffixes", "format"]

def toTree (o : Options) : Tree :=
  .record [("runtime_crate", .text o.runtimeCrate), ("output_module", .text o.outputModule),
    ("suffixes", o.suffixes.toTree), ("format", .bool o.format)]

/-- Reads options; one that is left out is the default. -/
def ofTree? (tree : Tree) : Option Options :=
  match tree.fields fieldNames with
  | some [runtimeCrate, outputModule, suffixes, format] => do
    let standard : Options := {}
    some
      { runtimeCrate := ← Tree.defaulted Tree.asText? standard.runtimeCrate runtimeCrate
        outputModule := ← Tree.defaulted Tree.asText? standard.outputModule outputModule
        suffixes := ← Tree.defaulted Suffixes.ofTree? standard.suffixes suffixes
        format := ← Tree.defaulted Tree.asBool? standard.format format }
  | _ => none

end Options

end DaoForge
