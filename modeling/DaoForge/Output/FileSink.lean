import DaoForge.Output.Manifest
import DaoForge.Unit.Basic

/-!
# DaoForge.Output.FileSink

Units written into a folder, each into the file of its module.

1. A unit whose qualified name came before in the run is ignored.
2. A unit is left alone if the manifest of the last run records its file and its digest and the file
   is still there. Otherwise its file is written.
3. At the end the files of stale records are removed, the module file that lists the units is written
   if it differs, and the manifest of the run is written. It stands for the last run from then on.

The folder is part of a `Disk`. What was done before an error stays done.
-/

namespace DaoForge

/-- Why units cannot be written. -/
inductive EmitError where
  | io (cause : IoError)
  | notADirectory (path : String)
  deriving DecidableEq, Repr

/-- Wording of the error. -/
def EmitError.message : EmitError → String
  | .io cause => "I/O error: " ++ cause.message
  | .notADirectory path => "output path is not a directory: " ++ path

/-- A run that writes units into a folder. -/
structure FileSink where
  folder : String
  /-- Manifest of the last run. -/
  previous : Manifest
  /-- Manifest of this run. -/
  current : Manifest := .empty
  /-- Module and name of each unit, in order. -/
  modules : List (String × String) := []
  /-- Units whose files were written. -/
  written : Nat := 0
  /-- Units that were left alone. -/
  unchanged : Nat := 0
  /-- Files that were removed. -/
  removed : Nat := 0
  deriving DecidableEq, Repr

namespace FileSink

/-- Path of a file in the folder. -/
def path (s : FileSink) (file : String) : String := Disk.join s.folder file

/-- Starts a run in a folder, which is created if it is missing. -/
def start (d : Disk) (folder : String) : Except EmitError FileSink × Disk :=
  if d.isFile folder then (.error (.notADirectory folder), d)
  else
    match d.makeFolders folder with
    | (.ok (), d) => (.ok { folder, previous := Manifest.ofFolder d folder }, d)
    | (.error cause, d) => (.error (.io cause), d)

/-- The record of a unit. -/
def record (u : GeneratedUnit) : UnitRecord := ⟨u.fileName, u.kind.name, sha256Hex u.source⟩

/-- The unit's file is there, as the last run wrote it. -/
def isUpToDate (s : FileSink) (d : Disk) (u : GeneratedUnit) : Bool :=
  (match s.previous.get? u.qualifiedName with
    | some last => last.file == u.fileName && last.checksum == (record u).checksum
    | none => false) &&
  d.isFile (s.path u.fileName)

/-- The run after a unit has been dealt with. -/
def note (s : FileSink) (u : GeneratedUnit) : FileSink :=
  { s with
    modules := s.modules ++ [(u.module, u.name)]
    current := s.current.insert u.qualifiedName (record u) }

/-- Takes a unit. -/
def emit (s : FileSink) (d : Disk) (u : GeneratedUnit) : Except IoError (FileSink × Disk) :=
  if s.current.contains u.qualifiedName then .ok (s, d)
  else if s.isUpToDate d u then .ok ({ s.note u with unchanged := s.unchanged + 1 }, d)
  else
    match d.write (s.path u.fileName) u.source with
    | .ok d => .ok ({ s.note u with written := s.written + 1 }, d)
    | .error cause => .error cause

/-- Takes units in order, up to the first that cannot be written. -/
def emitAll (s : FileSink) (d : Disk) : List GeneratedUnit → Except IoError Unit × FileSink × Disk
  | [] => (.ok (), s, d)
  | u :: rest =>
    match s.emit d u with
    | .ok (s, d) => s.emitAll d rest
    | .error cause => (.error cause, s, d)

/-- Name of the file that lists the units. -/
def moduleFile : String := "mod.rs"

/-- Text of the module file. -/
def moduleText (s : FileSink) : String :=
  generatedHeader ++ "\n\n" ++
    String.join (s.modules.map fun unit => "mod " ++ unit.1 ++ ";\n") ++ "\n" ++
    String.join (s.modules.map fun unit => "pub use " ++ unit.1 ++ "::" ++ unit.2 ++ ";\n")

/-- Removes the file of a record, if it is there. -/
def removeStale : FileSink × Disk → UnitRecord → FileSink × Disk
  | (s, d), r =>
    if d.isFile (s.path r.file) then
      ({ s with removed := s.removed + 1 }, d.remove (s.path r.file))
    else (s, d)

/-- Writes the module file unless it has the right text. -/
def writeModules (s : FileSink) (d : Disk) : Except IoError Disk :=
  match d.read (s.path moduleFile) with
  | .ok text => if text = s.moduleText then .ok d else d.write (s.path moduleFile) s.moduleText
  | .error _ => d.write (s.path moduleFile) s.moduleText

/-- Ends the run. The sink and the disk are those after the last step that succeeded. -/
def finish (s : FileSink) (d : Disk) : Except IoError Unit × FileSink × Disk :=
  let (s, d) := (s.previous.stale s.current).foldl removeStale (s, d)
  match s.writeModules d with
  | .error cause => (.error cause, s, d)
  | .ok d =>
    match s.current.save d (s.path Manifest.fileName) with
    | .error cause => (.error cause, s, d)
    | .ok d => (.ok (), { s with previous := s.current }, d)

/-- A whole run: takes the units and ends. -/
def run (s : FileSink) (d : Disk) (us : List GeneratedUnit) : Except IoError Unit × FileSink × Disk :=
  match s.emitAll d us with
  | (.ok (), s, d) => s.finish d
  | failed => failed

end FileSink

end DaoForge
