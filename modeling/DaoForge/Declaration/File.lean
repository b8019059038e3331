import DaoForge.Declaration.Catalog
import DaoForge.Declaration.Document
import DaoForge.Disk.Basic
import DaoForge.Tree.JsonReader
import DaoForge.Yaml.Reading

/-!
# DaoForge.Declaration.File

Declarations in files. The extension of a file tells its format.

1. A path to a folder stands for every JSON and YAML file below it, in the order of their names.
2. Another path must have the extension of a format.
3. The declarations of all files form one catalog; the first fault ends the reading.
-/

namespace DaoForge

/-- A format of declaration files. -/
inductive FileFormat where
  | json
  | yaml
  deriving DecidableEq, Repr

namespace FileFormat

def name : FileFormat → String
  | .json => "JSON"
  | .yaml => "YAML"

/-- The format that a path's extension stands for. -/
def ofPath? (path : String) : Option FileFormat :=
  match Disk.extension? path with
  | some "json" => some .json
  | some "yaml" | some "yml" => some .yaml
  | _ => none

end FileFormat

/-- What is wrong with the content of a file. -/
inductive FileFault where
  | unreadable (cause : IoError)
  | json (cause : JsonError)
  | yaml (cause : Yaml.Refusal)
  /-- The document has none of the layouts of a declaration file. -/
  | layout
  deriving DecidableEq, Repr

/-- Wording of the fault. -/
def FileFault.message : FileFault → String
  | .unreadable cause => cause.message
  | .json cause => cause.message
  | .yaml cause => cause.message
  | .layout => "data did not match any variant of untagged enum DeclarationFile"

/-- Why declarations cannot be loaded. -/
inductive LoadError where
  | unreadable (path : String) (cause : IoError)
  | malformed (path : String) (format : FileFormat) (fault : FileFault)
  | unsupported (path : String)
  | refused (cause : CatalogError)
  deriving DecidableEq, Repr

/-- Wording of the error. -/
def LoadError.message : LoadError → String
  | .unreadable path cause => "I/O error reading " ++ path ++ ": " ++ cause.message
  | .malformed path format fault => format.name ++ " error in " ++ path ++ ": " ++ fault.message
  | .unsupported path => "unsupported declaration file: " ++ path
  | .refused cause => cause.message

/-- The declarations of a document. -/
def Declaration.ofDocument (tree : Tree) : Except FileFault (List Declaration) :=
  match fileOfTree? tree with
  | some ds => .ok ds
  | none => .error .layout

namespace FileFormat

/-- Reads the declarations in a text of the format. What is wrong behind a JSON document counts less
than its layout. -/
def declarations (f : FileFormat) (text : String) : Except FileFault (List Declaration) :=
  match f with
  | .json => do
    let (tree, finish) ← (Tree.ofJsonFront .whole text).mapError FileFault.json
    let ds ← Declaration.ofDocument tree
    finish.mapError FileFault.json
    return ds
  | .yaml => do
    Declaration.ofDocument (← (Yaml.Document.ofText text).toTree.mapError FileFault.yaml)

end FileFormat

namespace Disk

/-- The declarations of one file, as they are written. -/
def declarationsIn (d : Disk) (path : String) : Except LoadError (List Declaration) :=
  match d.read path, FileFormat.ofPath? path with
  | .ok text, some format => (format.declarations text).mapError (.malformed path format)
  | .error .isADirectory, some format => .error (.malformed path format (.unreadable .isADirectory))
  | .ok _, none | .error .isADirectory, none => .error (.unsupported path)
  | .error cause, _ => .error (.unreadable path cause)

/-- The declaration files that a path stands for. -/
def declarationFiles (d : Disk) (path : String) : Except LoadError (List String) :=
  if d.isFolder path then
    .ok ((d.below path).filter fun file => (FileFormat.ofPath? file).isSome)
  else if (FileFormat.ofPath? path).isSome then .ok [path]
  else .error (.unsupported path)

end Disk

namespace Catalog

/-- Adds the declarations of one file. -/
def addFile (d : Disk) (c : Catalog) (path : String) : Except LoadError Catalog := do
  match c.insertAll (← d.declarationsIn path) with
  | .ok c => .ok c
  | .error cause => .error (.refused cause)

/-- Adds the declarations that a path stands for. -/
def addPath (d : Disk) (c : Catalog) (path : String) : Except LoadError Catalog := do
  (← d.declarationFiles path).foldlM (addFile d) c

/-- The declarations that some paths stand for. -/
def load (d : Disk) (paths : List String) : Except LoadError Catalog := paths.foldlM (addPath d) .empty

end Catalog

end DaoForge
