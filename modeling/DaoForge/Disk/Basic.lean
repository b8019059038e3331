import DaoForge.Disk.Path

/-!
# DaoForge.Disk.Basic

Files and folders as a value. A `Disk` knows the text of each file and which folders exist; what a
program does to its files is a function on it.

A path is followed name by name from the root or from the working folder. Every name but the last must
be a folder. Names have at most 255 bytes, paths fewer than 4096, and neither can hold U+0000. Files are
only written into folders that exist; `makeFolders` creates those that do not.
-/

namespace DaoForge

/-- The names on the way from the root to a file or folder. -/
abbrev Location := List String

/-- A location comes before another one or is the same, name by name. -/
def Location.le : Location → Location → Bool
  | [], _ => true
  | _ :: _, [] => false
  | a :: as, b :: bs => if a = b then Location.le as bs else decide (a < b)

/-- Why a file cannot be used. -/
inductive IoError where
  | notFound
  | exists
  | notADirectory
  | isADirectory
  | nameTooLong
  | nulInName
  deriving DecidableEq, Repr

/-- Wording of the system for the error. -/
def IoError.message : IoError → String
  | .notFound => "No such file or directory (os error 2)"
  | .exists => "File exists (os error 17)"
  | .notADirectory => "Not a directory (os error 20)"
  | .isADirectory => "Is a directory (os error 21)"
  | .nameTooLong => "File name too long (os error 36)"
  | .nulInName => "file name contained an unexpected NUL byte"

/-- Files with their texts, and folders. The root is always a folder. -/
structure Disk where
  files : List (Location × String) := []
  folders : List Location := []
  /-- The working folder, from which relative paths start. -/
  here : Location := []
  deriving DecidableEq, Repr

namespace Disk

/-! ## locations -/

/-- The text of the file at a location. -/
def textAt? (d : Disk) (l : Location) : Option String :=
  (d.files.find? fun file => file.1 == l).map (·.2)

def isFolderAt (d : Disk) (l : Location) : Bool := l.isEmpty || d.folders.contains l

/-- The disk with a file at a location, in place of the one that was there. -/
def put (d : Disk) (l : Location) (text : String) : Disk :=
  { d with files := (l, text) :: d.files.filter fun file => file.1 != l }

/-- The disk without the file at a location. -/
def removeAt (d : Disk) (l : Location) : Disk :=
  { d with files := d.files.filter fun file => file.1 != l }

/-- Files at other locations are found although one is left out. -/
theorem find?_others {l l' : Location} (h : l' ≠ l) (files : List (Location × String)) :
    (files.filter fun file => file.1 != l).find? (fun file => file.1 == l') =
      files.find? fun file => file.1 == l' := by
  rw [List.find?_filter]
  congr 1
  funext file
  by_cases e : file.1 = l' <;> simp [e, h]

theorem textAt?_put (d : Disk) (l l' : Location) (text : String) :
    (d.put l text).textAt? l' = if l' = l then some text else d.textAt? l' := by
  by_cases h : l' = l
  · simp [put, textAt?, h]
  · have other : (l == l') = false := beq_false_of_ne fun e => h e.symm
    simp only [put, textAt?, List.find?_cons, other, find?_others h, if_neg h]

theorem textAt?_removeAt (d : Disk) (l l' : Location) :
    (d.removeAt l).textAt? l' = if l' = l then none else d.textAt? l' := by
  by_cases h : l' = l
  · simp [removeAt, textAt?, h]
  · simp only [removeAt, textAt?, find?_others h, if_neg h]

/-- Follows names from a location. -/
def follow (d : Disk) (l : Location) : List String → Except IoError Location
  | [] => .ok l
  | name :: rest =>
    if staysAt name then d.follow l rest
    else if name = ".." then d.follow l.dropLast rest
    else if 255 < name.utf8ByteSize then .error .nameTooLong
    else if rest.isEmpty || d.isFolderAt (l ++ [name]) then d.follow (l ++ [name]) rest
    else .error (if (d.textAt? (l ++ [name])).isSome then .notADirectory else .notFound)

/-- Where a path starts. -/
def start (d : Disk) (path : String) : Location := if isAbsolute path then [] else d.here

/-- Whether the text can be a path. -/
def checkPath (path : String) : Except IoError Unit :=
  if path.toList.contains '\x00' then .error .nulInName
  else if 4096 ≤ path.utf8ByteSize then .error .nameTooLong
  else .ok ()

/-- The location that a path leads to. Nothing need be there yet. -/
def locate (d : Disk) (path : String) : Except IoError Location := do
  checkPath path
  d.follow (d.start path) (names path)

/-! ## reading -/

/-- The path leads to a folder. -/
def isFolder (d : Disk) (path : String) : Bool :=
  match d.locate path with
  | .ok l => d.isFolderAt l
  | .error _ => false

/-- The path leads to a file. -/
def isFile (d : Disk) (path : String) : Bool :=
  match d.locate path with
  | .ok l => (d.textAt? l).isSome
  | .error _ => false

/-- The text of a file. -/
def read (d : Disk) (path : String) : Except IoError String := do
  let l ← d.locate path
  match d.textAt? l with
  | some text => .ok text
  | none => .error (if d.isFolderAt l then .isADirectory else .notFound)

/-- Paths of the files below a folder, in the order of the names on the way to them. -/
def below (d : Disk) (path : String) : List String :=
  match d.locate path with
  | .error _ => []
  | .ok l =>
    let inner := (d.files.map (·.1)).filterMap fun file =>
      if l.isPrefixOf file then some (file.drop l.length) else none
    (inner.mergeSort Location.le).map fun file => join path ("/".intercalate file)

/-! ## writing -/

/-- Writes a file. -/
def write (d : Disk) (path text : String) : Except IoError Disk := do
  let l ← d.locate path
  if d.isFolderAt l then .error .isADirectory else .ok (d.put l text)

/-- Removes the file that a path leads to. -/
def remove (d : Disk) (path : String) : Disk :=
  match d.locate path with
  | .ok l => d.removeAt l
  | .error _ => d

/-- Creates the folder of a path in a folder that exists. -/
def makeFolder (d : Disk) (path : String) : Except IoError Disk := do
  checkPath path
  let parts := (names path).filter (· != "")
  match parts.getLast? with
  | none => .error (if path.isEmpty then .notFound else .exists)
  | some last =>
    let l ← d.follow (d.start path) (parts.dropLast ++ ["."])
    if last = "." || last = ".." then .error .exists
    else if 255 < last.utf8ByteSize then .error .nameTooLong
    else if d.isFolderAt (l ++ [last]) || (d.textAt? (l ++ [last])).isSome then .error .exists
    else .ok { d with folders := (l ++ [last]) :: d.folders }

/-- What came of creating a folder. One that is there already need not be created. -/
def settled (d : Disk) (path : String) : Except IoError Disk → Except IoError Unit × Disk
  | .ok d => (.ok (), d)
  | .error cause => (if d.isFolder path then .ok () else .error cause, d)

/-- Creates the first of some folders, each of which is in the next one. Those in which a folder is
missing are created before it. What was created before an error stays. -/
def makeNested (d : Disk) : List String → Except IoError Unit × Disk
  | [] => (.ok (), d)
  | path :: outer =>
    match d.makeFolder path with
    | .ok d => (.ok (), d)
    | .error .notFound =>
      match d.makeNested outer with
      | (.error cause, d) => (.error cause, d)
      | (.ok (), d) => d.settled path (d.makeFolder path)
    | .error cause => d.settled path (.error cause)

/-- Creates the folder of a path and those on the way to it, as far as they are missing. -/
def makeFolders (d : Disk) (path : String) : Except IoError Unit × Disk :=
  if path.isEmpty then (.ok (), d) else d.makeNested (path :: outerPaths path)

/-- A disk with the given files, and the folders on the way to them. -/
def ofFiles (files : List (String × String)) : Except IoError Disk :=
  files.foldlM (fun d (path, text) => do
    let (made, d) := d.makeFolders ("/".intercalate (names path).dropLast)
    made
    d.write path text) {}

/-- The files with their paths from the root. -/
def paths (d : Disk) : List (String × String) :=
  d.files.map fun file => ("/".intercalate file.1, file.2)

end Disk

end DaoForge
