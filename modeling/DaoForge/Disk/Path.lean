/-!
# DaoForge.Disk.Path

Paths of files are texts in which names are joined by slashes. A path that opens with a slash starts at
the root, another one at the working folder.

* `names` cuts a path at every slash; an empty name and `.` stay where they are, `..` goes up;
* `join` writes one path below another;
* `outerPaths` are the paths of the folders on the way, from the inner one out;
* `extension?` is what follows the last dot of the last name, unless only that dot stands before it.
-/

namespace DaoForge.Disk

/-- Cuts at every slash; `current` holds the open name, reversed. -/
def namesFrom (current : List Char) : List Char → List (List Char)
  | [] => [current.reverse]
  | c :: rest =>
    if c = '/' then current.reverse :: namesFrom [] rest else namesFrom (c :: current) rest

/-- The names of a path, in order. -/
def names (path : String) : List String := (namesFrom [] path.toList).map String.ofList

/-- The path starts at the root. -/
def isAbsolute (path : String) : Bool := path.toList.head? == some '/'

/-- A name that leads nowhere else. -/
def staysAt (name : String) : Bool := name == "" || name == "."

/-- The path `inner` as seen from the folder `path`. -/
def join (path inner : String) : String :=
  if isAbsolute inner || path.isEmpty then inner
  else if path.toList.getLast? = some '/' then path ++ inner
  else path ++ "/" ++ inner

/-- The paths of all names but the last, of all but the last two, and so on. Names that lead nowhere
else do not count, except for a dot in front. -/
def outerPaths (path : String) : List String :=
  let parts := names path
  let inner := (parts.drop 1).filter fun name => !staysAt name
  let first :=
    match parts.head? with
    | none | some "" => if isAbsolute path then ["/"] else []
    | some name => [name]
  outer (first ++ inner).reverse
where
  outer : List String → List String
    | [] | [_] => []
    | _ :: rest =>
      (match rest.reverse with
        | "/" :: parts => "/" ++ "/".intercalate parts
        | parts => "/".intercalate parts) :: outer rest

/-- Last name of a path that names a file. -/
def fileName? (path : String) : Option String :=
  match ((names path).filter fun name => !staysAt name).getLast? with
  | some ".." => none
  | name => name

/-- Extension of a path: `json` for `model/user.json`. A name such as `.json` has none. -/
def extension? (path : String) : Option String := do
  let reversed := (← fileName? path).toList.reverse
  match reversed.dropWhile (· != '.') with
  | _ :: _ :: _ => some (String.ofList (reversed.takeWhile (· != '.')).reverse)
  | _ => none

end DaoForge.Disk
