import DaoForge.Command.Run

/-!
# DaoForge.Main

The program. It takes a view of the files that the command can see, runs the command on it, and carries
out what the command changed.
-/

namespace DaoForge

/-- The location of a path, followed by names alone. -/
def plainLocation (here : Location) (path : String) : Location :=
  (Disk.names path).foldl step (if Disk.isAbsolute path then [] else here)
where
  step (l : Location) (name : String) : Location :=
    if Disk.staysAt name then l else if name = ".." then l.dropLast else l ++ [name]

def absolutePath (l : Location) : String := "/" ++ "/".intercalate l

/-- The locations on the way to one, itself included. -/
def onTheWay (l : Location) : List Location := (List.range (l.length + 1)).map l.take

/-- The text of a file, empty if it is not UTF-8. -/
def readText (path : String) : IO String := do
  return (String.fromUTF8? (← IO.FS.readBinFile path)).getD ""

/-- Adds what is at a location to a view of the disk. -/
def view (d : Disk) (l : Location) : IO Disk := do
  let place := (← IO.currentDir) / absolutePath l
  if !(← place.pathExists) then return d
  if ← place.isDir then
    return if d.isFolderAt l then d else { d with folders := l :: d.folders }
  return d.put l (← readText (absolutePath l))

/-- Adds everything below a location to a view of the disk. -/
def viewBelow (d : Disk) (l : Location) : IO Disk := do
  let place := (← IO.currentDir) / absolutePath l
  if (← place.pathExists) && (← place.isDir) then
    (← place.walkDir).foldlM (fun d inner => view d (plainLocation [] inner.toString)) d
  else return d

/-- A view of what the paths lead to. -/
def viewOf (paths : List String) : IO Disk := do
  let here := plainLocation [] (← IO.currentDir).toString
  let targets := paths.map (plainLocation here)
  let d ← ((here :: targets).flatMap onTheWay).foldlM view { here }
  targets.foldlM viewBelow d

/-- Carries out the difference of two views. -/
def carryOut (before after : Disk) : IO Unit := do
  for l in after.folders.reverse do
    if !before.isFolderAt l then IO.FS.createDirAll (absolutePath l)
  for (l, _) in before.files do
    if (after.textAt? l).isNone then IO.FS.removeFile (absolutePath l)
  for (l, text) in after.files do
    if before.textAt? l != some text then IO.FS.writeFile (absolutePath l) text

end DaoForge

open DaoForge in
/-- Runs the program. -/
def main (arguments : List String) : IO UInt32 := do
  let paths := ((Command.ofArguments arguments).toOption.map Command.paths).getD []
  let before ← viewOf paths
  let outcome := runProgram before arguments
  carryOut before outcome.disk
  IO.print outcome.stdout
  IO.eprint outcome.stderr
  return outcome.code.toUInt32
