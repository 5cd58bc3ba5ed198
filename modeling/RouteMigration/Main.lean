import RouteMigration.Console.Run

/-!
# The command line program

Loads the working directory into a workspace, carries out the command line there, and brings the
directory to the state of the workspace.  No other program is ever started.
-/

namespace RouteMigration

/-- Directories that are not looked into: no file of theirs is ever a route. -/
def isClosedDirectory (name : String) : Bool := name = "node_modules" || name = ".git"

/-- The path of a location from the working directory. -/
def pathOf (l : Location) : String := Text.joinWith "/" l

/-- Puts an entry of a directory, and what is below it, into a tree. -/
partial def loadEntry (t : FileTree) (above : Location) (e : IO.FS.DirEntry) : IO FileTree := do
  let l := above ++ [e.fileName]
  if ← e.path.isDir then
    let mut t := t.insert l .directory
    unless isClosedDirectory e.fileName do
      for inner in ← e.path.readDir do
        t ← loadEntry t l inner
    return t
  else return t.insert l (.file (← IO.FS.readBinFile e.path).data)

/-- The tree below the working directory. -/
def loadTree : IO FileTree := do
  let mut t := FileTree.empty
  for e in ← (← IO.currentDir).readDir do
    t ← loadEntry t [] e
  return t

/-- Brings the working directory from one tree to another. -/
def storeTree (before after : FileTree) : IO Unit := do
  for (l, entry) in after.entries do
    if before.find? l ≠ some entry then
      match entry with
      | .directory => IO.FS.createDirAll (pathOf l)
      | .file content => IO.FS.writeBinFile (pathOf l) ⟨content⟩
  for (l, entry) in before.entries do
    match entry, after.find? l with
    | .file _, none => IO.FS.removeFile (pathOf l)
    | _, _ => pure ()

end RouteMigration

open RouteMigration in
/-- Carries out the command line. -/
def main (args : List String) : IO UInt32 := do
  let before ← loadTree
  let (out, after) := runArguments (fun _ => none) { tree := before } args
  storeTree before after.tree
  IO.print out.stdout
  IO.eprint out.stderr
  return out.exit.toUInt32
