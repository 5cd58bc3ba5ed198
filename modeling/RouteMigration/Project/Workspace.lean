import RouteMigration.Project.FileTree

/-!
# Workspaces

A file tree seen from a working directory, with the operations on paths that a project needs.

## Main Definitions

* `Workspace` — the tree and the working directory
* `Workspace.readText`, `Workspace.writeText` — files of text
* `Workspace.replace` — writes a file and makes the directories on the way to it
* `Workspace.rename`, `Workspace.remove` — moves and removes files
-/

namespace RouteMigration

/-- A file tree seen from a working directory. -/
structure Workspace where
  tree : FileTree := {}
  /-- The working directory. -/
  directory : Location := []
deriving DecidableEq, Repr, Inhabited

namespace Workspace

/-- The location that a path stands for. -/
def locate (w : Workspace) (path : String) : Except FileFault Location :=
  w.tree.locate w.directory path

/-- What a path leads to. -/
def find? (w : Workspace) (path : String) : Option Entry :=
  match w.locate path with
  | .ok l => w.tree.find? l
  | .error _ => none

/-- The path leads to something. -/
def contains (w : Workspace) (path : String) : Bool := (w.find? path).isSome

/-- The path leads to a directory. -/
def isDirectory (w : Workspace) (path : String) : Bool := w.find? path = some .directory

/-- The path leads to a file. -/
def isFile (w : Workspace) (path : String) : Bool :=
  match w.find? path with
  | some (.file _) => true
  | _ => false

/-- The text of a file. -/
def readText (w : Workspace) (path : String) : Except FileFault String := do
  match w.tree.find? (← w.locate path) with
  | none => throw .notFound
  | some .directory => throw .isDirectory
  | some (.file content) =>
    match String.fromUTF8? ⟨content⟩ with
    | some text => return text
    | none => throw .notText

/-- Writes a file into a directory that is there. -/
def writeBytes (w : Workspace) (path : String) (content : Array UInt8) :
    Except FileFault Workspace := do
  let l ← w.locate path
  if w.tree.isDirectory l || FileTree.namesDirectory path then throw .isDirectory
  return { w with tree := w.tree.insert l (.file content) }

/-- Writes a file of text into a directory that is there. -/
def writeText (w : Workspace) (path text : String) : Except FileFault Workspace :=
  w.writeBytes path text.toUTF8.data

/-- Makes the directory of a path and those on the way to it. -/
def makeDirectories (w : Workspace) : List PathComponent → Location → Except FileFault Workspace
  | [], l => do return { w with tree := ← w.tree.makeDirectories l }
  | .name n :: rest, l => w.makeDirectories rest (l ++ [n])
  | c :: rest, l => do
    let w := { w with tree := ← w.tree.makeDirectories l }
    w.makeDirectories rest (← w.tree.step l c)

/-- Makes the directories on the way to a file and writes it. -/
def replace (w : Workspace) (path text : String) : Except FileFault Workspace := do
  let w ← w.makeDirectories (Path.components path).dropLast w.directory
  w.writeText path text

/-- Moves a file over whatever file is at the new path. -/
def rename (w : Workspace) (path new : String) : Except FileFault Workspace := do
  let source ← w.locate path
  let target ← w.locate new
  match w.tree.find? source with
  | none => throw .notFound
  | some entry =>
    if w.tree.isDirectory target then throw .isDirectory
    return { w with tree := (w.tree.erase source).insert target entry }

/-- Removes a file. -/
def remove (w : Workspace) (path : String) : Except FileFault Workspace := do
  let l ← w.locate path
  match w.tree.find? l with
  | none => throw .notFound
  | some .directory => throw .isDirectory
  | some (.file _) => return { w with tree := w.tree.erase l }

end Workspace

end RouteMigration
