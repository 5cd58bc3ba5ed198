import RouteMigration.Path

/-!
# File trees

A finite tree of files and directories.  It is kept as one list of entries, each with its location
from the top, in ascending order of the locations; so the entries of a directory follow it, and
reading the list is a walk that visits a directory before what is in it and siblings by name.

## Main Definitions

* `FileTree` — the tree, `FileTree.find?` — what is at a location
* `FileTree.insert`, `FileTree.erase`, `FileTree.eraseAll`, `FileTree.makeDirectories` — changes
* `FileTree.locate` — the location that a path stands for
* `FileFault` — why a location cannot be used

## Design Notes

A location is a list of names and so never holds `.` or `..`; those are resolved by `locate`, which
is also where a path through something that is no directory is refused.
-/

namespace RouteMigration

/-- The names on the way from the top of a tree to one of its entries. -/
abbrev Location := List String

/-- What is at a location. -/
inductive Entry where
  /-- A file and its bytes. -/
  | file (content : Array UInt8)
  | directory
deriving DecidableEq, Repr, Inhabited

/-- Why a location cannot be read or written. -/
inductive FileFault where
  | notFound
  /-- A file stands where a directory must be made. -/
  | occupied
  /-- A path leads through a file. -/
  | notDirectory
  | isDirectory
  /-- A file holds no text. -/
  | notText
deriving DecidableEq, Repr, Inhabited

/-- How a fault is told. -/
def FileFault.message : FileFault → String
  | notFound => "No such file or directory (os error 2)"
  | occupied => "File exists (os error 17)"
  | notDirectory => "Not a directory (os error 20)"
  | isDirectory => "Is a directory (os error 21)"
  | notText => "stream did not contain valid UTF-8"

/-- A finite tree of files and directories.  The top is a directory and is not listed. -/
structure FileTree where
  /-- The entries below the top in ascending order of their locations. -/
  entries : List (Location × Entry) := []
deriving DecidableEq, Repr, Inhabited

namespace FileTree

/-- The tree without entries. -/
def empty : FileTree := {}

/-- What is at a location. -/
def find? (t : FileTree) (l : Location) : Option Entry :=
  if l = [] then some .directory else t.entries.lookup l

/-- There is a directory at the location. -/
def isDirectory (t : FileTree) (l : Location) : Bool := t.find? l = some .directory

/-- There is a file at the location. -/
def isFile (t : FileTree) (l : Location) : Bool :=
  match t.find? l with
  | some (.file _) => true
  | _ => false

/-- Puts an entry in its place in an ascending list, instead of one at the same location. -/
def insertInto (l : Location) (e : Entry) : List (Location × Entry) → List (Location × Entry)
  | [] => [(l, e)]
  | x :: xs =>
    if l < x.1 then (l, e) :: x :: xs
    else if l = x.1 then (l, e) :: xs
    else x :: insertInto l e xs

/-- The tree with an entry put in. -/
def insert (t : FileTree) (l : Location) (e : Entry) : FileTree := ⟨insertInto l e t.entries⟩

/-- The tree without the entry at a location. -/
def erase (t : FileTree) (l : Location) : FileTree := ⟨t.entries.filter (·.1 ≠ l)⟩

/-- The tree without the entry at a location and everything below it. -/
def eraseAll (t : FileTree) (l : Location) : FileTree :=
  ⟨t.entries.filter fun x => !l.isPrefixOf x.1⟩

/-- The entries below a location, each with its location from there. -/
def below (t : FileTree) (l : Location) : List (Location × Entry) :=
  t.entries.filterMap fun x =>
    match l.isPrefixOf? x.1 with
    | none | some [] => none
    | some rest => some (rest, x.2)

/-- Makes the directory `name` in the directory at `here`, unless it is there.  `isLast` tells
whether no more directories are to be made in it. -/
def makeDirectory (here : Location) (name : String) (isLast : Bool) (t : FileTree) :
    Except FileFault FileTree :=
  match t.find? (here ++ [name]) with
  | some .directory => .ok t
  | some (.file _) => .error (if isLast then .occupied else .notDirectory)
  | none => .ok (t.insert (here ++ [name]) .directory)

/-- Makes the directories that are named, each in the one before, from `here` on. -/
def makeDirectoriesFrom (here : Location) : List String → FileTree → Except FileFault FileTree
  | [], t => .ok t
  | name :: rest, t => do
    makeDirectoriesFrom (here ++ [name]) rest (← t.makeDirectory here name rest.isEmpty)

/-- Makes a directory and those on the way to it, as far as they are missing. -/
def makeDirectories (t : FileTree) (l : Location) : Except FileFault FileTree :=
  makeDirectoriesFrom [] l t

/-- The location one step of a path further.  The step starts from a directory. -/
def step (t : FileTree) (here : Location) (c : PathComponent) : Except FileFault Location :=
  match t.find? here with
  | none => .error .notFound
  | some (.file _) => .error .notDirectory
  | some .directory =>
    match c with
    | .root => .error .notFound
    | .here => .ok here
    | .up => .ok here.dropLast
    | .name n => .ok (here ++ [n])

/-- The path is written as one of a directory. -/
def namesDirectory (path : String) : Bool := path.endsWith "/" || path.endsWith "/."

/-- The location that a path stands for, seen from the directory at `start`.  There need not be an
entry there, but what leads to it are directories.  A path that is not relative leaves the tree. -/
def locate (t : FileTree) (start : Location) (path : String) : Except FileFault Location := do
  if path = "" then throw .notFound
  let l ← (Path.components path).foldlM t.step start
  if namesDirectory path && t.isFile l then throw .notDirectory
  return l

end FileTree

end RouteMigration
