import RouteMigration.Text.Words

/-!
# File paths

A path is kept as the text it was given as; only its *components* have meaning.  Components are
separated by `/`.  Empty ones and `.` are ignored, except a `.` that the path begins with.

## Main Definitions

* `Path.components` — the components of a path text
* `Path.join` — a path below another
* `Path.fileName?`, `Path.stem?`, `Path.extension?` — the last component and its two halves
* `Path.relativeTo?` — the components of a path below a directory
-/

namespace RouteMigration

/-- One step of a path. -/
inductive PathComponent where
  /-- The leading `/`. -/
  | root
  /-- A leading `.`. -/
  | here
  /-- A `..`. -/
  | up
  /-- A name of a file or directory. -/
  | name (text : String)
deriving DecidableEq, Repr, Inhabited

namespace PathComponent

/-- The component as it stands in a path. -/
def text : PathComponent → String
  | root => "/"
  | here => "."
  | up => ".."
  | name t => t

/-- The component that a piece between separators denotes, where it stands after the first. -/
def ofPiece? (piece : String) : Option PathComponent :=
  if piece = "" || piece = "." then none
  else if piece = ".." then some up
  else some (name piece)

end PathComponent

namespace Path

/-- The components of a path text. -/
def components (path : String) : List PathComponent :=
  let pieces := Text.pieces (· == '/') path
  let body := pieces.filterMap PathComponent.ofPiece?
  match pieces with
  | "" :: _ :: _ => .root :: body
  | "." :: _ => .here :: body
  | _ => body

/-- `path` below `dir`: one `/` goes between them unless `dir` is empty or ends in one, and an
absolute `path` stands alone. -/
def join (dir path : String) : String :=
  if path.startsWith "/" then path
  else if dir = "" || dir.endsWith "/" then dir ++ path
  else dir ++ "/" ++ path

/-- The last component, if it is a name. -/
def fileName? (path : String) : Option String :=
  match (components path).getLast? with
  | some (.name n) => some n
  | _ => none

/-- A file name cut before its last dot; a name without a dot, or with only a leading one, has no
extension. -/
def splitName (name : String) : String × Option String :=
  match Text.splitLast? '.' name with
  | none => (name, none)
  | some ("", _) => (name, none)
  | some (stem, ext) => (stem, some ext)

/-- The file name without its extension. -/
def stem? (path : String) : Option String :=
  (fileName? path).map fun n => (splitName n).1

/-- The extension of the file name, without the dot. -/
def extension? (path : String) : Option String :=
  (fileName? path).bind fun n => (splitName n).2

/-- The components of `path` below `dir`, if it lies there. -/
def relativeTo? (dir path : String) : Option (List PathComponent) :=
  (components dir).isPrefixOf? (components path)

/-- The directory of a path, as a text. -/
def parent (path : String) : String :=
  match (components path).dropLast with
  | [] => ""
  | .root :: rest => "/" ++ Text.joinWith "/" (rest.map (·.text))
  | steps => Text.joinWith "/" (steps.map (·.text))

end Path

end RouteMigration
