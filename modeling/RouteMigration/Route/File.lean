import RouteMigration.Path
import RouteMigration.Route.Segment
import RouteMigration.Source.Dialect

/-!
# Route files

A file below the app directory is a route file when its stem is one of six words and its
extension one of four.  Its directory gives the route path, and both together give the file that
the migrated module is written to.

## Main Definitions

* `RouteKind` — what a stem stands for
* `RouteFile.analyze?` — reads a path below the app directory
* `targetPath` — where the migrated module goes
-/

namespace RouteMigration

/-- What a route file holds, decided by its stem. -/
inductive RouteKind where
  | page
  | layout
  | loading
  | error
  | notFound
  | api
deriving DecidableEq, Repr, Inhabited

namespace RouteKind

/-- The kind that a file stem stands for. -/
def ofStem? (stem : String) : Option RouteKind :=
  if stem = "page" then some page
  else if stem = "layout" then some layout
  else if stem = "loading" then some loading
  else if stem = "error" then some error
  else if stem = "not-found" then some notFound
  else if stem = "route" then some api
  else none

/-- The name of a kind in reports and target names. -/
def label : RouteKind → String
  | page => "page"
  | layout => "layout"
  | loading => "loading"
  | error => "error"
  | notFound => "not-found"
  | api => "api"

end RouteKind

/-- The extensions a route file may have. -/
def routeExtensions : List String := ["tsx", "ts", "jsx", "js"]

/-- Where a migrated module is written.

* a page goes to one file in the app directory, its segments joined by dots, or to `index`;
* the top layout goes to `__root`;
* every other file keeps its directory and is called `_` and its kind. -/
def targetPath (appDir dir : String) (kind : RouteKind) (ext : String) : String :=
  match kind, convertedSegments dir with
  | .page, [] => Path.join appDir ("index." ++ ext)
  | .page, steps => Path.join appDir (Text.joinWith "." steps ++ "." ++ ext)
  | .layout, [] => Path.join appDir ("__root." ++ ext)
  | kind, steps => Path.join (steps.foldl Path.join appDir) ("_" ++ kind.label ++ "." ++ ext)

/-- A route file and where its migrated module goes. -/
structure RouteFile where
  /-- The path of the file, as it was given. -/
  source : String
  /-- The path of the migrated module. -/
  target : String
  kind : RouteKind
  /-- The extension, without the dot. -/
  ext : String
  /-- The directory below the app directory, its names joined by `/`. -/
  dir : String
  isTypeScript : Bool
  isDynamic : Bool
  isCatchAll : Bool
deriving DecidableEq, Repr, Inhabited

namespace RouteFile

/-- Reads `path` as a route file below `appDir`. -/
def analyze? (path appDir : String) : Option RouteFile := do
  let fileName ← Path.fileName? path
  let (stem, ext) ← Text.splitLast? '.' fileName
  guard (routeExtensions.contains ext)
  let kind ← RouteKind.ofStem? stem
  let below ← Path.relativeTo? appDir path
  let dir := Text.joinWith "/" (below.dropLast.map (·.text))
  let shapes := (segments dir).map Segment.parse
  return {
    source := path
    target := targetPath appDir dir kind ext
    kind := kind
    ext := ext
    dir := dir
    isTypeScript := ext = "ts" || ext = "tsx"
    isDynamic := shapes.any (·.isDynamic)
    isCatchAll := shapes.any (·.isCatchAll) }

/-- The file lies directly in the app directory. -/
def isRoot (r : RouteFile) : Bool := r.dir = ""

/-- The dialect its extension stands for. -/
def dialect (r : RouteFile) : Dialect := Dialect.ofExtension r.ext

/-- The name of the file, such as `page.tsx`. -/
def fileName (r : RouteFile) : String := (Path.fileName? r.source).getD ""

/-- The name of the file before its last dot. -/
def stem (r : RouteFile) : String :=
  ((Text.splitLast? '.' r.fileName).map (·.1)).getD r.fileName

/-- The route path of its directory. -/
def route (r : RouteFile) : String := routePath r.dir

/-- Where the file is moved to when it is kept. -/
def backup (r : RouteFile) : String := r.source ++ ".backup"

end RouteFile

end RouteMigration
