import RouteMigration.Project.Error
import RouteMigration.Project.Workspace
import RouteMigration.Route.File

/-!
# Discovery of route files

## Main Definitions

* `Workspace.appDirectory` — where the routes of a project are
* `Workspace.routeFiles` — the route files below a directory, in the order of a walk
-/

namespace RouteMigration

/-- The directory that the routes of a project are in. -/
structure AppDirectory where
  path : String
  /-- It is below `src`. -/
  usesSrc : Bool
deriving DecidableEq, Repr, Inhabited

/-- The name of a directory whose files are no routes. -/
def isPrivateName (name : String) : Bool :=
  name.startsWith "_" || name.startsWith "." || name = "node_modules"

namespace Workspace

/-- The app directory of a project: `src/app`, or else `app`. -/
def appDirectory (w : Workspace) (root : String) : Except ProjectError AppDirectory :=
  let inSrc := Path.join (Path.join root "src") "app"
  let atTop := Path.join root "app"
  if w.isDirectory inSrc then .ok ⟨inSrc, true⟩
  else if w.isDirectory atTop then .ok ⟨atTop, false⟩
  else .error (.noAppDirectory root)

/-- The files at or below a location that no private directory holds, each with its location from
there. -/
def publicFiles (w : Workspace) (l : Location) : List Location :=
  match w.tree.find? l with
  | some (.file _) => [[]]
  | _ => (w.tree.below l).filterMap fun
      | (names, .file _) => if names.dropLast.any isPrivateName then none else some names
      | (_, .directory) => none

/-- The route files below a directory, in the order of a walk. -/
def routeFiles (w : Workspace) (dir : String) : Except ProjectError (List RouteFile) := do
  let l ← (w.locate dir).mapError (.walk dir)
  if (w.tree.find? l).isNone then throw (.walk dir .notFound)
  return (w.publicFiles l).filterMap fun names =>
    RouteFile.analyze? (names.foldl Path.join dir) dir

end Workspace

end RouteMigration
