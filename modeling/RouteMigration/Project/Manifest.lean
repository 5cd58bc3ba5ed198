import RouteMigration.Json.Reader
import RouteMigration.Project.Error
import RouteMigration.Project.Packages
import RouteMigration.Project.Settings
import RouteMigration.Project.Workspace

/-!
# Files that describe a project

## Main Definitions

* `Workspace.config` — the settings of a project
* `Workspace.declaredPackages` — the packages that a project declares
* `Workspace.packageManager` — the package manager that a project uses
-/

namespace RouteMigration

/-- The packages that a description declares. -/
def declaredIn (manifest : Json) : NameSet :=
  NameSet.ofList <| ["dependencies", "devDependencies"].flatMap fun table =>
    ((manifest.get? table).map Json.keys).getD []

namespace Workspace

/-- The settings of a project; without a file for them they are the default ones. -/
def config (w : Workspace) (root : String) : Except ProjectError Config := do
  let path := Path.join root "routeshift.json"
  if w.isFile path then
    let text ← (w.readText path).mapError (.configRead path)
    (Config.parse text).mapError (.configText path)
  else return {}

/-- The packages that a project declares; none without a description. -/
def declaredPackages (w : Workspace) (root : String) : Except ProjectError NameSet := do
  let path := Path.join root "package.json"
  if w.isFile path then
    let text ← (w.readText path).mapError (.read path)
    let manifest ← (Json.parse text).mapError (.manifest path)
    return declaredIn manifest
  else return .empty

/-- The package manager whose lock file a project has. -/
def packageManager (w : Workspace) (root : String) : PackageManager :=
  if w.isFile (Path.join root "pnpm-lock.yaml") then .pnpm
  else if w.isFile (Path.join root "yarn.lock") then .yarn
  else .npm

end Workspace

end RouteMigration
