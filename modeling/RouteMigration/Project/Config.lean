import RouteMigration.Module.Options
import RouteMigration.Route.File

/-!
# Settings of a project

## Main Definitions

* `Config` — the settings, `Overrides` — those given on the command line
* `RouteFile.moduleKind?`, `inferKind` — which pipeline a file takes
* `Config.optionsFor` — the options of a route file
-/

namespace RouteMigration

/-- The settings of a project. -/
structure Config where
  variant : LayoutVariant := .fontAware
  /-- Migrated files are kept under another name. -/
  keepBackups : Bool := true
  redirectImages : Bool := true
  installPackages : Bool := true
  /-- Nothing is written. -/
  dryRun : Bool := false
deriving DecidableEq, Repr, Inhabited

/-- Settings that are given on the command line. -/
structure Overrides where
  variant : Option LayoutVariant := none
  keepBackups : Option Bool := none
  redirectImages : Option Bool := none
  installPackages : Option Bool := none
  dryRun : Option Bool := none
deriving DecidableEq, Repr, Inhabited

namespace Config

/-- The settings with those of the command line put in. -/
def apply (c : Config) (o : Overrides) : Config where
  variant := o.variant.getD c.variant
  keepBackups := o.keepBackups.getD c.keepBackups
  redirectImages := o.redirectImages.getD c.redirectImages
  installPackages := o.installPackages.getD c.installPackages
  dryRun := o.dryRun.getD c.dryRun

end Config

/-- The pipeline of a route file; files for missing pages have none. -/
def RouteFile.moduleKind? (r : RouteFile) : Option ModuleKind :=
  match r.kind with
  | .page => some .page
  | .layout => some (if r.isRoot then .rootLayout else .layout)
  | .loading => some .loading
  | .error => some .error
  | .api => some .api
  | .notFound => none

/-- The pipeline of a file by its stem and route, where nothing else is known about it. -/
def inferKind (stem route : String) : ModuleKind :=
  match RouteKind.ofStem? stem with
  | some .layout => if route = "/" then .rootLayout else .layout
  | some .loading => .loading
  | some .error => .error
  | some .api => .api
  | _ => .page

/-- The options of a route file that takes the given pipeline. -/
def Config.optionsFor (c : Config) (r : RouteFile) (kind : ModuleKind) : Options where
  kind := kind
  route := r.route
  stem := r.stem
  variant := c.variant
  redirectImages := c.redirectImages

end RouteMigration
