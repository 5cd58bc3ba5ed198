import RouteMigration.Migration.Component
import RouteMigration.Migration.Font
import RouteMigration.Migration.Handler
import RouteMigration.Migration.Hook
import RouteMigration.Migration.Imports
import RouteMigration.Migration.Page
import RouteMigration.Migration.Prologue
import RouteMigration.Migration.Register
import RouteMigration.Migration.Shell

/-!
# Migration of a module

## Main Definitions

* `Pass` — the steps of a migration
* `pipeline` — the steps for a module
* `migrate` — a module through all its steps
-/

namespace RouteMigration

/-- A step of a migration. -/
inductive Pass where
  | stripUseClient
  | importRouter
  | bindComponent
  | redirectImports
  | mapHooks
  | normalizeElements
  | fitShell
  | collectHandlers
  | registerRoute
  | eliminateFonts
deriving DecidableEq, Repr, Inhabited

namespace Pass

/-- The name of a step in reports. -/
def name : Pass → String
  | stripUseClient => "strip-use-client"
  | importRouter => "prepend-router-import"
  | bindComponent => "normalize-default-export"
  | redirectImports => "rewrite-imports"
  | mapHooks => "navigation-hooks"
  | normalizeElements => "page-elements"
  | fitShell => "layout-shell"
  | collectHandlers => "api-handlers"
  | registerRoute => "register-route"
  | eliminateFonts => "font-elimination"

/-- Every step. -/
def all : List Pass :=
  [stripUseClient, importRouter, bindComponent, redirectImports, mapHooks, normalizeElements,
    fitShell, collectHandlers, registerRoute, eliminateFonts]

/-- The step of that name. -/
def ofName? (name : String) : Option Pass := all.find? (·.name = name)

/-- Runs a step. -/
def run : Pass → List Node → State → Step
  | stripUseClient => Migration.stripUseClient
  | importRouter => Migration.importRouter
  | bindComponent => Migration.bindComponent
  | redirectImports => Migration.redirectImports
  | mapHooks => Migration.mapHooks
  | normalizeElements => Migration.normalizeElements
  | fitShell => Migration.fitShell
  | collectHandlers => Migration.collectHandlers
  | registerRoute => Migration.registerRoute
  | eliminateFonts => Migration.eliminateFonts

end Pass

/-- The steps for a module. -/
def pipeline (o : Options) : List Pass :=
  [.stripUseClient, .importRouter] ++
    if o.kind = .api then [.redirectImports, .collectHandlers, .registerRoute]
    else
      [.bindComponent, .redirectImports, .mapHooks, .normalizeElements] ++
      (if o.kind.isLayout then [.fitShell] else []) ++ [.registerRoute] ++
      (if o.fontAware then [.eliminateFonts] else [])

namespace Step

/-- A migration before its first step. -/
def start (items : List Node) (s : State) : Step := { items := items, state := s }

/-- The answer of one more step after others. -/
def next (before : Step) (pass : Pass) : Step :=
  let after := pass.run before.items before.state
  { after with
    isModified := before.isModified || after.isModified
    warnings := before.warnings ++ after.warnings }

end Step

/-- A migrated module. -/
structure Migrated where
  module : Module
  isModified : Bool
  warnings : List Warning
  /-- The name that the component is registered under. -/
  component : String
  metadataFound : Bool
  /-- The packages that new imports need. -/
  packages : NameSet

/-- A module through all its steps. -/
def migrate (o : Options) (m : Module) : Migrated :=
  let last := (pipeline o).foldl Step.next (Step.start m.items { options := o })
  { module := { m with items := last.items }
    isModified := last.isModified
    warnings := last.warnings
    component := last.state.component
    metadataFound := last.state.metadataFound
    packages := last.state.packages }

end RouteMigration
