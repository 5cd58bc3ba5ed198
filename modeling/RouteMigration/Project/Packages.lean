import RouteMigration.Text.NameSet
import RouteMigration.Router.Symbol

/-!
# Packages of a project

Which packages a migrated project has to add and may remove, and how its package manager is asked
to do so.

## Main Definitions

* `DependencyPlan.make` — the plan from the declared and the required packages
* `PackageManager.verb` — the word of a package manager for an operation
-/

namespace RouteMigration

/-- Packages that every migrated project depends on. -/
def basePackages : List String := [routerPackage, "@tanstack/react-start"]

/-- Packages that no migrated project needs. -/
def obsoletePackages : List String := ["next"]

/-- Packages to add to and to remove from a project. -/
structure DependencyPlan where
  add : NameSet := .empty
  remove : NameSet := .empty
deriving DecidableEq, Repr, Inhabited

namespace DependencyPlan

/-- Adds the base packages and the required ones that are not declared, and removes the obsolete
ones that are. -/
def make (declared required : NameSet) : DependencyPlan where
  add := (NameSet.ofList (basePackages ++ required.toList)).filter (!declared.contains ·)
  remove := (NameSet.ofList obsoletePackages).filter declared.contains

/-- The plan asks for nothing. -/
def isEmpty (p : DependencyPlan) : Bool := p.add.isEmpty && p.remove.isEmpty

end DependencyPlan

/-- A program that installs packages. -/
inductive PackageManager where
  | npm
  | pnpm
  | yarn
deriving DecidableEq, Repr, Inhabited

/-- What a package manager is asked to do. -/
inductive PackageOperation where
  | add
  | remove
deriving DecidableEq, Repr, Inhabited

namespace PackageManager

/-- The name of the program. -/
def program : PackageManager → String
  | npm => "npm"
  | pnpm => "pnpm"
  | yarn => "yarn"

/-- The sub-command for an operation. -/
def verb : PackageManager → PackageOperation → String
  | npm, .add => "install"
  | npm, .remove => "uninstall"
  | _, .add => "add"
  | _, .remove => "remove"

end PackageManager

end RouteMigration
