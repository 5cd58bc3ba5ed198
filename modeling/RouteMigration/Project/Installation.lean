import RouteMigration.Project.Manifest

/-!
# Running a package manager

What a program does is not described here: a `Toolbox` only says which programs there are and with
which status they end.

## Main Definitions

* `Invocation` — a program that was run
* `PackageManager.run` — asks a package manager for one operation
* `DependencyPlan.carryOut` — removes and adds the packages of a plan
-/

namespace RouteMigration

/-- The status that a program ends with, for the programs there are. -/
abbrev Toolbox := String → Option UInt8

/-- A program that was run. -/
structure Invocation where
  program : String
  arguments : List String
  /-- The directory it was run in. -/
  directory : Location
deriving DecidableEq, Repr, Inhabited

/-- The programs that were run, and the error that ended the work, if one did. -/
structure Installation where
  invocations : List Invocation := []
  error : Option ProjectError := none
deriving DecidableEq, Repr, Inhabited

namespace PackageManager

/-- Asks a package manager in the directory `dir` for an operation on packages.  Without packages
nothing is run. -/
def run (m : PackageManager) (tools : Toolbox) (w : Workspace) (dir : String)
    (operation : PackageOperation) (packages : NameSet) : Installation :=
  if packages.isEmpty then {}
  else
    match w.locate dir with
    | .error fault => { error := some (.start m.program fault) }
    | .ok l =>
      match w.tree.find? l with
      | none => { error := some (.start m.program .notFound) }
      | some (.file _) => { error := some (.start m.program .notDirectory) }
      | some .directory =>
        match tools m.program with
        | none => { error := some (.start m.program .notFound) }
        | some code =>
          { invocations := [⟨m.program, m.verb operation :: packages.toList, l⟩]
            error := if code = 0 then none else some (.status m.program code) }

end PackageManager

/-- Removes the packages of a plan and then, unless that failed, adds the others. -/
def DependencyPlan.carryOut (p : DependencyPlan) (m : PackageManager) (tools : Toolbox)
    (w : Workspace) (dir : String) : Installation :=
  let removal := m.run tools w dir .remove p.remove
  match removal.error with
  | some _ => removal
  | none =>
    let addition := m.run tools w dir .add p.add
    { addition with invocations := removal.invocations ++ addition.invocations }

end RouteMigration
