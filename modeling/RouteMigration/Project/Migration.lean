import RouteMigration.Migration.Source
import RouteMigration.Project.Discovery
import RouteMigration.Project.Installation

/-!
# Migration of a project

Every route file is migrated on its own: a failure is reported for that file and the others go on.
The work on a file has two halves.  `prepare` reads and migrates it and changes nothing; `commit`
writes the migrated module and then retires the file it came from.

## Main Definitions

* `FileOutcome` — what became of a route file
* `Workspace.migrateFile`, `Workspace.migrateFiles` — one file, and one after the other
* `Workspace.migrate` — a whole project
-/

namespace RouteMigration

/-- Why a route file is left alone. -/
inductive SkipReason where
  /-- No module is made of files of that kind. -/
  | unsupported (kind : RouteKind)
  /-- Something is at the path that the module would be written to. -/
  | targetExists (path : String)
deriving DecidableEq, Repr, Inhabited

/-- How a reason is told. -/
def SkipReason.message : SkipReason → String
  | unsupported kind => kind.label ++ " routes are not supported"
  | targetExists path => path ++ " already exists"

/-- What became of a route file. -/
inductive FileOutcome where
  | migrated (target : String) (warnings : List Warning) (packages : NameSet)
  | skipped (reason : SkipReason)
  | failed (error : ProjectError)
deriving DecidableEq, Repr, Inhabited

namespace FileOutcome

/-- The file was migrated. -/
def isMigrated : FileOutcome → Bool
  | migrated .. => true
  | _ => false

/-- The file was left alone. -/
def isSkipped : FileOutcome → Bool
  | skipped _ => true
  | _ => false

/-- The file could not be migrated. -/
def isFailed : FileOutcome → Bool
  | failed _ => true
  | _ => false

/-- The packages that the migrated module needs. -/
def packages : FileOutcome → NameSet
  | migrated _ _ packages => packages
  | _ => .empty

end FileOutcome

/-- A route file and what became of it. -/
structure FileReport where
  route : RouteFile
  outcome : FileOutcome
deriving DecidableEq, Repr, Inhabited

/-- What became of a project. -/
structure MigrationReport where
  files : List FileReport := []
  dependencies : DependencyPlan := {}
  /-- How the dependencies were installed, if they were. -/
  installation : Installation := {}
deriving DecidableEq, Repr, Inhabited

namespace MigrationReport

/-- How many files have an outcome of some kind. -/
def count (r : MigrationReport) (p : FileOutcome → Bool) : Nat :=
  (r.files.filter fun f => p f.outcome).length

/-- How many files were migrated. -/
def migrated (r : MigrationReport) : Nat := r.count FileOutcome.isMigrated

/-- How many files were left alone. -/
def skipped (r : MigrationReport) : Nat := r.count FileOutcome.isSkipped

/-- How many files could not be migrated. -/
def failed (r : MigrationReport) : Nat := r.count FileOutcome.isFailed

end MigrationReport

/-- The packages that the migrated files need. -/
def requiredPackages (files : List FileReport) : NameSet :=
  NameSet.ofList (files.flatMap fun f => f.outcome.packages.toList)

/-- A module that is ready to be written. -/
structure Prepared where
  code : String
  warnings : List Warning
  packages : NameSet
deriving DecidableEq, Repr, Inhabited

namespace Workspace

/-- Migrates the text of a route file. -/
def prepareKind (w : Workspace) (c : Config) (r : RouteFile) (kind : ModuleKind) :
    Except ProjectError Prepared := do
  let text ← (w.readText r.source).mapError (.read r.source)
  let (code, m) ← (migrateSource r.dialect (c.optionsFor r kind) text).mapError
    (.source r.source text)
  return ⟨code, m.warnings, m.packages⟩

/-- The module that a route file is migrated to, or why there is none. -/
def prepare (w : Workspace) (c : Config) (r : RouteFile) :
    Except ProjectError (SkipReason ⊕ Prepared) :=
  match r.moduleKind? with
  | none => .ok (.inl (.unsupported r.kind))
  | some kind =>
    if w.contains r.target then .ok (.inl (.targetExists r.target))
    else (w.prepareKind c r kind).map .inr

/-- Moves a route file to its backup, or removes it. -/
def retire (w : Workspace) (r : RouteFile) (keepBackup : Bool) : Except FileFault Workspace :=
  if keepBackup then w.rename r.source r.backup else w.remove r.source

/-- Writes a migrated module and retires the file that it was made of.  If the file cannot be
retired, the module stays. -/
def commit (w : Workspace) (r : RouteFile) (keepBackup : Bool) (code : String) :
    Option ProjectError × Workspace :=
  match w.replace r.target code with
  | .error fault => (some (.write r.target fault), w)
  | .ok w =>
    match w.retire r keepBackup with
    | .error fault => (some (.write r.source fault), w)
    | .ok w => (none, w)

/-- Migrates a route file. -/
def migrateFile (w : Workspace) (c : Config) (r : RouteFile) : FileOutcome × Workspace :=
  match w.prepare c r with
  | .error e => (.failed e, w)
  | .ok (.inl reason) => (.skipped reason, w)
  | .ok (.inr p) =>
    let done := FileOutcome.migrated r.target p.warnings p.packages
    if c.dryRun then (done, w)
    else match w.commit r c.keepBackups p.code with
      | (some e, w) => (.failed e, w)
      | (none, w) => (done, w)

/-- Migrates one route file after the other. -/
def migrateFiles (c : Config) : Workspace → List RouteFile → List FileReport × Workspace
  | w, [] => ([], w)
  | w, r :: rest =>
    let (outcome, w) := w.migrateFile c r
    let (reports, w) := migrateFiles c w rest
    (⟨r, outcome⟩ :: reports, w)

/-- Installs the dependencies of a report, where the settings ask for it and a file was
migrated. -/
def install (w : Workspace) (tools : Toolbox) (root : String) (c : Config) (r : MigrationReport) :
    MigrationReport :=
  if c.installPackages && !c.dryRun && r.migrated > 0 && !r.dependencies.isEmpty then
    { r with
      installation := r.dependencies.carryOut (w.packageManager root) tools w root }
  else r

/-- Migrates every route file of a project and plans its dependencies. -/
def migrate (w : Workspace) (tools : Toolbox) (root : String) (c : Config) :
    Except ProjectError MigrationReport × Workspace :=
  match (do w.routeFiles (← w.appDirectory root).path) with
  | .error e => (.error e, w)
  | .ok routes =>
    let (files, w) := migrateFiles c w routes
    match w.declaredPackages root with
    | .error e => (.error e, w)
    | .ok declared =>
      let report := { files, dependencies := .make declared (requiredPackages files) }
      (.ok (w.install tools root c report), w)

end Workspace

end RouteMigration
