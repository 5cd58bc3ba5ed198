import RouteMigration.Console.Command
import RouteMigration.Console.Excerpt
import RouteMigration.Json.Writer
import RouteMigration.Project.Migration

/-!
# Carrying out commands

## Main Definitions

* `Output` — what a command prints and how it ends
* `Command.run` — carries out a command in a workspace
-/

namespace RouteMigration

/-- Lines of text, each with its line break. -/
def unlines (lines : List String) : String := String.join (lines.map (· ++ "\n"))

/-- What a command prints and how it ends. -/
structure Output where
  /-- The exit status. -/
  exit : UInt8 := 0
  stdout : String := ""
  stderr : String := ""
  /-- The programs that were run. -/
  invocations : List Invocation := []
deriving DecidableEq, Repr, Inhabited

namespace Output

/-- The output of a command that failed with one message. -/
def failure (message : String) : Output := { exit := 1, stderr := message ++ "\n" }

/-- The output of a command line that is not well-formed, or that asks for help. -/
def ofStop : UsageStop → Output
  | .help => {}
  | .misuse => { exit := 2 }

end Output

/-- A warning about a file. -/
def warningLine (file : String) (w : Warning) : String :=
  "  warning[" ++ w.code ++ "] " ++ file ++ ": " ++ w.message

/-! ### Listing routes -/

/-- A route file as JSON. -/
def RouteFile.toJson (r : RouteFile) : Json :=
  .object [("original_path", .string r.source), ("target_path", .string r.target),
    ("kind", .string r.kind.label), ("extension", .string r.ext), ("relative_dir", .string r.dir),
    ("is_typescript", .bool r.isTypeScript), ("is_dynamic", .bool r.isDynamic),
    ("is_catch_all", .bool r.isCatchAll)]

/-- A route file as a line of a table. -/
def RouteFile.line (r : RouteFile) : String :=
  Text.padRight 10 r.kind.label ++ " " ++ Text.padRight 24 r.route ++ " " ++ r.source ++ " → " ++
    r.target

/-- Lists the route files of a project. -/
def runRoutes (w : Workspace) (project : String) (asJson : Bool) : Output :=
  match (do w.routeFiles (← w.appDirectory project).path) with
  | .error e => .failure ("Error: " ++ e.message)
  | .ok routes =>
    if asJson then { stdout := (Json.array (routes.map (·.toJson))).pretty ++ "\n" }
    else if routes.isEmpty then { stdout := "No route files found\n" }
    else { stdout := unlines (routes.map (·.line)) }

/-! ### Migrating one file -/

/-- Prints a migrated module, or writes it to a file. -/
def deliver (w : Workspace) (code : String) (warnings : String) (output : Option String) :
    Output × Workspace :=
  match output with
  | none => ({ stdout := code, stderr := warnings }, w)
  | some path =>
    match w.writeText path code with
    | .error fault =>
      let message := "Error writing " ++ path ++ ": " ++ fault.message ++ "\n"
      ({ exit := 1, stderr := warnings ++ message }, w)
    | .ok w => ({ stdout := "Wrote " ++ path ++ "\n", stderr := warnings }, w)

/-- Migrates one file, which need not be in a project. -/
def runTransform (w : Workspace) (file : String) (kind : Option ModuleKind) (route : String)
    (variant : Option LayoutVariant) (output : Option String) : Output × Workspace :=
  match w.readText file with
  | .error fault => (.failure ("Error reading file: " ++ fault.message), w)
  | .ok text =>
    let stem := (Path.stem? file).getD ""
    let options : Options :=
      { kind := kind.getD (inferKind stem route), route, stem, variant := variant.getD .fontAware }
    match migrateSource (.ofExtension ((Path.extension? file).getD "")) options text with
    | .error e => ({ exit := 1, stderr := unlines (e.report file text) }, w)
    | .ok (code, m) => deliver w code (unlines (m.warnings.map (warningLine file))) output

/-! ### Migrating a project -/

/-- What is said about a file while the project is migrated. -/
def FileReport.notes (f : FileReport) : List String :=
  match f.outcome with
  | .migrated _ warnings _ => warnings.map (warningLine f.route.source)
  | .failed (.source path text error) => error.report path text
  | _ => []

/-- The line of a file in the summary. -/
def FileReport.line (dryRun : Bool) (f : FileReport) : String :=
  match f.outcome with
  | .migrated target _ _ =>
    (if dryRun then "~ " else "✓ ") ++ f.route.source ++ " → " ++ target
  | .skipped reason => "- " ++ f.route.source ++ " (" ++ reason.message ++ ")"
  | .failed error => "✗ " ++ f.route.source ++ " - " ++ error.message

/-- How many files have which outcome. -/
def MigrationReport.totals (r : MigrationReport) (dryRun : Bool) : String :=
  toString r.migrated ++ " migrated, " ++ toString r.skipped ++ " skipped, " ++
    toString r.failed ++ " failed" ++ if dryRun then " (dry run, nothing written)" else ""

/-- A line that lists packages, if there are any. -/
def packageLine (what : String) (packages : NameSet) : List String :=
  if packages.isEmpty then [] else [what ++ Text.joinWith ", " packages.toList]

/-- The summary of a migration. -/
def MigrationReport.summary (r : MigrationReport) (dryRun : Bool) : List String :=
  r.files.map (·.line dryRun) ++ ["", r.totals dryRun] ++
    packageLine "packages to add: " r.dependencies.add ++
    packageLine "packages to remove: " r.dependencies.remove

/-- What a migration prints, and how it ends. -/
def MigrationReport.output (r : MigrationReport) (dryRun : Bool) : Output :=
  let trouble := r.installation.error.map fun e => "Error updating dependencies: " ++ e.message
  { exit := if r.failed > 0 || trouble.isSome then 1 else 0
    stdout := unlines (r.summary dryRun)
    stderr := unlines (r.files.flatMap (·.notes) ++ trouble.toList)
    invocations := r.installation.invocations }

/-- Migrates a project with its settings and those of the command line. -/
def runMigrate (w : Workspace) (tools : Toolbox) (project : String) (overrides : Overrides) :
    Output × Workspace :=
  match w.config project with
  | .error e => (.failure ("Error: " ++ e.message), w)
  | .ok config =>
    let config := config.apply overrides
    match w.migrate tools project config with
    | (.error e, w) => (.failure ("Error: " ++ e.message), w)
    | (.ok report, w) => (report.output config.dryRun, w)

/-- Carries out a command in a workspace. -/
def Command.run (tools : Toolbox) (w : Workspace) : Command → Output × Workspace
  | .migrate project overrides => runMigrate w tools project overrides
  | .transform file kind route variant output => runTransform w file kind route variant output
  | .routes project asJson => (runRoutes w project asJson, w)

/-- Carries out a command line. -/
def runArguments (tools : Toolbox) (w : Workspace) (args : List String) : Output × Workspace :=
  match Command.parse args with
  | .error stop => (.ofStop stop, w)
  | .ok command => command.run tools w

end RouteMigration
