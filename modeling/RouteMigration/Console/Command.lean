import RouteMigration.Console.Arguments
import RouteMigration.Module.Options
import RouteMigration.Project.Config

/-!
# Commands

## Main Definitions

* `Command` — what the program can be asked to do
* `Command.parse` — reads it from the command line
-/

namespace RouteMigration

/-- What the program can be asked to do. -/
inductive Command where
  /-- Migrates the route files of a project. -/
  | migrate (project : String) (overrides : Overrides)
  /-- Migrates one file, and prints the module or writes it to `output`. -/
  | transform (file : String) (kind : Option ModuleKind) (route : String)
      (variant : Option LayoutVariant) (output : Option String)
  /-- Lists the route files of a project. -/
  | routes (project : String) (asJson : Bool)
deriving DecidableEq, Repr, Inhabited

namespace Command

/-- The options that every command knows. -/
def commonRules : List OptionRule :=
  [{ long := "verbose", short := some 'v', mayRepeat := true },
    { long := "help", short := some 'h', isHelp := true }]

/-- The option that names a layout variant. -/
def variantRule : OptionRule :=
  { long := "layout-variant", accepts := some fun v => (LayoutVariant.ofName? v).isSome }

/-- The options of `migrate`. -/
def migrateRules : List OptionRule :=
  commonRules ++ [{ long := "dry-run" }, { long := "no-backup" }, { long := "no-install" },
    { long := "no-image-rewrite" }, variantRule]

/-- The options of `transform`. -/
def transformRules : List OptionRule :=
  commonRules ++ [
    { long := "kind", short := some 'k', accepts := some fun v => (ModuleKind.ofName? v).isSome },
    { long := "route", short := some 'r', accepts := some fun _ => true },
    variantRule,
    { long := "output", short := some 'o', accepts := some (· ≠ "") }]

/-- The options of `routes`. -/
def routesRules : List OptionRule := commonRules ++ [{ long := "json" }]

/-- The value of a setting that an option switches. -/
def switched (a : Arguments) (long : String) (value : Bool) : Option Bool :=
  if a.has long then some value else none

/-- The layout variant that was given. -/
def givenVariant (a : Arguments) : Option LayoutVariant :=
  (a.value? variantRule.long).bind LayoutVariant.ofName?

/-- Reads the arguments of `migrate`. -/
def parseMigrate (args : List String) : Except UsageStop Command := do
  let a ← Arguments.read migrateRules args
  return .migrate (a.operands.head?.getD ".")
    { variant := givenVariant a
      keepBackups := switched a "no-backup" false
      redirectImages := switched a "no-image-rewrite" false
      installPackages := switched a "no-install" false
      dryRun := switched a "dry-run" true }

/-- Reads the arguments of `transform`. -/
def parseTransform (args : List String) : Except UsageStop Command := do
  let a ← Arguments.read transformRules args
  match a.operands with
  | [] => .error .misuse
  | file :: _ =>
    return .transform file ((a.value? "kind").bind ModuleKind.ofName?)
      ((a.value? "route").getD "/") (givenVariant a) (a.value? "output")

/-- Reads the arguments of `routes`. -/
def parseRoutes (args : List String) : Except UsageStop Command := do
  let a ← Arguments.read routesRules args
  return .routes (a.operands.head?.getD ".") (a.has "json")

/-- Reads a command line.  Options that every command knows may stand before the command. -/
def parse : List String → Except UsageStop Command
  | [] => .error .misuse
  | "migrate" :: rest => parseMigrate rest
  | "transform" :: rest => parseTransform rest
  | "routes" :: rest => parseRoutes rest
  | "help" :: rest =>
    if rest.length ≤ 1 && rest.all ["migrate", "transform", "routes", "help"].contains then
      .error .help
    else .error .misuse
  | arg :: rest => do
    if arg = "--" then throw .misuse
    match ({} : Arguments).addArgument? commonRules arg with
    | none => throw .misuse
    | some added =>
      let _ ← added
      parse rest

end Command

end RouteMigration
