import RouteMigration.Module.Options
import RouteMigration.Text.NameSet
import RouteMigration.Tree.Node

/-!
# State of a migration

A module is migrated in steps.  Each step gets the module and what earlier steps found out about
it, and answers with both, whether it changed the module, and what the user has to look at.

## Main Definitions

* `Warning` — what the user has to look at
* `State` — what the steps have found out
* `Step` — the answer of a step
-/

namespace RouteMigration

/-- What the user has to look at after a migration. -/
inductive Warning where
  /-- No default export: the derived name is registered. -/
  | noDefaultExport (name : String)
  /-- An asynchronous component that awaits stays asynchronous. -/
  | awaitsWhileRendering (name : String)
  /-- An asynchronous component that does not await was made synchronous. -/
  | madeSynchronous (name : String)
  /-- A navigation import stays as it is. -/
  | navigationKept
  /-- The router hook gives a function now. -/
  | navigateCalls
  /-- There is no place for the head. -/
  | noHead
  /-- The component of a layout is not declared in a way that can be changed. -/
  | layoutNotFound (name : String)
  /-- There is no place for the scripts. -/
  | noScripts
  /-- The children are still used though they are no longer given. -/
  | childrenLeft (name : String)
  /-- An API route without handlers. -/
  | noHandlers
deriving DecidableEq, Repr, Inhabited

namespace Warning

/-- The code of a warning. -/
def code : Warning → String
  | noDefaultExport _ => "W-EXPORT-001"
  | awaitsWhileRendering _ | madeSynchronous _ => "W-EXPORT-002"
  | navigationKept => "W-NAV-001"
  | navigateCalls => "W-NAV-002"
  | noHead => "W-SHELL-001"
  | layoutNotFound _ => "W-SHELL-002"
  | noScripts => "W-SHELL-003"
  | childrenLeft _ => "W-SHELL-004"
  | noHandlers => "W-API-001"

/-- A warning as it is told to the user. -/
def message : Warning → String
  | noDefaultExport name =>
    "no default export component found, registering '" ++ name ++ "'"
  | awaitsWhileRendering name =>
    "async component '" ++ name ++
      "' awaits while rendering, move its data fetching into a loader"
  | madeSynchronous name =>
    "async component '" ++ name ++ "' made synchronous, move any data fetching into a loader"
  | navigationKept =>
    "next/navigation import has exports without a router equivalent, left unchanged"
  | navigateCalls =>
    "useRouter() now returns a navigate function; router method calls need review"
  | noHead => "no <html> element with a <body> child, <HeadContent /> not inserted"
  | layoutNotFound name => "layout component '" ++ name ++ "' not found, JSX left unchanged"
  | noScripts =>
    "no \x7bchildren\x7d or <Outlet /> directly inside <body>, <Scripts /> not inserted"
  | childrenLeft name =>
    "'" ++ name ++ "' still refers to children after its parameters were removed"
  | noHandlers => "no exported request handlers found, registering an empty handler set"

end Warning

/-- What the steps of a migration have found out. -/
structure State where
  options : Options
  /-- The name of the component, once a default export was found. -/
  component? : Option String := none
  metadataFound : Bool := false
  /-- The names of the stylesheets that the head links. -/
  stylesheets : List String := []
  /-- The names of the request handlers, in source order. -/
  handlers : List String := []
  /-- The packages that new imports need. -/
  packages : NameSet := .empty
deriving DecidableEq, Repr, Inhabited

namespace State

/-- The name of the component; without one, the name that the file gives. -/
def component (s : State) : String := s.component?.getD s.options.derivedName

end State

/-- The answer of one step. -/
structure Step where
  items : List Node
  state : State
  /-- The step changed the module. -/
  isModified : Bool := false
  warnings : List Warning := []
deriving Inhabited

/-- Puts an item at a place of a list. -/
def insertAt (i : Nat) (item : Node) (items : List Node) : List Node :=
  items.take i ++ item :: items.drop i

end RouteMigration
