import RouteMigration.Text.Words
import RouteMigration.Router.Symbol

/-!
# Options of one migrated module

## Main Definitions

* `ModuleKind` — which pipeline a module takes
* `Options` — everything that is decided before a module is read
* `Options.derivedName` — the name of a component that has none of its own
-/

namespace RouteMigration

/-- Which pipeline a module takes. -/
inductive ModuleKind where
  | page
  | rootLayout
  | layout
  | loading
  | error
  | api
deriving DecidableEq, Repr, Inhabited

namespace ModuleKind

/-- The module renders a component. -/
def isPageLike : ModuleKind → Bool
  | api => false
  | _ => true

/-- The module renders a component around others. -/
def isLayout : ModuleKind → Bool
  | rootLayout | layout => true
  | _ => false

/-- The route of the module has a head. -/
def hasHead : ModuleKind → Bool
  | page | layout | rootLayout => true
  | _ => false

/-- The slot that the component of the module is registered in. -/
def slot? : ModuleKind → Option ComponentSlot
  | page | layout | rootLayout => some .component
  | loading => some .pendingComponent
  | error => some .errorComponent
  | api => none

/-- Every kind with its name on the command line. -/
def names : List (String × ModuleKind) :=
  [("page", page), ("root-layout", rootLayout), ("layout", layout), ("loading", loading),
    ("error", error), ("api", api)]

/-- The kind of that name. -/
def ofName? (name : String) : Option ModuleKind := names.lookup name

/-- The name of a kind. -/
def name : ModuleKind → String
  | page => "page"
  | rootLayout => "root-layout"
  | layout => "layout"
  | loading => "loading"
  | error => "error"
  | api => "api"

end ModuleKind

/-- How the top layout treats fonts and stylesheets. -/
inductive LayoutVariant where
  /-- Unused font instances are removed and stylesheets are imported as URLs. -/
  | fontAware
  /-- Fonts are left alone and stylesheets keep their sources. -/
  | plain
deriving DecidableEq, Repr, Inhabited

namespace LayoutVariant

/-- The variant of that name. -/
def ofName? (name : String) : Option LayoutVariant :=
  if name = "font-aware" then some fontAware
  else if name = "plain" then some plain
  else none

/-- The name of a variant. -/
def name : LayoutVariant → String
  | fontAware => "font-aware"
  | plain => "plain"

end LayoutVariant

/-- What is decided about a module before it is read. -/
structure Options where
  kind : ModuleKind := .page
  /-- The path that the route is registered under. -/
  route : String := "/"
  /-- The file name without its extension. -/
  stem : String := "page"
  variant : LayoutVariant := .fontAware
  /-- Imports of the image component are redirected rather than dropped. -/
  redirectImages : Bool := true
deriving DecidableEq, Repr, Inhabited

namespace Options

/-- The top layout is the top of all routes; every other module is registered by its path. -/
def factory (o : Options) : RouteFactory :=
  if o.kind = .rootLayout then .root else .file o.route

/-- Font instances are removed. -/
def fontAware (o : Options) : Bool :=
  o.kind = .rootLayout && o.variant = .fontAware

/-- A word with its first letter in upper case. -/
def capitalize : List Char → List Char
  | [] => []
  | c :: cs => c.toUpper :: cs

/-- The ASCII words of a stem, each with its first letter in upper case, run together. -/
def pascalCase (stem : List Char) : List Char :=
  ((Text.splitAt (fun c => !c.isAlphanum) stem).map capitalize).flatten

/-- The name of a component that has none of its own.  The top layout is always `RootLayout`, a
page is `Component`, an error file is `ErrorBoundary` so that the global `Error` stays visible,
and every other file is called by its stem. -/
def derivedName (o : Options) : String :=
  if o.kind = .rootLayout then "RootLayout"
  else if o.stem = "page" || o.stem = "" then "Component"
  else if o.stem = "error" then "ErrorBoundary"
  else match pascalCase o.stem.toList with
    | [] => "Component"
    | name => String.ofList (Text.guardDigit name)

end Options

end RouteMigration
