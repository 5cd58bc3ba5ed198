/-!
# Names of the router

The packages, exports and option keys that migrated modules refer to.
-/

namespace RouteMigration

/-- The package that the router is imported from. -/
def routerPackage : String := "@tanstack/react-router"

/-- The package whose `Image` takes the place of `next/image`. -/
def imagePackage : String := "@unpic/react"

/-- The name that the route registration is exported under. -/
def routeBinding : String := "Route"

/-- An export of the router package. -/
inductive RouterSymbol where
  | outlet
  | createFileRoute
  | createRootRoute
  | headContent
  | scripts
  | link
  | useNavigate
  | useLocation
  | useSearch
deriving DecidableEq, Repr, Inhabited

namespace RouterSymbol

/-- The name of the export. -/
def name : RouterSymbol → String
  | outlet => "Outlet"
  | createFileRoute => "createFileRoute"
  | createRootRoute => "createRootRoute"
  | headContent => "HeadContent"
  | scripts => "Scripts"
  | link => "Link"
  | useNavigate => "useNavigate"
  | useLocation => "useLocation"
  | useSearch => "useSearch"

/-- Every export, in a fixed order. -/
def all : List RouterSymbol :=
  [outlet, createFileRoute, createRootRoute, headContent, scripts, link, useNavigate,
    useLocation, useSearch]

end RouterSymbol

/-- How a route is registered. -/
inductive RouteFactory where
  /-- By its path: `createFileRoute("<path>")({...})`. -/
  | file (path : String)
  /-- As the top of all routes: `createRootRoute({...})`. -/
  | root
deriving DecidableEq, Repr, Inhabited

namespace RouteFactory

/-- The export that creates the route. -/
def symbol : RouteFactory → RouterSymbol
  | file _ => .createFileRoute
  | root => .createRootRoute

/-- What every migrated module imports from the router. -/
def importedSymbols (f : RouteFactory) : List RouterSymbol :=
  [.outlet, f.symbol, .headContent, .scripts]

end RouteFactory

/-- The option that a component is registered under. -/
inductive ComponentSlot where
  | component
  | pendingComponent
  | errorComponent
deriving DecidableEq, Repr, Inhabited

namespace ComponentSlot

/-- The key of the option. -/
def key : ComponentSlot → String
  | component => "component"
  | pendingComponent => "pendingComponent"
  | errorComponent => "errorComponent"

/-- Every slot, in a fixed order. -/
def all : List ComponentSlot := [component, pendingComponent, errorComponent]

end ComponentSlot

/-- The request methods that an API route may handle. -/
def httpMethods : List String := ["GET", "POST", "PUT", "DELETE", "PATCH", "HEAD", "OPTIONS"]

/-- `name` is a request method. -/
def isHttpMethod (name : String) : Bool := httpMethods.contains name

end RouteMigration
