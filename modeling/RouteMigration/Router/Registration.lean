import RouteMigration.Module.ImportSource
import RouteMigration.Router.Symbol
import RouteMigration.Tree.Build

/-!
# Registering a route

What a migrated module declares to the router, and the syntax for it.

## Main Definitions

* `MetaTag` — an entry of the head of a route
* `MetaTag.ofProperties` — the entries that a metadata object spells
* `Registration` — everything that is registered
* `Registration.item` — `export const Route = ...`
-/

namespace RouteMigration

/-- An entry of the list of meta tags. -/
inductive MetaTag where
  /-- `{ title: value }` -/
  | title (value : Node)
  /-- `{ name: "name", content: value }` -/
  | named (name : String) (content : Node)
  /-- `{ charSet: "value" }` -/
  | charSet (value : String)
deriving Inhabited

namespace MetaTag

/-- The entry for a key of the metadata. -/
def ofKey (key : String) (value : Node) : MetaTag :=
  if key = "title" then title value else named key value

/-- The entry that a property of the metadata spells.  A key that is computed or a number spells
none, nor does a spread or a method. -/
def ofProperty? : Node → Option MetaTag
  | .mk .keyValue _ [.mk (.word key) _ _, value] => some (ofKey key value)
  | .mk .keyValue _ [.mk (.str key _) _ _, value] => some (ofKey key value)
  | .mk (.shorthand name) s _ => some (ofKey name (.ref s name))
  | _ => none

/-- The entries that the properties of the metadata spell, in order. -/
def ofProperties (properties : List Node) : List MetaTag := properties.filterMap ofProperty?

/-- The syntax of an entry. -/
def toNode : MetaTag → Node
  | title value => Build.object [Build.keyValue "title" value]
  | named name content =>
    Build.object [Build.keyValue "name" (Build.str name), Build.keyValue "content" content]
  | charSet value => Build.object [Build.keyValue "charSet" (Build.str value)]

/-- The entries that every top layout begins with. -/
def rootDefaults : List MetaTag :=
  [charSet "utf-8", named "viewport" (Build.str "width=device-width, initial-scale=1")]

end MetaTag

/-- The syntax of a link to a stylesheet, from the name its URL is bound to. -/
def stylesheetLink (binding : String) : Node :=
  Build.object
    [Build.keyValue "href" (Build.ref binding), Build.keyValue "rel" (Build.str "stylesheet")]

/-- What the head of a route holds. -/
structure Head where
  tags : List MetaTag := []
  /-- The names of the stylesheets; without them there is no list of links. -/
  stylesheets : Option (List String) := none
deriving Inhabited

namespace Head

/-- `() => ({ meta: [...], links: [...] })` -/
def toNode (h : Head) : Node :=
  let links := match h.stylesheets with
    | some names => [Build.keyValue "links" (Build.array (names.map stylesheetLink))]
    | none => []
  Build.thunk
    (Build.object (Build.keyValue "meta" (Build.array (h.tags.map MetaTag.toNode)) :: links))

end Head

/-- Everything that is registered for a route. -/
structure Registration where
  factory : RouteFactory
  head : Option Head := none
  /-- The component and the slot it goes to. -/
  component : Option (ComponentSlot × String) := none
  /-- The names of request handlers. -/
  handlers : Option (List String) := none
deriving Inhabited

namespace Registration

/-- The properties of the options object. -/
def properties (r : Registration) : List Node :=
  let head := r.head.map fun h => Build.keyValue "head" h.toNode
  let component := r.component.map fun (slot, name) => Build.keyValue slot.key (Build.ref name)
  let server := r.handlers.map fun names =>
    Build.keyValue "server" (Build.object
      [Build.keyValue "handlers"
        (Build.object (names.map fun n => .mk (.shorthand n) none []))])
  head.toList ++ component.toList ++ server.toList

/-- The call that creates the route. -/
def call (r : Registration) : Node :=
  let options := Build.object r.properties
  let factory := Build.ref r.factory.symbol.name
  match r.factory with
  | .file path => Build.call (Build.call factory [Build.str path]) [options]
  | .root => Build.call factory [options]

/-- `export const Route = ...` -/
def item (r : Registration) : Node :=
  Build.exported (Build.constDecl routeBinding r.call)

end Registration

/-- The import that every migrated module begins with. -/
def routerImport (factory : RouteFactory) : Node :=
  Build.namedImport (factory.importedSymbols.map fun s => (s.name, s.name)) routerPackage

/-- An element of the router. -/
def RouterSymbol.element (s : RouterSymbol) : Node := Build.emptyElement s.name

/-- `<head><HeadContent/></head>` -/
def headElement : Node := Build.element "head" [] [RouterSymbol.headContent.element]

end RouteMigration
