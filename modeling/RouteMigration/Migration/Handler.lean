import RouteMigration.Migration.State
import RouteMigration.Module.Shape
import RouteMigration.Router.Symbol

/-!
# Request handlers

The exported request handlers of an API route become plain declarations, and their names are kept
for its registration.
-/

namespace RouteMigration.Migration

/-- The request handlers that a declaration declares.  A variable statement counts only if each of
its declarators binds one, so that nothing else loses its export. -/
def handlerNames : Node → List String
  | .functionDecl _ _ (.ident _ name) _ => if isHttpMethod name then [name] else []
  | d =>
    match Shape.declarators? d with
    | some ds =>
      let names := (ds.filterMap Shape.boundName?).filter isHttpMethod
      if names.length = ds.length then names else []
    | none => []

/-- The request handlers that an item exports. -/
def exportedHandlers : Node → List String
  | .exportDecl _ d => handlerNames d
  | _ => []

/-- The item, not exported if it exports request handlers. -/
def hideHandlers (item : Node) : Node :=
  if (exportedHandlers item).isEmpty then item else Shape.declaration item

/-- The step that collects request handlers. -/
def collectHandlers (items : List Node) (s : State) : Step :=
  let handlers := s.handlers ++ items.flatMap exportedHandlers
  { items := items.map hideHandlers
    state := { s with handlers := handlers }
    isModified := !handlers.isEmpty
    warnings := if handlers.isEmpty then [.noHandlers] else [] }

end RouteMigration.Migration
