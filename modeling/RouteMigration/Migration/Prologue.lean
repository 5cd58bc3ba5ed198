import RouteMigration.Migration.State
import RouteMigration.Module.Shape
import RouteMigration.Router.Registration

/-!
# The top of a module

Directives for the browser go, and the import of the router comes after those that stay.
-/

namespace RouteMigration.Migration

/-- Removes the browser directives from the directives that a module begins with. -/
def dropClientDirectives (items : List Node) : List Node :=
  let n := Shape.prologue items
  (items.take n).filter (!Shape.isUseClient ·) ++ items.drop n

/-- The step that removes browser directives. -/
def stripUseClient (items : List Node) (s : State) : Step :=
  let kept := dropClientDirectives items
  { items := kept, state := s, isModified := kept.length < items.length }

/-- The step that imports the router, after the directives. -/
def importRouter (items : List Node) (s : State) : Step :=
  { items := insertAt (Shape.prologue items) (routerImport s.options.factory) items
    state := s
    isModified := true }

end RouteMigration.Migration
