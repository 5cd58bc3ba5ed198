import RouteMigration.Grammar.Read
import RouteMigration.Layout.Node
import RouteMigration.Migration.Pipeline

/-!
# Migration of a text

Reading, migrating and printing in one.
-/

namespace RouteMigration

/-- The text of the module that a text is migrated to, and the migrated module. -/
def migrateSource (dialect : Dialect) (o : Options) (text : String) :
    Except SyntaxError (String × Migrated) := do
  let source ← Source.read dialect text
  let migrated := migrate o source.module
  return (migrated.module.print source.comments, migrated)

end RouteMigration
