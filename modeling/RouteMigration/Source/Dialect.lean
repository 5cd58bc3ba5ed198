/-!
# Dialects of the module language

The extension of a file decides whether type annotations and JSX elements are understood.
-/

namespace RouteMigration

/-- The flavour of a source file. -/
inductive Dialect where
  /-- Types and JSX. -/
  | tsx
  /-- Types without JSX, and with the angle bracket cast. -/
  | ts
  /-- JSX without types. -/
  | jsx
deriving DecidableEq, Repr, Inhabited

namespace Dialect

/-- The dialect of a file extension, without the dot. -/
def ofExtension (ext : String) : Dialect :=
  if ext = "tsx" then tsx
  else if ext = "ts" || ext = "mts" || ext = "cts" then ts
  else jsx

/-- Type annotations are understood. -/
def hasTypes : Dialect → Bool
  | jsx => false
  | _ => true

/-- JSX elements are understood. -/
def hasElements : Dialect → Bool
  | ts => false
  | _ => true

end Dialect

end RouteMigration
