import RouteMigration.Migration.State
import RouteMigration.Module.ImportSource
import RouteMigration.Module.Shape
import RouteMigration.Router.Symbol
import RouteMigration.Tree.Build

/-!
# Navigation hooks

The hooks of the navigation module are imported from the router under the names they have there,
and where they are used the names follow.

## Main Definitions

* `HookRename` — how the uses of a hook change
* `mapImport` — an import of hooks, from the router
* `renameHooks` — a tree with the uses of hooks changed
* `mapHooks` — the step that does both
-/

namespace RouteMigration.Migration

/-- The router's counterpart of a hook with another name. -/
def hookSymbol? (name : String) : Option RouterSymbol :=
  if name = "useRouter" then some .useNavigate
  else if name = "usePathname" then some .useLocation
  else if name = "useSearchParams" then some .useSearch
  else none

/-- Exports that the router has under the same name. -/
def sharedExports : List String := ["useParams", "redirect", "notFound"]

/-- How the uses of a hook change. -/
structure HookRename where
  /-- The local name so far. -/
  fromName : String
  /-- The local name from now on. -/
  toName : String
  /-- A call gives a location, of which only the path is wanted. -/
  selectsPath : Bool
deriving DecidableEq, Repr, Inhabited

/-- The name that a specifier imports, and the local name. -/
def specifierNames? : Node → Option (String × String)
  | .mk (.importNamed _) _ [.mk (.ident imported) _ _, .mk (.ident name) _ _] =>
    some (imported, name)
  | .mk (.importNamed _) _ [.mk (.str imported _) _ _, .mk (.ident name) _ _] =>
    some (imported, name)
  | .mk (.importNamed _) _ [_, .mk (.ident name) _ _] => some (name, name)
  | _ => none

/-- The specifier is for a type only. -/
def isTypeSpecifier : Node → Bool
  | .mk (.importNamed isTypeOnly) _ _ => isTypeOnly
  | _ => false

/-- The router has a counterpart for the specifier. -/
def isMappable (specifier : Node) : Bool :=
  match specifierNames? specifier with
  | some (imported, _) =>
    !isTypeSpecifier specifier &&
      (sharedExports.contains imported || (hookSymbol? imported).isSome)
  | none => false

/-- A specifier mapped to the router, and how the uses of the hook change.  A local name of its own
stays. -/
def mapSpecifier (specifier : Node) : Node × Option (HookRename × RouterSymbol) :=
  match specifier, specifierNames? specifier with
  | .mk form s [_, .mk _ nameSpan _], some (imported, name) =>
    match hookSymbol? imported with
    | none => (specifier, none)
    | some symbol =>
      let selectsPath := symbol = .useLocation
      if name != imported then
        (.mk form s [.ident none symbol.name, .ident nameSpan name],
          some (⟨name, name, selectsPath⟩, symbol))
      else
        (.mk form s [.absent, .ident nameSpan symbol.name],
          some (⟨name, symbol.name, selectsPath⟩, symbol))
  | _, _ => (specifier, none)

/-- What becomes of an import of the navigation module. -/
inductive HookImport where
  /-- The item is no such import. -/
  | none
  /-- It stays as it is. -/
  | kept
  /-- It imports from the router. -/
  | mapped (item : Node) (renames : List (HookRename × RouterSymbol))
deriving Inhabited

/-- What becomes of an item. -/
def mapImport : Node → HookImport
  | .importDecl s isTypeOnly phase specifiers (.str _ source _) attributes =>
    if source != navigationSource then .none
    else if isTypeOnly || !specifiers.all isMappable then .kept
    else
      let mapped := specifiers.map mapSpecifier
      .mapped
        (.importDecl s isTypeOnly phase (mapped.map (·.1)) (Build.str routerPackage) attributes)
        (mapped.filterMap (·.2))
  | _ => .none

/-- The item after its import was mapped. -/
def HookImport.apply (item : Node) : HookImport → Node
  | mapped new _ => new
  | _ => item

/-- How uses of hooks change on account of an import. -/
def HookImport.renames : HookImport → List (HookRename × RouterSymbol)
  | mapped _ renames => renames
  | _ => []

/-- The import stays as it is. -/
def HookImport.isKept : HookImport → Bool
  | kept => true
  | _ => false

/-- The import was mapped. -/
def HookImport.isMapped : HookImport → Bool
  | mapped _ _ => true
  | _ => false

/-! ### Uses of hooks -/

/-- How the uses of a name change; the last import of it counts. -/
def findRename? (renames : List HookRename) (name : String) : Option HookRename :=
  renames.reverse.find? (·.fromName = name)

/-- One step of `renameHooks`. -/
def renameStep (renames : List HookRename) (form : Form) (span : Option Span)
    (parts : List (Node × Node)) : Node :=
  match form, parts with
  | .type _, _ => .mk form span (parts.map (·.1))
  | .ref name, _ =>
    match findRename? renames name with
    | some r => .ref span r.toName
    | none => .mk form span (parts.map (·.1))
  | .call, (.mk (.ref name) _ _, callee) :: (types, _) :: args =>
    let call : Node := .mk .call span (callee :: types :: args.map (·.2))
    match findRename? renames name with
    | some r => if r.selectsPath then .member none call (.word none "pathname") else call
    | none => call
  | _, _ => .mk form span (parts.map (·.2))

/-- A tree with the uses of hooks changed: a name becomes its new name, and where only the path is
wanted a call is followed by the member that holds it. -/
def renameHooks (renames : List HookRename) : Node → Node := Node.fold (renameStep renames)

/-- The step that maps navigation hooks. -/
def mapHooks (items : List Node) (s : State) : Step :=
  let imports := items.map mapImport
  let found := imports.flatMap (·.renames)
  let mapped := items.map fun item => (mapImport item).apply item
  let renames := found.map (·.1)
  { items := if renames.isEmpty then mapped else mapped.map (renameHooks renames)
    state := s
    isModified := imports.any (·.isMapped)
    warnings := (imports.filter (·.isKept)).map (fun _ => .navigationKept) ++
      (if found.any (·.2 = .useNavigate) then [.navigateCalls] else []) }

end RouteMigration.Migration
