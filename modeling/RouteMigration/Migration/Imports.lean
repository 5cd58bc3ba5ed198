import RouteMigration.Migration.State
import RouteMigration.Module.ImportSource
import RouteMigration.Module.Shape
import RouteMigration.Router.Symbol
import RouteMigration.Tree.Build

/-!
# Imports of a module

Imports without a counterpart go, links and images come from other packages, and stylesheets that
were imported for their effect are bound to names.

## Main Definitions

* `ImportChange` — what becomes of an import
* `ImportChange.of` — the rules
* `redirectImports` — the step that applies them
-/

namespace RouteMigration.Migration

/-- What becomes of an import. -/
inductive ImportChange where
  | keep
  | remove
  /-- It is replaced, and perhaps a package is needed or a stylesheet linked. -/
  | replace (item : Node) (package : Option String) (stylesheet : Option String)
deriving Inhabited

namespace ImportChange

/-- The local name of a default import. -/
def defaultName? (specifiers : List Node) : Option String :=
  specifiers.findSome? fun
    | .mk .importDefault _ [.mk (.ident name) _ _] => some name
    | _ => none

/-- What becomes of a stylesheet that is imported for its effect.  Only the top layout links it,
and where fonts are handled it is imported as a URL. -/
def ofStylesheet (o : Options) (source : String) : ImportChange :=
  let name := stylesheetBinding source
  if o.kind = .rootLayout then
    let url := if o.fontAware then source ++ "?url" else source
    .replace (Build.defaultImport name url) none (some name)
  else .replace (Build.defaultImport name source) none none

/-- What becomes of an import of other sources than images. -/
def ofOther (o : Options) (specifiers : List Node) (source : String) : ImportChange :=
  if isLegacySource source then .remove
  else
    match source = linkSource && o.kind.isPageLike, defaultName? specifiers with
    | true, some name =>
      .replace (Build.namedImport [(RouterSymbol.link.name, name)] routerPackage) none none
    | _, _ =>
      if isStylesheetSource source && specifiers.isEmpty && o.kind.isPageLike then
        ofStylesheet o source
      else .keep

/-- What becomes of an import. -/
def of (o : Options) (specifiers : List Node) (source : String) : ImportChange :=
  if source = imageSource && o.kind.isPageLike && o.redirectImages then
    match defaultName? specifiers with
    | some name =>
      .replace (Build.namedImport [("Image", name)] imagePackage) (some imagePackage) none
    | none => .remove
  else ofOther o specifiers source

/-- What becomes of an item. -/
def ofItem (o : Options) : Node → ImportChange
  | .importDecl _ _ _ specifiers (.str _ source _) _ => of o specifiers source
  | _ => .keep

/-- The items that take the place of an item. -/
def apply (item : Node) : ImportChange → List Node
  | keep => [item]
  | remove => []
  | replace new _ _ => [new]

/-- The item does not stay. -/
def isChange : ImportChange → Bool
  | keep => false
  | _ => true

/-- The package that the change needs. -/
def package? : ImportChange → Option String
  | replace _ package _ => package
  | _ => none

/-- The stylesheet that the head links on account of the change. -/
def stylesheet? : ImportChange → Option String
  | replace _ _ stylesheet => stylesheet
  | _ => none

end ImportChange

/-- The step that redirects imports. -/
def redirectImports (items : List Node) (s : State) : Step :=
  let change := ImportChange.ofItem s.options
  let changes := items.map change
  { items := items.flatMap fun item => (change item).apply item
    state := { s with
      packages := (changes.filterMap (·.package?)).foldl (fun set p => set.insert p) s.packages
      stylesheets := s.stylesheets ++ changes.filterMap (·.stylesheet?) }
    isModified := changes.any (·.isChange) }

end RouteMigration.Migration
