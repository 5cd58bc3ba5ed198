import Mathlib.Data.List.Nodup
import RouteMigration.Proofs.Stylesheets

/-!
# Names of a module

A module binds names at its top by what it imports and by what it declares.  Two steps of a
migration make up bindings of their own: the one that binds the component, and the one that
redirects imports.  Neither of them looks at the names that are there.

## Main Definitions

* `importNames`, `topNames` — the names that an item imports, and all that it binds
* `moduleNames` — the names that a module binds at its top
* `DefaultExport.isNameless` — a component that has to be given a name
* `defaultImportName?` — the name of the default specifier of an import

## Main Statements

* `moduleNames_bindComponent` — a module binds one name more, if its component has none
* `component_name_is_fresh_iff` — when the names of a module stay distinct
* `redirected_import_binds_iff` — which names of an import are left when it is redirected

## Design Notes

Names are listed as often as they are bound, in source order.  What is only a type (an interface, a
synonym) binds none of them, but an import for a type does.
-/

namespace RouteMigration

/-- The component has no name of its own. -/
def DefaultExport.isNameless : DefaultExport → Bool
  | function none | arrow => true
  | _ => false

namespace Migration

variable {items : List Node} {item : Node} {o : Options} {name : String}

/-! ### Names that are bound -/

/-- The local names that an item imports. -/
def importNames : Node → List String
  | .importDecl _ _ _ specifiers _ _ => specifiers.filterMap localName?
  | _ => []

/-- The names that a function, class or variable declaration binds. -/
def declarationNames : Node → List String
  | .functionDecl _ _ (.ident _ name) _ | .functionExpr _ (.ident _ name) _ => [name]
  | .varDecl _ _ _ ds => ds.flatMap declaratorNames
  | d => declaredClass d

/-- The names that an item binds at the top of its module. -/
def topNames (item : Node) : List String := importNames item ++ declarationNames (declared item)

/-- The names that a module binds at its top. -/
def moduleNames (items : List Node) : List String := items.flatMap topNames

theorem moduleNames_split (before after : List Node) (item : Node) :
    moduleNames (before ++ item :: after) =
      moduleNames before ++ (topNames item ++ moduleNames after) := by
  simp [moduleNames]

/-! ### The name of the component -/

theorem topNames_constDecl (name : String) (value : Node) :
    topNames (Build.constDecl name value) = [name] := by
  simp [topNames, importNames, Build.constDecl, declared, Shape.declaration, declarationNames,
    declaratorNames, patternNames_mk]

/-- An anonymous function binds nothing. -/
theorem declarationNames_functionExpr {name : Node} (hname : ∀ n s, name = .ident s n → False)
    (s : Option Span) (f : Node) : declarationNames (.functionExpr s name f) = [] := by
  unfold declarationNames
  split
  · next heq => cases heq
  · next heq =>
    cases heq
    exact (hname _ _ rfl).elim
  · next heq => cases heq
  · rfl

/-- A function or an arrow function is bound under the name it had, or else under the derived
one. -/
theorem topNames_bindExport? {shape : DefaultExport} {derived : String} {bound : Bound}
    (hitem : DefaultExport.of? item = some shape) (hshape : ∀ name, shape ≠ .reference name)
    (hbound : bindExport? derived item = some bound) :
    topNames bound.item = (if shape.isNameless then [derived] else []) ++ topNames item := by
  unfold DefaultExport.of? at hitem
  split at hitem
  · cases hitem
    cases hbound
    rfl
  · next s fs name f hname =>
    cases hitem
    have hbefore : topNames (.exportDefaultDecl s (.functionExpr fs name f)) = [] :=
      declarationNames_functionExpr hname fs f
    rw [hbefore]
    unfold bindExport? at hbound
    dsimp only at hbound
    split at hbound
    · exact (hname _ _ rfl).elim
    · cases hbound
      rfl
  · next e =>
    cases hbound
    rw [topNames_constDecl]
    split at hitem
    · cases hitem
      rfl
    · cases hitem
      exact absurd rfl (hshape _)
    · cases hitem
  · cases hitem

/-- The first default export of a module decides about its component. -/
theorem findSome?_of? {before after : List Node} {shape : DefaultExport}
    (hbefore : ∀ item ∈ before, DefaultExport.of? item = none)
    (hitem : DefaultExport.of? item = some shape) :
    (before ++ item :: after).findSome? DefaultExport.of? = some shape := by
  rw [List.findSome?_append, List.findSome?_eq_none_iff.mpr hbefore, Option.none_or,
    List.findSome?_cons, hitem]

/-- **The component is bound.**  A module binds the derived name besides its own if its component
has no name, and else just its own. -/
theorem moduleNames_bindComponent (items : List Node) (s : State) :
    (moduleNames (bindComponent items s).items).Perm
      ((if (items.findSome? DefaultExport.of?).any DefaultExport.isNameless
        then [s.options.derivedName] else []) ++ moduleNames items) := by
  have hcases := bindComponent_cases items s
  generalize (bindComponent items s).items = items', (bindComponent items s).state = s' at hcases ⊢
  cases hcases with
  | none hnone => rw [List.findSome?_eq_none_iff.mpr hnone]; rfl
  | reference hitems hbefore hitem =>
    rw [hitems, findSome?_of? hbefore hitem]
    rfl
  | bound hitems hbefore hitem hshape hbound =>
    rw [hitems, findSome?_of? hbefore hitem, moduleNames_split, moduleNames_split,
      topNames_bindExport? hitem hshape hbound, Option.any_some, List.append_assoc]
    exact List.perm_append_comm_assoc _ _ _

/-- **The name of the component is fresh, or not.**  If a module binds distinct names, they are
distinct after its component was bound exactly if the component had a name of its own, or was bound
elsewhere, or the derived name is none of them. -/
theorem component_name_is_fresh_iff (items : List Node) (s : State)
    (hdistinct : (moduleNames items).Nodup) :
    (moduleNames (bindComponent items s).items).Nodup ↔
      ((items.findSome? DefaultExport.of?).any DefaultExport.isNameless = true →
        s.options.derivedName ∉ moduleNames items) := by
  rw [(moduleNames_bindComponent items s).nodup_iff]
  split
  · next hnameless => simp [hnameless, hdistinct]
  · next hnameless => simp [hnameless, hdistinct]

/-- `import Component from "./component"; export default () => <Component/>;` -/
def importedComponent : List Node :=
  [Build.defaultImport "Component" "./component",
    .exportDefaultExpr none (Build.thunk (Build.emptyElement "Component"))]

/-- A page gives its component the name of what it imports. -/
theorem importedComponent_clashes :
    (moduleNames importedComponent).Nodup ∧
      ¬(moduleNames (bindComponent importedComponent { options := {} }).items).Nodup := by
  have hdistinct : (moduleNames importedComponent).Nodup := by decide
  refine ⟨hdistinct, ?_⟩
  rw [component_name_is_fresh_iff importedComponent { options := {} } hdistinct]
  decide

/-! ### The names of a redirected import -/

/-- The local name of the default specifier of an import. -/
def defaultImportName? : Node → Option String
  | .importDecl _ _ _ specifiers _ _ => ImportChange.defaultName? specifiers
  | _ => none

theorem importNames_namedImport (imported name source : String) :
    importNames (Build.namedImport [(imported, name)] source) = [name] := rfl

/-- What takes the place of an import binds the name of its default specifier and nothing else; a
stylesheet that is bound had no specifiers. -/
theorem importNames_of_replace {specifiers : List Node} {source : String} {new : Node}
    {package stylesheet : Option String}
    (h : ImportChange.of o specifiers source = .replace new package stylesheet) :
    (∃ name, ImportChange.defaultName? specifiers = some name ∧ importNames new = [name]) ∨
      specifiers = [] := by
  unfold ImportChange.of at h
  split at h
  · split at h
    · next name hdefault =>
      cases h
      exact Or.inl ⟨name, hdefault, importNames_namedImport _ name _⟩
    · cases h
  · unfold ImportChange.ofOther at h
    split at h
    · cases h
    · split at h
      · next name _ hdefault =>
        cases h
        exact Or.inl ⟨name, hdefault, importNames_namedImport _ name _⟩
      · split at h
        · next hstylesheet =>
          simp only [Bool.and_eq_true, List.isEmpty_iff] at hstylesheet
          exact Or.inr hstylesheet.1.2
        · cases h

/-- **The names of a redirected import.**  Where an import is replaced, the one that takes its place
binds the name of its default specifier, and of the other names that it bound none. -/
theorem redirected_import_binds_iff (o : Options) (item new : Node)
    (package stylesheet : Option String)
    (h : ImportChange.ofItem o item = .replace new package stylesheet) (name : String)
    (hname : name ∈ importNames item) :
    name ∈ importNames new ↔ defaultImportName? item = some name := by
  unfold ImportChange.ofItem at h
  split at h
  · next specifiers _ source _ _ =>
    rcases importNames_of_replace h with ⟨first, hdefault, hnew⟩ | rfl
    · rw [hnew, List.mem_singleton, defaultImportName?, hdefault, Option.some.injEq, eq_comm]
    · cases hname
  · cases h

/-- `import Link, { useLinkStatus } from "next/link";` -/
def linkWithStatus : Node :=
  .importDecl none false .evaluation
    [.mk .importDefault none [.ident none "Link"],
      Build.importNamed "useLinkStatus" "useLinkStatus"]
    (Build.str linkSource) .absent

/-- The link is imported from the router, and its status from nowhere. -/
theorem linkWithStatus_loses_status :
    let new := Build.namedImport [("Link", "Link")] routerPackage
    ImportChange.ofItem {} linkWithStatus = .replace new none none ∧
      "Link" ∈ importNames linkWithStatus ∧ "useLinkStatus" ∈ importNames linkWithStatus ∧
      "Link" ∈ importNames new ∧ "useLinkStatus" ∉ importNames new := by
  intro new
  have hnew : ImportChange.ofItem {} linkWithStatus = .replace new none none := rfl
  have hbinds := redirected_import_binds_iff {} linkWithStatus new none none hnew
  have hlink : "Link" ∈ importNames linkWithStatus := by decide
  have hstatus : "useLinkStatus" ∈ importNames linkWithStatus := by decide
  refine ⟨hnew, hlink, hstatus, (hbinds "Link" hlink).mpr rfl, ?_⟩
  rw [hbinds "useLinkStatus" hstatus]
  decide

end Migration

end RouteMigration
