import RouteMigration.Migration.State
import RouteMigration.Module.Constant
import RouteMigration.Module.ImportSource
import RouteMigration.Module.Reference
import RouteMigration.Text.Words
import RouteMigration.Tree.Build

/-!
# Fonts

A font that is created only to put its class on elements is removed, with the references to it
and the import of what created it.

## Main Definitions

* `FontInstance` — a name that is bound to a font
* `removedFonts` — the names that only `className` attributes refer to
* `droppedFactories` — the imports that are left without a reference
* `cleanClassNames` — a tree without references to fonts in `className` attributes
* `eliminateFonts` — the step that removes fonts
-/

namespace RouteMigration.Migration

/-! ### Factories and instances -/

/-- The local name that a specifier binds. -/
def localName? : Node → Option String
  | .mk (.importNamed _) _ [_, .mk (.ident name) _ _] => some name
  | .mk .importDefault _ [.mk (.ident name) _ _] => some name
  | .mk .importNamespace _ [.mk (.ident name) _ _] => some name
  | _ => none

/-- The names that an item imports from a module of fonts. -/
def fontImports : Node → List String
  | .importDecl _ _ _ specifiers (.str _ source _) _ =>
    if isFontSource source then specifiers.filterMap localName? else []
  | _ => []

/-- The names that a module imports from modules of fonts. -/
def fontFactories (items : List Node) : NameSet := .ofList (items.flatMap fontImports)

/-- A name that is bound to a font, and what creates the font. -/
structure FontInstance where
  name : String
  factory : String
deriving DecidableEq, Repr, Inhabited

/-- The factory that a declarator calls. -/
def calledFactory? (factories : NameSet) (d : Node) : Option String :=
  match Shape.value? d with
  | some (.mk .call _ (.mk (.ref name) _ _ :: _)) =>
    if factories.contains name then some name else none
  | _ => none

/-- The font that a declarator creates. -/
def fontOf? (factories : NameSet) (d : Node) : Option FontInstance := do
  return ⟨← Shape.boundName? d, ← calledFactory? factories d⟩

/-- The fonts that a module creates at its top, not exported. -/
def fontInstances (factories : NameSet) (items : List Node) : List FontInstance :=
  (items.filterMap Shape.declarators?).flatten.filterMap (fontOf? factories)

/-- The factory of a name; the last font of that name counts. -/
def factoryOf? (fonts : List FontInstance) (name : String) : Option String :=
  (fonts.reverse.find? (·.name = name)).map (·.factory)

/-- The names of fonts that only `className` attributes refer to. -/
def removableFonts (fonts : List FontInstance) (items : List Node) : NameSet :=
  let names := NameSet.ofList (fonts.map (·.name))
  names.filter fun name => (ReferenceCount.of items names name).isClassNameOnly

/-- An item without the declarators of some names; nothing is left of one that loses them all. -/
def dropDeclarators (names : NameSet) (item : Node) : List Node :=
  match item with
  | .varDecl s kind isDeclare ds =>
    if Shape.isVariable kind then
      let kept := ds.filter (!Reference.declares names ·)
      if kept.isEmpty && !ds.isEmpty then [] else [.varDecl s kind isDeclare kept]
    else [item]
  | _ => [item]

/-! ### `className` attributes -/

/-- One step of `mentions`. -/
def mentionsStep (names : NameSet) (form : Form) (_ : Option Span) (parts : List (Node × Bool)) :
    Bool :=
  match form with
  | .type _ => false
  | .ref name => names.contains name
  | _ => parts.any (·.2)

/-- The value of one of the names is read. -/
def mentions (names : NameSet) : Node → Bool := Node.fold (mentionsStep names)

/-- The expression is one of the names, or a member of it. -/
def isRooted (names : NameSet) (n : Node) : Bool :=
  match Shape.memberRoot? n with
  | some name => names.contains name
  | none => false

/-- One step of `blankOut`. -/
def blankOutStep (names : NameSet) (form : Form) (span : Option Span)
    (parts : List (Node × Node)) : Node :=
  match form with
  | .type _ => .mk form span (parts.map (·.1))
  | .ref _ | .member =>
    if isRooted names (.mk form span (parts.map (·.1))) then Build.str ""
    else .mk form span (parts.map (·.2))
  | _ => .mk form span (parts.map (·.2))

/-- An expression with the empty string in place of each of the names, with its members. -/
def blankOut (names : NameSet) : Node → Node := Node.fold (blankOutStep names)

/-- What an attribute `className={e}` becomes when `e` mentions the names: a plain string where
`e` stands for a text, and nothing where that text is blank. -/
def foldClassName (s : Option Span) (name : Node) (cs : Option Span) (e : Node) : Node :=
  match constantText? e with
  | none => .attr s name (.container cs e)
  | some text =>
    let text := Text.collapse text
    if text = "" then .absent else .attr s name (Build.str text)

/-- An attribute without references to the names, if it is a `className`. -/
def cleanAttr (names : NameSet) (a : Node) : Node :=
  match a with
  | .attr s name (.container cs e) =>
    if Shape.attrName? a == some "className" && mentions names e then
      foldClassName s name cs (blankOut names e)
    else a
  | _ => a

/-- The part is there. -/
def isPresent (n : Node) : Bool := n.form != .absent

/-- One step of `cleanClassNames`.  An opening tag keeps no attribute that has gone. -/
def cleanStep (names : NameSet) (form : Form) (span : Option Span) (parts : List (Node × Node)) :
    Node :=
  match form, parts with
  | .type _, _ => .mk form span (parts.map (·.1))
  | .attr, _ => cleanAttr names (.mk form span (parts.map (·.2)))
  | .opening _, [(_, name), (_, types), (_, .mk .seq s attrs)] =>
    .mk form span [name, types, .mk .seq s (attrs.filter isPresent)]
  | _, _ => .mk form span (parts.map (·.2))

/-- A tree without references to the names in `className` attributes. -/
def cleanClassNames (names : NameSet) : Node → Node := Node.fold (cleanStep names)

/-! ### Imports -/

/-- An item without the font imports of some names; nothing is left of one that imports nothing
else. -/
def dropSpecifiers (names : NameSet) (item : Node) : List Node :=
  match item with
  | .importDecl s isTypeOnly phase specifiers (.str ss source raw) attributes =>
    if isFontSource source then
      let kept := specifiers.filter fun sp => !((localName? sp).map names.contains).getD false
      if kept.isEmpty then []
      else [.importDecl s isTypeOnly phase kept (.str ss source raw) attributes]
    else [item]
  | _ => [item]

/-- The factories of removed fonts to which nothing refers any more. -/
def unusedFactories (fonts : List FontInstance) (removed : NameSet) (items : List Node) :
    NameSet :=
  let marked := NameSet.ofList (removed.toList.filterMap (factoryOf? fonts))
  marked.filter fun name => !(ReferenceCount.of items marked name).isSeen

/-- The items without the declarators of some names and the references to them in `className`
attributes. -/
def removeInstances (removed : NameSet) (items : List Node) : List Node :=
  (items.flatMap (dropDeclarators removed)).map (cleanClassNames removed)

/-- The fonts of a module. -/
def moduleFonts (items : List Node) : List FontInstance :=
  fontInstances (fontFactories items) items

/-- The names of the fonts that are removed from a module. -/
def removedFonts (items : List Node) : NameSet := removableFonts (moduleFonts items) items

/-- The names of the factories that a module no longer imports. -/
def droppedFactories (items : List Node) : NameSet :=
  let removed := removedFonts items
  unusedFactories (moduleFonts items) removed (removeInstances removed items)

/-- The items without the fonts that can be removed. -/
def withoutFonts (items : List Node) : List Node :=
  let cleaned := removeInstances (removedFonts items) items
  let dropped := droppedFactories items
  if dropped.isEmpty then cleaned else cleaned.flatMap (dropSpecifiers dropped)

/-- The step that removes fonts. -/
def eliminateFonts (items : List Node) (s : State) : Step :=
  let isModified := !(removedFonts items).isEmpty
  { items := if isModified then withoutFonts items else items
    state := s
    isModified := isModified }

end RouteMigration.Migration
