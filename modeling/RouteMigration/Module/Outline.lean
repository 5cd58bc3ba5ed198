import RouteMigration.Module.Constant
import RouteMigration.Module.ImportSource
import RouteMigration.Module.Shape
import RouteMigration.Router.Registration

/-!
# Outline of a module

What a migration sees of a module: its items by shape, and its elements.

## Main Definitions

* `ItemOutline.of`, `Outline.of` — items and modules
* `ElementOutline.all` — the elements of a module, each before those inside it
* `ExpressionShape.of` — the kind of an expression
-/

namespace RouteMigration

/-- What an import binds. -/
inductive SpecifierOutline where
  | named (localName : String) (imported : Option String) (isTypeOnly : Bool)
  | default (localName : String)
  | namespace (localName : String)
deriving DecidableEq, Repr

namespace SpecifierOutline

/-- The text of a name given by a module. -/
def nameText? : Node → Option String
  | .mk (.ident name) _ _ => some name
  | .mk (.str value _) _ _ => some value
  | _ => none

/-- The outline of a specifier. -/
def of? : Node → Option SpecifierOutline
  | .mk (.importNamed isTypeOnly) _ [imported, .mk (.ident name) _ _] =>
    some (.named name (nameText? imported) isTypeOnly)
  | .mk .importDefault _ [.mk (.ident name) _ _] => some (.default name)
  | .mk .importNamespace _ [.mk (.ident name) _ _] => some (.namespace name)
  | _ => none

end SpecifierOutline

/-- What an import declaration says. -/
structure ImportOutline where
  source : String
  isTypeOnly : Bool
  specifiers : List SpecifierOutline
deriving Repr

/-- What a declaration declares. -/
inductive DeclarationOutline where
  | function (name : String) (params : Nat) (isAsync : Bool)
  | bindings (kind : VarKind) (names : List (Option String))
  | class (name : String)
  | other
deriving Repr

namespace DeclarationOutline

/-- The node is a declaration of some other sort. -/
def isOther : Form → Bool
  | .varDecl _ _ | .enumDecl _ _ | .moduleDecl _ _ => true
  | .type (.interface _) | .type (.synonym _) => true
  | _ => false

/-- The outline of a declaration. -/
def of? (n : Node) : Option DeclarationOutline :=
  match n with
  | .functionDecl _ _ (.mk (.ident name) _ _) (.mk (.function isAsync _) _ [_, params, _, _]) =>
    some (.function name params.parts.length isAsync)
  | .mk (.classDecl _) _ [.mk (.ident name) _ _, _] => some (.class name)
  | .varDecl _ kind _ ds =>
    if Shape.isVariable kind then some (.bindings kind (ds.map Shape.boundName?))
    else some .other
  | .mk form _ _ => if isOther form then some .other else none

end DeclarationOutline

/-- What a metadata export says. -/
structure MetadataOutline where
  /-- The place of its declarator. -/
  index : Nat
  /-- How many properties its object has. -/
  size : Nat
  tags : List MetaTag

/-- What an item of a module is; an item may be nothing of interest. -/
structure ItemOutline where
  importDecl : Option ImportOutline := none
  directive : Option String := none
  metadata : Option MetadataOutline := none
  defaultExport : Option DefaultExport := none
  declaration : Option DeclarationOutline := none
  exportedDeclaration : Option DeclarationOutline := none

namespace ItemOutline

/-- The outline of an import declaration. -/
def import? : Node → Option ImportOutline
  | .importDecl _ isTypeOnly _ specifiers (.str _ source _) _ =>
    some ⟨source, isTypeOnly, specifiers.filterMap SpecifierOutline.of?⟩
  | _ => none

/-- The outline of an exported declaration. -/
def exported? : Node → Option DeclarationOutline
  | .exportDecl _ d => DeclarationOutline.of? d
  | _ => none

/-- The outline of an item. -/
def of (item : Node) : ItemOutline where
  importDecl := import? item
  directive := Shape.directive? item
  metadata := (Shape.metadata? item).map fun (index, properties) =>
    ⟨index, properties.length, MetaTag.ofProperties properties⟩
  defaultExport := DefaultExport.of? item
  declaration := DeclarationOutline.of? item
  exportedDeclaration := exported? item

end ItemOutline

/-- What a module is made of. -/
structure Outline where
  /-- How many directives it begins with. -/
  prologue : Nat
  /-- How many directives and imports it begins with. -/
  leading : Nat
  items : List ItemOutline

/-- The outline of a module. -/
def Outline.of (m : Module) : Outline where
  prologue := Shape.prologue m.items
  leading := Shape.leading m.items
  items := m.items.map ItemOutline.of

/-! ### Elements -/

/-- What an attribute is called. -/
inductive AttrOutline where
  | named (name : String)
  | namespaced
  | spread
deriving DecidableEq, Repr

/-- What a child of an element is. -/
inductive ChildOutline where
  | placeholder
  | outlet
  | body
  | text
  | element
  | fragment
  | expression
  | spread
deriving DecidableEq, Repr

/-- What a migration sees of an element. -/
structure ElementOutline where
  tag : Option String
  known : Option KnownComponent
  attrs : List AttrOutline
  children : List ChildOutline
  isSelfClosing : Bool
deriving Repr

namespace ElementOutline

/-- The outline of an attribute. -/
def attr (a : Node) : AttrOutline :=
  match a.form with
  | .spreadAttr => .spread
  | _ =>
    match Shape.attrName? a with
    | some name => .named name
    | none => .namespaced

/-- The outline of a child; the first that applies. -/
def child (c : Node) : ChildOutline :=
  if Shape.isPlaceholder c then .placeholder
  else if Shape.isElement "Outlet" c then .outlet
  else if Shape.isElement "body" c then .body
  else match c.form with
    | .text _ => .text
    | .element => .element
    | .fragment => .fragment
    | .spreadChild => .spread
    | _ => .expression

/-- The outline of an element. -/
def of? (n : Node) : Option ElementOutline :=
  match n with
  | .element _ (.opening _ isSelfClosing _ _ attrs) children _ =>
    some ⟨Shape.tag? n, KnownComponent.of? n, attrs.map attr, children.map child, isSelfClosing⟩
  | _ => none

/-- The elements in a tree, each before those inside it. -/
def all : Node → List ElementOutline :=
  Node.fold fun form span parts =>
    (of? (.mk form span (parts.map (·.1)))).toList ++ parts.flatMap (·.2)

end ElementOutline

/-! ### Expressions -/

/-- The kind of an expression. -/
inductive ExpressionShape where
  | object
  | arrow
  | function
  | ident
  | call
  | member
  | literal
  | template
  | binary
  | other
deriving DecidableEq, Repr

namespace ExpressionShape

/-- The kind of an expression, by its form. -/
def of : Form → ExpressionShape
  | .object => object
  | .arrow _ => arrow
  | .functionExpr => function
  | .ref _ => ident
  | .call => call
  | .member => member
  | .str _ _ | .num _ | .bigInt _ | .bool _ | .null | .regex _ => literal
  | .template => template
  | .binary _ => binary
  | _ => other

end ExpressionShape

end RouteMigration
