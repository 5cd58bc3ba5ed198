import RouteMigration.Tree.Node

/-!
# Shapes that migrations look for

Predicates and views of items, expressions and elements.  None of them changes a tree.

## Main Definitions

* `Shape.directive?`, `Shape.importSource?` — what an item at the top of a module is
* `Shape.prologue`, `Shape.leading` — how far directives and imports reach
* `Shape.unwrapped` — an expression without parentheses and types
* `Shape.metadata?`, `DefaultExport.of?` — the exports that are registered
* `Shape.tag?`, `Shape.isPlaceholder`, `Shape.memberRoot?` — elements and references
-/

namespace RouteMigration

namespace Shape

/-! ### Items -/

/-- The value of a statement that is a string. -/
def directive? : Node → Option String
  | .exprStmt _ (.str _ value _) => some value
  | _ => none

/-- The directive that marks a module for the browser. -/
def isUseClient (item : Node) : Bool := directive? item == some "use client"

/-- The source of an import declaration. -/
def importSource? : Node → Option String
  | .importDecl _ _ _ _ (.str _ source _) _ => some source
  | _ => none

/-- The item is an import declaration. -/
def isImport (item : Node) : Bool := (importSource? item).isSome

/-- How many directives a module begins with. -/
def prologue (items : List Node) : Nat :=
  (items.takeWhile fun i => (directive? i).isSome).length

/-- How many directives, and imports after them, a module begins with. -/
def leading (items : List Node) : Nat :=
  prologue items + ((items.drop (prologue items)).takeWhile isImport).length

/-- The declaration of an item, exported or not. -/
def declaration : Node → Node
  | .exportDecl _ d => d
  | item => item

/-! ### Variables -/

/-- The kind of a variable statement whose bindings are plain variables. -/
def isVariable : VarKind → Bool
  | .var | .lexical | .const => true
  | _ => false

/-- The declarators of a variable statement. -/
def declarators? : Node → Option (List Node)
  | .varDecl _ kind _ ds => if isVariable kind then some ds else none
  | _ => none

/-- The name that a declarator binds, if it binds only one. -/
def boundName? : Node → Option String
  | .declarator _ _ (.mk (.binding name _) _ _) _ => some name
  | _ => none

/-- The value of a declarator. -/
def value? : Node → Option Node
  | .declarator _ _ _ (.mk .absent _ _) => none
  | .declarator _ _ _ value => some value
  | _ => none

/-! ### Expressions -/

/-- One step of `unwrapped`. -/
def unwrapStep (form : Form) (span : Option Span) (parts : List (Node × Node)) : Node :=
  match form, parts with
  | .paren, [(_, e)] | .asConst, [(_, e)] => e
  | .asType, [(_, e), _] | .satisfies, [(_, e), _] => e
  | _, _ => .mk form span (parts.map (·.1))

/-- The expression without parentheses, `as`, `satisfies` and `as const` around it. -/
def unwrapped : Node → Node := Node.fold unwrapStep

/-- One step of `memberRoot?`. -/
def memberRootStep (form : Form) (_ : Option Span) (parts : List (Node × Option String)) :
    Option String :=
  match form, parts with
  | .ref name, _ => some name
  | .member, (_, root) :: _ => root
  | _, _ => none

/-- The name at the root of a chain of members. -/
def memberRoot? : Node → Option String := Node.fold memberRootStep

/-! ### Exports -/

/-- The properties of an object, perhaps in parentheses or under a type. -/
def objectProperties? (e : Node) : Option (List Node) :=
  match unwrapped e with
  | .mk .object _ properties => some properties
  | _ => none

/-- The properties that a declarator gives to `metadata`. -/
def metadataOf? (d : Node) : Option (List Node) :=
  if boundName? d == some "metadata" then (value? d).bind objectProperties? else none

/-- The place of the first declarator that gives properties to `metadata`, and the properties. -/
def findMetadata? : Nat → List Node → Option (Nat × List Node)
  | _, [] => none
  | i, d :: ds =>
    match metadataOf? d with
    | some properties => some (i, properties)
    | none => findMetadata? (i + 1) ds

/-- The metadata that an item exports: the place of its declarator and its properties.  A `var`
exports none. -/
def metadata? : Node → Option (Nat × List Node)
  | .exportDecl _ (.varDecl _ kind _ ds) =>
    if kind = .lexical || kind = .const then findMetadata? 0 ds else none
  | _ => none

/-! ### Elements -/

/-- The plain name of an element. -/
def tag? : Node → Option String
  | .element _ (.opening _ _ (.mk (.tag name) _ _) _ _) _ _ => some name
  | _ => none

/-- The child is an element of that name. -/
def isElement (name : String) (child : Node) : Bool := tag? child == some name

/-- The plain name of an attribute. -/
def attrName? : Node → Option String
  | .attr _ (.word _ name) _ => some name
  | _ => none

/-- `{children}` among the children of an element. -/
def isPlaceholder : Node → Bool
  | .container _ (.ref _ name) => name == "children"
  | _ => false

end Shape

/-- An item that exports the component of a module. -/
inductive DefaultExport where
  /-- A function, with its name if it has one. -/
  | function (name : Option String)
  | arrow
  /-- A name that is bound elsewhere. -/
  | reference (name : String)
deriving DecidableEq, Repr, Inhabited

namespace DefaultExport

/-- The component that an item exports. -/
def of? : Node → Option DefaultExport
  | .exportDefaultDecl _ (.functionExpr _ (.ident _ name) _) => some (function (some name))
  | .exportDefaultDecl _ (.functionExpr _ _ _) => some (function none)
  | .exportDefaultExpr _ e =>
    match Shape.unwrapped e with
    | .mk (.arrow _) _ _ => some arrow
    | .mk (.ref name) _ _ => some (reference name)
    | _ => none
  | _ => none

end DefaultExport

/-- Components whose elements are changed. -/
inductive KnownComponent where
  | image
  | link
deriving DecidableEq, Repr, Inhabited

namespace KnownComponent

/-- The component that an element stands for. -/
def of? (element : Node) : Option KnownComponent :=
  match Shape.tag? element with
  | some name =>
    if name = "Image" then some image else if name = "Link" then some link else none
  | none => none

/-- The name of the component. -/
def name : KnownComponent → String
  | image => "Image"
  | link => "Link"

end KnownComponent

end RouteMigration
