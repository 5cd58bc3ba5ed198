import RouteMigration.Migration.State
import RouteMigration.Module.Shape
import RouteMigration.Router.Registration

/-!
# The shell of a layout

A layout shows its route through an outlet in place of `{children}`, and takes no parameters.  The
top layout also gets the contents of the head and the scripts.

## Main Definitions

* `Component` — the function that implements a component
* `Component.find?` — the component of a name
* `shell` — the body of a layout, changed
* `ShellCount` — how many places of each sort a body has
* `fitShell` — the step that changes the layout
-/

namespace RouteMigration.Migration

/-! ### The body -/

/-- A child, with an outlet in place of `{children}`. -/
def outletChild (child : Node) : Node :=
  if Shape.isPlaceholder child then RouterSymbol.outlet.element else child

/-- The child shows the route. -/
def showsRoute (child : Node) : Bool :=
  Shape.isPlaceholder child || Shape.isElement "Outlet" child

/-- The element `head` with its contents before all else. -/
def fillHead : Node → Node
  | .element s (.opening os isSelfClosing name types attrs) children closing =>
    .element s (.opening os false name types attrs) (RouterSymbol.headContent.element :: children)
      (if isSelfClosing then .mk .closing os [name] else closing)
  | n => n

/-- The children of `html`, with the contents of the head: in its `head`, else in a new one before
its `body`. -/
def addHead (children : List Node) : List Node :=
  match children.findIdx? (Shape.isElement "head") with
  | some i => children.modify i fillHead
  | none =>
    match children.findIdx? (Shape.isElement "body") with
    | some i => children.take i ++ Build.text "\n" :: headElement :: children.drop i
    | none => children

/-- The children up to the last one that satisfies `p`, and those after it. -/
def splitAfterLast (p : Node → Bool) : List Node → Option (List Node × List Node)
  | [] => none
  | c :: cs =>
    match splitAfterLast p cs with
    | some (before, after) => some (c :: before, after)
    | none => if p c then some ([c], cs) else none

/-- The children of `body`, with the scripts after the last child that shows the route. -/
def addScripts (children : List Node) : List Node :=
  match splitAfterLast showsRoute children with
  | some (before, after) =>
    before ++ Build.text "\n" :: RouterSymbol.scripts.element :: after
  | none => children

/-- The children of an element of the top layout. -/
def addShell (element : Node) (children : List Node) : List Node :=
  if Shape.isElement "html" element then addHead children
  else if Shape.isElement "body" element then addScripts children
  else children

/-- One step of `shell`. -/
def shellStep (isTop : Bool) (form : Form) (span : Option Span) (parts : List (Node × Node)) :
    Node :=
  match form, parts with
  | .type _, _ => .mk form span (parts.map (·.1))
  | .fragment, _ => .mk form span (parts.map fun p => outletChild p.2)
  | .element, [(_, opening), (_, .mk .seq s children), (_, closing)] =>
    let children := children.map outletChild
    let children :=
      if isTop then addShell (.mk .element span [opening, .mk .seq s children, closing]) children
      else children
    .mk .element span [opening, .mk .seq s children, closing]
  | _, _ => .mk form span (parts.map (·.2))

/-- The body of a layout, changed; `isTop` for the top layout. -/
def shell (isTop : Bool) : Node → Node := Node.fold (shellStep isTop)

/-- How many places of each sort a body has. -/
structure ShellCount where
  /-- `{children}` among the children of an element or fragment. -/
  outlets : Nat := 0
  /-- `html` elements with a `head` or a `body`. -/
  heads : Nat := 0
  /-- `body` elements with a child that shows the route. -/
  scripts : Nat := 0
deriving DecidableEq, Repr, Inhabited

namespace ShellCount

/-- The counts of two parts together. -/
def add (a b : ShellCount) : ShellCount :=
  ⟨a.outlets + b.outlets, a.heads + b.heads, a.scripts + b.scripts⟩

/-- The places that an element or fragment itself has. -/
def own : Node → ShellCount
  | .mk .fragment _ children => { outlets := children.countP Shape.isPlaceholder }
  | .mk .element s [opening, .mk .seq ss children, closing] =>
    let n := Node.mk .element s [opening, .mk .seq ss children, closing]
    { outlets := children.countP Shape.isPlaceholder
      heads := if Shape.isElement "html" n &&
        children.any (fun c => Shape.isElement "head" c || Shape.isElement "body" c)
        then 1 else 0
      scripts := if Shape.isElement "body" n && children.any showsRoute then 1 else 0 }
  | _ => {}

/-- One step of the count. -/
def step (form : Form) (span : Option Span) (parts : List (Node × ShellCount)) : ShellCount :=
  match form with
  | .type _ => {}
  | _ => (parts.map (·.2)).foldl add (own (.mk form span (parts.map (·.1))))

/-- The places of a body. -/
def of : Node → ShellCount := Node.fold step

/-- One step of `mentionsChildren`. -/
def mentionsStep (form : Form) (_ : Option Span) (parts : List (Node × Bool)) : Bool :=
  match form with
  | .type _ => false
  | .ref name | .shorthand name | .tag name | .ident name | .exported name =>
    name == "children"
  | .binding name _ => name == "children" || parts.any (·.2)
  | _ => parts.any (·.2)

/-- The name `children` occurs as an identifier. -/
def mentionsChildren : Node → Bool := Node.fold mentionsStep

end ShellCount

/-! ### The component -/

/-- A function, and the way back to the item that declares it. -/
structure Component where
  /-- The function has parameters. -/
  hasParams : Bool
  body : Node
  /-- The item, with a new body and without parameters. -/
  withBody : Node → Node

namespace Component

/-- The component in a function. -/
def ofFunction? (around : Node → Node) : Node → Option Component
  | .function s isAsync isGenerator types params result body =>
    some ⟨!params.isEmpty, body,
      fun b => around (.function s isAsync isGenerator types [] result b)⟩
  | _ => none

/-- The component in an arrow function. -/
def ofArrow? (around : Node → Node) : Node → Option Component
  | .arrow s isAsync types params result body =>
    some ⟨!params.isEmpty, body, fun b => around (.arrow s isAsync types [] result b)⟩
  | _ => none

/-- The component in the value of a variable: an arrow function, perhaps in parentheses, or a
function. -/
def ofValue? (around : Node → Node) : Node → Option Component
  | .functionExpr s name f => ofFunction? (fun f => around (.functionExpr s name f)) f
  | .paren s e => ofArrow? (fun e => around (.paren s e)) e
  | e => ofArrow? around e

/-- The component in the first declarator of a name. -/
def ofDeclarators? (name : String) (around : List Node → Node) : List Node → Option Component
  | [] => none
  | d :: ds =>
    if Shape.boundName? d == some name then
      match d with
      | .declarator s isDefinite pattern value =>
        ofValue? (fun v => around (.declarator s isDefinite pattern v :: ds)) value
      | _ => none
    else ofDeclarators? name (fun ds => around (d :: ds)) ds

/-- The component that a declaration declares under a name. -/
def ofDeclaration? (name : String) (around : Node → Node) : Node → Option Component
  | .functionDecl s isDeclare (.ident ns n) f =>
    if n = name then ofFunction? (fun f => around (.functionDecl s isDeclare (.ident ns n) f)) f
    else none
  | .varDecl s kind isDeclare ds =>
    if Shape.isVariable kind then
      ofDeclarators? name (fun ds => around (.varDecl s kind isDeclare ds)) ds
    else none
  | _ => none

/-- The component that an item declares under a name, exported or not. -/
def ofItem? (name : String) : Node → Option Component
  | .exportDecl s d => ofDeclaration? name (fun d => .exportDecl s d) d
  | d => ofDeclaration? name id d

/-- The items before the component of a name, the component, and the items after it. -/
def find? (name : String) : List Node → Option (List Node × Component × List Node)
  | [] => none
  | item :: rest =>
    match ofItem? name item with
    | some c => some ([], c, rest)
    | none => (find? name rest).map fun (before, c, after) => (item :: before, c, after)

end Component

/-- The step that changes the component of a layout. -/
def fitShell (items : List Node) (s : State) : Step :=
  let name := s.component
  match Component.find? name items with
  | none => { items := items, state := s, warnings := [.layoutNotFound name] }
  | some (before, c, after) =>
    let isTop := s.options.kind = .rootLayout
    let body := shell isTop c.body
    let count := ShellCount.of c.body
    let isPlaced := count.outlets > 0 || (isTop && count.heads + count.scripts > 0)
    { items := before ++ c.withBody body :: after
      state := s
      isModified := c.hasParams || isPlaced
      warnings :=
        (if isTop && count.heads = 0 then [.noHead] else []) ++
        (if isTop && count.scripts = 0 then [.noScripts] else []) ++
        (if c.hasParams && ShellCount.mentionsChildren body then [.childrenLeft name] else []) }

end RouteMigration.Migration
