import RouteMigration.Text.Span
import RouteMigration.Tree.Form

/-!
# Syntax trees

A node is a form over parts, with the range of the source it was read from.  A node that a
migration made has no range.

## Main Definitions

* `Node` — syntax trees
* `Node.fold` — the one recursion over trees
* `Node.absent`, `Node.seq`, ... — nodes of the forms that migrations look into, also as patterns
* `Module` — the items of a file

## Design Notes

Every walk over a tree is a `Node.fold`: its step sees the form, the range and each part together
with what the walk gave for that part.  A step that rebuilds its node from the second components
changes the tree; one that keeps a first component leaves that part alone.
-/

namespace RouteMigration

/-- A syntax tree. -/
inductive Node where
  /-- A form over parts, with the range it was read from. -/
  | mk (form : Form) (span : Option Span) (parts : List Node)
deriving Inhabited

namespace Node

/-- The form of the root. -/
def form : Node → Form
  | mk f _ _ => f

/-- The range that the node was read from. -/
def span : Node → Option Span
  | mk _ s _ => s

/-- The parts of the root. -/
def parts : Node → List Node
  | mk _ _ ps => ps

variable {α : Type _}

mutual

/-- Walks a tree from the leaves up: `step` gets the form, the range, and each part with the
result of the walk over it. -/
def fold (step : Form → Option Span → List (Node × α) → α) : Node → α
  | mk f s ps => step f s (foldAll step ps)

/-- The parts of a node, each with the result of the walk over it. -/
def foldAll (step : Form → Option Span → List (Node × α) → α) : List Node → List (Node × α)
  | [] => []
  | p :: ps => (p, fold step p) :: foldAll step ps

end

theorem foldAll_eq_map (step : Form → Option Span → List (Node × α) → α) (ps : List Node) :
    foldAll step ps = ps.map fun p => (p, fold step p) := by
  induction ps with
  | nil => simp [foldAll]
  | cons p ps ih => simp [foldAll, ih]

theorem fold_mk (step : Form → Option Span → List (Node × α) → α) (f : Form) (s : Option Span)
    (ps : List Node) :
    fold step (mk f s ps) = step f s (ps.map fun p => (p, fold step p)) := by
  rw [fold, foldAll_eq_map]

theorem map_fst_walk (walk : Node → α) (ps : List Node) :
    (ps.map fun p => (p, walk p)).map (·.1) = ps := by
  rw [List.map_map]
  exact List.map_id' ps

theorem map_snd_walk (walk : Node → α) (ps : List Node) :
    (ps.map fun p => (p, walk p)).map (·.2) = ps.map walk := by
  rw [List.map_map]
  rfl

/-- A property that passes from the parts of a node to the node holds of every tree. -/
@[elab_as_elim]
theorem induct {motive : Node → Prop}
    (mk : ∀ (f : Form) (s : Option Span) (ps : List Node), (∀ p ∈ ps, motive p) →
      motive (.mk f s ps)) :
    ∀ n, motive n
  | .mk f s ps => mk f s ps fun p _ => induct mk p

/-! ### Nodes that migrations look into -/

/-- A part that is not there. -/
@[match_pattern] abbrev absent : Node := mk .absent none []

/-- A list of parts. -/
@[match_pattern] abbrev seq (ps : List Node) : Node := mk .seq none ps

/-- An identifier whose value is read. -/
@[match_pattern] abbrev ref (s : Option Span) (name : String) : Node := mk (.ref name) s []

/-- A key. -/
@[match_pattern] abbrev word (s : Option Span) (name : String) : Node := mk (.word name) s []

/-- An identifier that names a declaration. -/
@[match_pattern] abbrev ident (s : Option Span) (name : String) : Node := mk (.ident name) s []

/-- A string. -/
@[match_pattern] abbrev str (s : Option Span) (value : String) (raw : Option String) : Node :=
  mk (.str value raw) s []

/-- `(e)` -/
@[match_pattern] abbrev paren (s : Option Span) (e : Node) : Node := mk .paren s [e]

/-- `callee<types>(args)` -/
@[match_pattern] abbrev call (s : Option Span) (callee types : Node) (args : List Node) : Node :=
  mk .call s [callee, types, seq args]

/-- `object.property` -/
@[match_pattern] abbrev member (s : Option Span) (object property : Node) : Node :=
  mk .member s [object, property]

/-- A statement that is an expression. -/
@[match_pattern] abbrev exprStmt (s : Option Span) (e : Node) : Node := mk .exprStmt s [e]

/-- A variable statement. -/
@[match_pattern] abbrev varDecl (s : Option Span) (kind : VarKind) (isDeclare : Bool)
    (declarators : List Node) : Node :=
  mk (.varDecl kind isDeclare) s declarators

/-- One binding of a variable statement. -/
@[match_pattern] abbrev declarator (s : Option Span) (isDefinite : Bool) (pattern value : Node) :
    Node :=
  mk (.declarator isDefinite) s [pattern, value]

/-- The part of a function after its name. -/
@[match_pattern] abbrev function (s : Option Span) (isAsync isGenerator : Bool)
    (types : Node) (params : List Node) (result body : Node) : Node :=
  mk (.function isAsync isGenerator) s [types, seq params, result, body]

/-- A function declaration. -/
@[match_pattern] abbrev functionDecl (s : Option Span) (isDeclare : Bool) (name function : Node) :
    Node :=
  mk (.functionDecl isDeclare) s [name, function]

/-- A function in an expression. -/
@[match_pattern] abbrev functionExpr (s : Option Span) (name function : Node) : Node :=
  mk .functionExpr s [name, function]

/-- An arrow function. -/
@[match_pattern] abbrev arrow (s : Option Span) (isAsync : Bool) (types : Node)
    (params : List Node) (result body : Node) : Node :=
  mk (.arrow isAsync) s [types, seq params, result, body]

/-- An import declaration. -/
@[match_pattern] abbrev importDecl (s : Option Span) (isTypeOnly : Bool) (phase : ImportPhase)
    (specifiers : List Node) (source attributes : Node) : Node :=
  mk (.importDecl isTypeOnly phase) s [seq specifiers, source, attributes]

/-- `export` before a declaration. -/
@[match_pattern] abbrev exportDecl (s : Option Span) (declaration : Node) : Node :=
  mk .exportDecl s [declaration]

/-- `export default` before a declaration. -/
@[match_pattern] abbrev exportDefaultDecl (s : Option Span) (declaration : Node) : Node :=
  mk .exportDefaultDecl s [declaration]

/-- `export default` before an expression. -/
@[match_pattern] abbrev exportDefaultExpr (s : Option Span) (e : Node) : Node :=
  mk .exportDefaultExpr s [e]

/-- An opening tag. -/
@[match_pattern] abbrev opening (s : Option Span) (isSelfClosing : Bool) (name types : Node)
    (attributes : List Node) : Node :=
  mk (.opening isSelfClosing) s [name, types, seq attributes]

/-- An element. -/
@[match_pattern] abbrev element (s : Option Span) (opening : Node) (children : List Node)
    (closing : Node) : Node :=
  mk .element s [opening, seq children, closing]

/-- An attribute. -/
@[match_pattern] abbrev attr (s : Option Span) (name value : Node) : Node :=
  mk .attr s [name, value]

/-- An expression in braces. -/
@[match_pattern] abbrev container (s : Option Span) (e : Node) : Node := mk .container s [e]

end Node

/-- The items of a file. -/
structure Module where
  /-- The range of the whole file. -/
  span : Option Span := none
  /-- The program that runs the file, as its first line names it. -/
  hashbang : Option String := none
  items : List Node
deriving Inhabited

end RouteMigration
