import RouteMigration.Layout.Piece
import RouteMigration.Tree.Node

/-!
# Layout of types

## Main Definitions

* `Printed` — what a walk over a tree gives for each node
* `Layout.closed` — a node with the comments after it
* `Layout.ofType` — the layout of a form that describes a type, from those of its parts
-/

namespace RouteMigration

/-- What a walk gives for a node: one layout for each member of a list, and a single one for
every other node. -/
abbrev Printed := List Layout

namespace Layout

/-- The modifier of a mapped type, before its word. -/
def mappedSign : MappedModifier → String → Layout
  | .none, _ => []
  | .plain, word => text word
  | .plus, word => text ("+" ++ word)
  | .minus, word => text ("-" ++ word)

/-- A layout after a colon, if it is there. -/
def colon (l : Layout) : Layout := before ": " l

/-- Members of an object type, each on a line. -/
def typeBody (members : List Layout) : Layout :=
  braced (members.map (· ++ text ";"))

/-- The kind of an accessor, before its key. -/
def accessorWord : MethodKind → Layout
  | .method => []
  | .getter => text "get "
  | .setter => text "set "

/-- The layout of the part at a place; nothing where there is no such part. -/
def part (parts : List (Node × Printed)) (i : Nat) : Layout :=
  ((parts.map (·.2)).getD i []).flatten

/-- The layouts of the members of the list at a place. -/
def members (parts : List (Node × Printed)) (i : Nat) : List Layout :=
  (parts.map (·.2)).getD i []

/-! ### Comments around nodes -/

/-- The comments before a node. -/
def lead (span : Option Span) : Layout :=
  match span with
  | some s => [.leading s.start]
  | none => []

/-- The comments after a node. -/
def trail (span : Option Span) : Layout :=
  match span with
  | some s => [.trailing s.stop]
  | none => []

/-- A node with the comments after it. -/
def closed (p : Node × Printed) : Layout := p.2.flatten ++ trail p.1.span

/-- The part at a place with the comments after it; nothing where there is no such part. -/
def closedPart (parts : List (Node × Printed)) (i : Nat) : Layout :=
  match parts[i]? with
  | some p => closed p
  | none => []

/-- Members of a node that is a list, each with what the walk gave for it. -/
def listed (parts : List (Node × Printed)) (i : Nat) : List (Node × Printed) :=
  match parts[i]? with
  | some (n, ls) => n.parts.zip (ls.map fun l => [l])
  | none => []

/-- The members of the list at a place, each with the comments after it. -/
def closedMembers (parts : List (Node × Printed)) (i : Nat) : List Layout :=
  (listed parts i).map closed

/-! ### Templates -/

/-- A stretch of a template stands for itself, and all else stands in a hole. -/
def templatePart (p : Node × Printed) : Layout :=
  match p.1.form with
  | .quasi _ _ => p.2.flatten
  | .type _ => text "$\x7b" ++ p.2.flatten ++ text "\x7d"
  | _ => text "$\x7b" ++ closed p ++ text "\x7d"

/-- A template, from its texts and holes. -/
def template (parts : List (Node × Printed)) : Layout :=
  text "`" ++ (parts.map templatePart).flatten ++ text "`"

/-- The layout of a form that describes a type, from what its parts gave. -/
def ofType (form : TypeForm) (parts : List (Node × Printed)) : Layout :=
  let one := part parts
  let shut := closedPart parts
  let all := members parts
  let each := parts.map (·.2.flatten)
  match form with
  | .keyword word => text word
  | .ascription => one 0
  | .reference => one 0 ++ one 1
  | .qualified => one 0 ++ text "." ++ one 1
  | .query => text "typeof " ++ one 0 ++ one 1
  | .importType =>
    text "import(" ++ one 0 ++ before ", " (one 1) ++ text ")" ++ before "." (one 2) ++ one 3
  | .literal => one 0
  | .templateType => template parts
  | .array => one 0 ++ text "[]"
  | .tuple => text "[" ++ commas each ++ text "]"
  | .tupleElement => if (one 0).isEmpty then one 1 else shut 0 ++ colon (one 1)
  | .optional => one 0 ++ text "?"
  | .rest => text "..." ++ one 0
  | .union => joined (text " | ") each
  | .intersection => joined (text " & ") each
  | .conditional =>
    one 0 ++ text " extends " ++ one 1 ++ text " ? " ++ one 2 ++ text " : " ++ one 3
  | .infer => text "infer " ++ one 0
  | .paren => text "(" ++ one 0 ++ text ")"
  | .operator word => text (word ++ " ") ++ one 0
  | .indexed => one 0 ++ text "[" ++ one 1 ++ text "]"
  | .mapped isReadonly isOptional =>
    text "\x7b" ++ nested (mappedSign isReadonly "readonly " ++ text "[" ++ one 0 ++
      text " in " ++ one 1 ++ before " as " (one 2) ++ text "]" ++ mappedSign isOptional "?" ++
      colon (one 3) ++ text ";") ++ text "\x7d"
  | .function => one 0 ++ text "(" ++ commas (all 1) ++ text ") => " ++ one 2
  | .constructorType isAbstract =>
    flag isAbstract "abstract" ++ text "new" ++ before " " (one 0) ++ text "(" ++
      commas (all 1) ++ text ") => " ++ one 2
  | .predicate asserts => flag asserts "asserts" ++ one 0 ++ before " is " (one 1)
  | .object => typeBody each
  | .property isReadonly _ isOptional =>
    flag isReadonly "readonly" ++ shut 0 ++ (if isOptional then text "?" else []) ++ colon (one 1)
  | .method kind _ isOptional =>
    accessorWord kind ++ shut 0 ++ (if isOptional then text "?" else []) ++ one 1 ++ text "(" ++
      commas (all 2) ++ text ")" ++ colon (one 3)
  | .callSignature =>
    one 0 ++ text "(" ++ commas (all 1) ++ text ")" ++ before " : " (one 2)
  | .constructSignature =>
    text "new" ++ before " " (one 0) ++ text "(" ++ commas (all 1) ++ text ")" ++ colon (one 2)
  | .indexSignature isReadonly =>
    flag isReadonly "readonly" ++ text "[" ++ commas (all 0) ++ text "]" ++ colon (one 1)
  | .parameters => text "<" ++ commas each ++ text ">"
  | .parameter isConst isIn isOut =>
    flag isConst "const" ++ flag isIn "in" ++ flag isOut "out" ++ one 0 ++
      before " extends " (one 1) ++ before " = " (one 2)
  | .arguments => text "<" ++ commas each ++ text ">"
  | .heritage => shut 0 ++ one 1
  | .interface isDeclare =>
    flag isDeclare "declare" ++ text "interface " ++ one 0 ++ one 1 ++
      before " extends " (commas (all 2)) ++ text " " ++ one 3
  | .synonym isDeclare =>
    flag isDeclare "declare" ++ text "type " ++ one 0 ++ one 1 ++ text " = " ++ one 2 ++ text ";"
  | .importEquals isExport isTypeOnly =>
    flag isExport "export" ++ text "import " ++ flag isTypeOnly "type" ++ one 0 ++ text " = " ++
      one 1 ++ text ";"
  | .externalModule => text "require(" ++ one 0 ++ text ")"
  | .namespaceExport => text "export as namespace " ++ one 0 ++ text ";"

end Layout

end RouteMigration
