import RouteMigration.Layout.Type
import RouteMigration.Text.Quoted

/-!
# Layout of modules

Every node is laid out from what its parts gave, so a layout is one walk over the tree.

## Main Definitions

* `Layout.body` — the layout of a form, without the comments around it
* `Layout.ofNode` — the layout of a tree
* `Module.print` — the text of a module

## Design Notes

Comments that lead the offset where a node begins go before it, unless it is an element or a part
of one.  Those that trail the offset where it ends are put there by the node around it: after an
expression or a pattern, after a statement other than a block, and after any item of a module.
-/

namespace RouteMigration

namespace Layout

/-! ### Statements -/

/-- A semicolon ends the declaration. -/
def declarationEnd (n : Node) : Layout :=
  match n.form with
  | .varDecl _ _ => text ";"
  | _ => []

/-- A statement, up to the end of its line. -/
def statement (p : Node × Printed) : Layout :=
  match p.1.form with
  | .block => p.2.flatten
  | .absent => []
  | _ => p.2.flatten ++ declarationEnd p.1 ++ trail p.1.span ++ [.line]

/-- An item of a module, up to the end of its line.  A line does not end after a block. -/
def item (p : Node × Printed) : Layout :=
  match p.1.form with
  | .block => closed p
  | _ => statement p

/-- The statements of a list, each on its line. -/
def statements (parts : List (Node × Printed)) : Layout :=
  joined [.line] (parts.map statement)

/-- Statements in braces, on one line if there are none.  Comments before the closing brace stand
on lines of their own. -/
def block (comments : Comments) (span : Option Span) (parts : List (Node × Printed)) : Layout :=
  match span with
  | some s =>
    let closing := s.stop - 1
    if parts.isEmpty && !comments.hasLeading closing then text "\x7b\x7d"
    else text "\x7b" ++ nested (statements parts) ++ .leading closing :: text "\x7d"
  | none =>
    if parts.isEmpty then text "\x7b\x7d"
    else text "\x7b" ++ nested (statements parts) ++ text "\x7d"

/-- The statement at a place, up to the end of its line. -/
def statementAt (parts : List (Node × Printed)) (i : Nat) : Layout :=
  match parts[i]? with
  | some p => statement p
  | none => []

/-- The form of the part at a place. -/
def formAt (parts : List (Node × Printed)) (i : Nat) : Form :=
  match parts[i]? with
  | some (n, _) => n.form
  | none => .absent

/-- A comment before the node ends a line. -/
def isCutOff (comments : Comments) (n : Node) : Bool :=
  match n.span with
  | some s => (comments.takeLeading s.start).1.any Comment.endsLine
  | none => false

/-- The operand of a keyword, in parentheses where a comment would cut it off. -/
def operand (comments : Comments) (parts : List (Node × Printed)) : Layout :=
  match parts with
  | p :: _ =>
    if p.1.form = .absent then []
    else if isCutOff comments p.1 then text "(" ++ closed p ++ text ")"
    else text " " ++ closed p
  | [] => []

/-- The head of a loop: variables, or an expression or a pattern with the comments after it. -/
def loopHead (parts : List (Node × Printed)) : Layout :=
  match formAt parts 0 with
  | .varDecl _ _ => part parts 0
  | _ => closedPart parts 0

/-! ### Functions and classes -/

/-- Parameters in parentheses. -/
def parenthesized (ls : List Layout) : Layout := text "(" ++ commas ls ++ text ")"

/-- What follows the name of a function, from
`[type parameters, parameters, result, body]`. -/
def functionTail (types : Layout) (params : List Layout) (result body : Layout) : Layout :=
  types ++ parenthesized params ++ colon result ++
    (if body.isEmpty then text ";" else text " " ++ body)

/-- The modifiers of a member, in the order they are written. -/
def modifiers (m : Modifiers) : Layout :=
  flag m.isDeclare "declare" ++ flag (m.access != "") m.access ++ flag m.isStatic "static" ++
    flag m.isAbstract "abstract" ++ flag m.isOverride "override" ++ flag m.isReadonly "readonly"

/-- The mark after a key that may be missing. -/
def optionalMark (isOptional : Bool) : Layout := if isOptional then text "?" else []

/-- Whether the function of a node is asynchronous, and whether it is a generator. -/
def functionMarks : Form → Bool × Bool
  | .function isAsync isGenerator => (isAsync, isGenerator)
  | _ => (false, false)

/-- The words before the key of a method. -/
def methodMarks (f : Form) : Layout :=
  let (isAsync, isGenerator) := functionMarks f
  flag isAsync "async" ++ (if isGenerator then text "*" else [])

/-- The words before the name of a function. -/
def functionWords (f : Form) : Layout :=
  let (isAsync, isGenerator) := functionMarks f
  flag isAsync "async" ++ text (if isGenerator then "function*" else "function")

/-- A class is abstract. -/
def isAbstract : Form → Bool
  | .classTail isAbstract => isAbstract
  | _ => false

/-- Members of a class, each on a line. -/
def classBody (ls : List Layout) : Layout := braced ls

/-! ### Expressions -/

/-- A number can be read on as a fraction: it is decimal, with neither a dot nor an exponent. -/
def isWhole (raw : List Char) : Bool :=
  !raw.any (fun c => c == '.' || c == 'e' || c == 'E') &&
    match raw with
    | '0' :: c :: _ => c.isDigit
    | _ => true

/-- The object of a member that is a whole number needs a dot of its own. -/
def extraDot (n : Node) : Layout :=
  match n.form with
  | .num raw => if isWhole raw.toList then text "." else []
  | _ => []

/-- The property of a member: in brackets, or after a dot and the comments before it. -/
def property (key : Node × Printed) : Layout :=
  match key.1.form with
  | .computedName => key.2.flatten
  | _ =>
    (match key.1.span with
      | some s => [.leading (s.start - 1)]
      | none => []) ++ text "." ++ key.2.flatten

/-- The property of a link in a chain. -/
def chainProperty (isOptional : Bool) (key : Node × Printed) : Layout :=
  match key.1.form with
  | .computedName => (if isOptional then text "?." else []) ++ key.2.flatten
  | _ => text (if isOptional then "?." else ".") ++ key.2.flatten

/-- An operator before its operand: words and doubled signs are set off. -/
def unary (op : String) (operand : Node × Printed) : Layout :=
  let needsSpace := match operand.1.form with
    | .unary inner => inner = op && (op = "+" || op = "-")
    | .update inner true => (inner = "++" && op = "+") || (inner = "--" && op = "-")
    | _ => false
  let isWord := op = "typeof" || op = "void" || op = "delete"
  text op ++ (if isWord || needsSpace then text " " else []) ++ closed operand

/-- The body of an arrow function: lines of an expression are indented once more. -/
def arrowBody (body : Node × Printed) : Layout :=
  match body.1.form with
  | .block => body.2.flatten
  | _ => .indent :: closed body ++ [.dedent]

/-- What is called. -/
def callee (p : Node × Printed) : Layout :=
  match p.1.form with
  | .superExpr | .importCallee _ => p.2.flatten
  | _ => closed p

/-- The elements of a list; an empty last place keeps its comma. -/
def elements (parts : List (Node × Printed)) : List Layout :=
  match parts.getLast? with
  | some (.absent, _) => (parts.dropLast.map closed) ++ [text ","]
  | _ => parts.map closed

/-- What stands in the braces of an element, with the comments right after the opening brace. -/
def container (span : Option Span) (inner : Layout) : Layout :=
  text "\x7b" ++
    (match span with
      | some s => [.trailing (s.start + 1)]
      | none => []) ++ inner ++ text "\x7d"

/-! ### Imports and exports -/

/-- Names in braces on one line. -/
def names (ls : List Layout) : Layout := text "\x7b " ++ commas ls ++ text " \x7d"

/-- A specifier stands in the braces of an import. -/
def isNamed (n : Node) : Bool :=
  match n.form with
  | .importNamed _ => true
  | _ => false

/-- What an import binds, up to `from`. -/
def importBindings (parts : List (Node × Printed)) : Layout :=
  let plain := (parts.filter (!isNamed ·.1)).map (·.2.flatten)
  let named := (parts.filter (isNamed ·.1)).map (·.2.flatten)
  let all := plain ++ (if named.isEmpty then [] else [names named])
  if all.isEmpty then [] else commas all ++ text " from "

/-- The source of an export and its attributes, where there are any. -/
def exportSource (source attributes : Layout) : Layout :=
  before " from " source ++ before " with " attributes

/-- What an export lists. -/
def exportBindings (parts : List (Node × Printed)) : Layout :=
  match parts with
  | [(.mk .exportNamespace _ _, ls)] => ls.flatten
  | [] => text "\x7b \x7d"
  | _ => names (parts.map (·.2.flatten))

/-! ### All forms -/

/-- The layout of a form, without the comments around it. -/
def body (comments : Comments) (form : Form) (span : Option Span)
    (parts : List (Node × Printed)) : Layout :=
  let one := part parts
  let shut := closedPart parts
  let all := members parts
  let shutAll := closedMembers parts
  let each := parts.map (·.2.flatten)
  match form with
  | .absent | .seq => []
  | .type t => ofType t parts
  | .ref name | .shorthand name | .tag name | .exported name | .ident name | .word name =>
    text name
  | .binding name isOptional => text name ++ optionalMark isOptional ++ colon (one 0)
  | .privateName name => text ("#" ++ name)
  | .computedName => text "[" ++ shut 0 ++ text "]"
  | .str value raw => text (raw.getD (Text.quoted value))
  | .num raw | .bigInt raw | .regex raw | .quasi _ raw | .text raw => text raw
  | .bool value => text (if value then "true" else "false")
  | .null => text "null"
  | .thisExpr => text "this"
  | .superExpr => text "super"
  | .array => itemized "[" "]" (elements parts)
  | .object => itemized "\x7b" "\x7d" each
  | .spread => text "..." ++ shut 0
  | .functionExpr => functionWords (formAt parts 1) ++ before " " (one 0) ++ one 1
  | .function _ _ => functionTail (one 0) (all 1) (one 2) (one 3)
  | .arrow isAsync =>
    flag isAsync "async" ++ one 0 ++ parenthesized (shutAll 1) ++
      (if (one 2).isEmpty then [] else colon (one 2) ++ text " ") ++ text "=>" ++
      (match parts[3]? with
        | some b => arrowBody b
        | none => [])
  | .classExpr => flag (isAbstract (formAt parts 1)) "abstract" ++ text "class" ++
      before " " (one 0) ++ one 1
  | .classTail _ =>
    one 0 ++ before " extends " (shut 1 ++ one 2) ++ before " implements " (commas (all 3)) ++
      text " " ++ classBody (all 4)
  | .unary op =>
    match parts with
    | p :: _ => unary op p
    | [] => []
  | .update op isBefore => if isBefore then text op ++ shut 0 else shut 0 ++ text op
  | .binary op => shut 0 ++ text (" " ++ op ++ " ") ++ shut 1
  | .assign op => one 0 ++ text (" " ++ op ++ " ") ++ shut 1
  | .member | .memberTarget =>
    match parts with
    | o :: key :: _ =>
      match key.1.form with
      | .computedName => closed o ++ property key
      | _ => closed o ++ extraDot o.1 ++ property key
    | _ => []
  | .superMember =>
    match parts with
    | key :: _ => text "super" ++ property key
    | [] => []
  | .chainMember isOptional =>
    match parts with
    | o :: key :: _ => closed o ++ chainProperty isOptional key
    | _ => []
  | .chainCall isOptional =>
    shut 0 ++ (if isOptional then text "?." else []) ++ parenthesized (shutAll 2)
  | .conditional => shut 0 ++ text " ? " ++ shut 1 ++ text " : " ++ shut 2
  | .call =>
    match parts with
    | f :: _ => callee f ++ one 1 ++ parenthesized (shutAll 2)
    | [] => []
  | .importCallee phase =>
    text (if phase = .evaluation then "import" else "import." ++ phase.text)
  | .newExpr =>
    text "new " ++ shut 0 ++ one 1 ++
      (if formAt parts 2 = .absent then [] else parenthesized (shutAll 2))
  | .sequence => commas (parts.map closed)
  | .template => template parts
  | .tagged => shut 0 ++ one 1 ++ one 2
  | .yieldExpr isDelegate =>
    text (if isDelegate then "yield*" else "yield") ++ operand comments parts
  | .awaitExpr => text "await " ++ shut 0
  | .paren => text "(" ++ shut 0 ++ text ")"
  | .metaProperty t => text t
  | .asType => shut 0 ++ text " as " ++ one 1
  | .satisfies => shut 0 ++ text " satisfies " ++ one 1
  | .asConst => shut 0 ++ text " as const"
  | .nonNull => shut 0 ++ text "!"
  | .cast => text "<" ++ one 0 ++ text ">" ++ shut 1
  | .instantiation => shut 0 ++ one 1
  | .keyValue => one 0 ++ text ": " ++ shut 1
  | .methodProperty => methodMarks (formAt parts 1) ++ one 0 ++ text " " ++ one 1
  | .getter => text "get " ++ one 0 ++ text " ()" ++ colon (one 1) ++ text " " ++ one 2
  | .setter => text "set " ++ one 0 ++ text " " ++ parenthesized (all 1) ++ one 2
  | .assignProperty => one 0 ++ text " = " ++ shut 1
  | .arrayPattern isOptional =>
    text "[" ++ commas (shutAll 0) ++ text "]" ++ optionalMark isOptional ++ colon (one 1)
  | .objectPattern isOptional =>
    (if (all 0).isEmpty then text "\x7b\x7d" else names (all 0)) ++ optionalMark isOptional ++
      colon (one 1)
  | .assignPattern => shut 0 ++ text " = " ++ shut 1
  | .restPattern => text "..." ++ shut 0 ++ colon (one 1)
  | .keyValuePattern => one 0 ++ text ": " ++ shut 1
  | .bindingProperty => one 0 ++ before " = " (shut 1)
  | .param => shut 0
  | .paramProperty m => modifiers m ++ one 0
  | .constructorMethod m =>
    modifiers m ++ text "constructor" ++ parenthesized (all 0) ++
      (if (one 1).isEmpty then text ";" else one 1)
  | .classMethod kind m =>
    modifiers m ++ methodMarks (formAt parts 1) ++ accessorWord kind ++ one 0 ++
      optionalMark m.isOptional ++ one 1
  | .classField m =>
    modifiers m ++ one 0 ++ optionalMark m.isOptional ++
      (if m.isDefinite then text "!" else []) ++ colon (one 1) ++ before " = " (shut 2) ++
      text ";"
  | .accessor m =>
    modifiers m ++ text "accessor " ++ one 0 ++ colon (one 1) ++ before " = " (shut 2) ++
      text ";"
  | .staticBlock => text "static" ++ one 0
  | .emptyMember => text ";"
  | .block => block comments span parts
  | .emptyStmt => text ";"
  | .debuggerStmt => text "debugger;"
  | .exprStmt => one 0 ++ text ";"
  | .returnStmt => text "return" ++ operand comments parts ++ text ";"
  | .labeledStmt => one 0 ++ text ": " ++ statementAt parts 1
  | .breakStmt => text "break" ++ before " " (one 0) ++ text ";"
  | .continueStmt => text "continue" ++ before " " (one 0) ++ text ";"
  | .ifStmt =>
    text "if (" ++ shut 0 ++ text ") " ++ statementAt parts 1 ++
      (if formAt parts 2 = .absent then []
        else (if formAt parts 1 = .block then text " " else []) ++ text "else " ++
          statementAt parts 2)
  | .switchStmt => text "switch(" ++ shut 0 ++ text ")\x7b" ++ nested (joined [.line] (all 1)) ++
      text "\x7d"
  | .caseClause =>
    (if formAt parts 0 = .absent then text "default:" else text "case " ++ shut 0 ++ text ":") ++
      (if (all 1).isEmpty then [] else nested (statements (listed parts 1)))
  | .throwStmt => text "throw" ++ operand comments parts ++ text ";"
  | .tryStmt =>
    text "try " ++ one 0 ++ before " " (one 1) ++
      (if (one 2).isEmpty then [] else text " finally" ++ one 2)
  | .catchClause =>
    text "catch " ++ (if (one 0).isEmpty then [] else text "(" ++ shut 0 ++ text ")") ++
      text " " ++ one 1
  | .whileStmt => text "while(" ++ shut 0 ++ text ")" ++ statementAt parts 1
  | .doWhileStmt => text "do " ++ statementAt parts 0 ++ text "while (" ++ shut 1 ++ text ")"
  | .forStmt =>
    text "for(" ++ loopHead parts ++ text ";" ++ before " " (shut 1) ++ text ";" ++
      before " " (shut 2) ++ text ")" ++ statementAt parts 3
  | .forInStmt =>
    text "for(" ++ loopHead parts ++ text " in " ++ shut 1 ++ text ")" ++ statementAt parts 2
  | .forOfStmt isAwait =>
    text (if isAwait then "for await (" else "for (") ++ loopHead parts ++ text " of " ++
      shut 1 ++ text ")" ++ statementAt parts 2
  | .varDecl kind isDeclare =>
    flag isDeclare "declare" ++ text (kind.text ++ " ") ++ commas each
  | .declarator _ => shut 0 ++ before " = " (shut 1)
  | .functionDecl isDeclare =>
    flag isDeclare "declare" ++ functionWords (formAt parts 1) ++ text " " ++ one 0 ++ one 1
  | .classDecl isDeclare =>
    flag isDeclare "declare" ++ flag (isAbstract (formAt parts 1)) "abstract" ++ text "class " ++
      one 0 ++ one 1
  | .enumDecl isDeclare isConst =>
    flag isDeclare "declare" ++ flag isConst "const" ++ text "enum " ++ one 0 ++ text " \x7b" ++
      nested (joined [.text ",", .line] (all 1)) ++ text "\x7d"
  | .enumMember => one 0 ++ before " = " (shut 1)
  | .moduleDecl word isDeclare =>
    flag isDeclare "declare" ++ flag (word != "") word ++ one 0 ++
      (match formAt parts 1 with
        | .absent => []
        | .namespaceBody => text "." ++ one 1
        | _ => text " " ++ one 1)
  | .namespaceBody =>
    one 0 ++ (match formAt parts 1 with
      | .namespaceBody => text "." ++ one 1
      | _ => text " " ++ one 1)
  | .moduleBlock => text "\x7b" ++ nested (joined [.line] (parts.map item)) ++ text "\x7d"
  | .importDecl isTypeOnly phase =>
    text "import " ++ flag isTypeOnly "type" ++ flag (phase != .evaluation) phase.text ++
      importBindings (listed parts 0) ++ one 1 ++ before " with " (one 2) ++ text ";"
  | .importNamed isTypeOnly =>
    flag isTypeOnly "type" ++
      (if (one 0).isEmpty then one 1 else one 0 ++ text " as " ++ one 1)
  | .importDefault => one 0
  | .importNamespace => text "* as " ++ one 0
  | .exportDecl =>
    match parts with
    | (n, ls) :: _ => text "export " ++ ls.flatten ++ declarationEnd n
    | [] => []
  | .exportNamed isTypeOnly =>
    text "export " ++ flag isTypeOnly "type" ++ exportBindings (listed parts 0) ++
      exportSource (one 1) (one 2) ++ text ";"
  | .exportSpecifier isTypeOnly => flag isTypeOnly "type" ++ one 0 ++ before " as " (one 1)
  | .exportNamespace => text "* as " ++ one 0
  | .exportDefaultDecl => text "export default " ++ one 0
  | .exportDefaultExpr => text "export default " ++ shut 0 ++ text ";"
  | .exportAll isTypeOnly =>
    text "export " ++ flag isTypeOnly "type" ++ text "*" ++ exportSource (one 0) (one 1) ++
      text ";"
  | .exportAssign => text "export = " ++ shut 0
  | .element => one 0 ++ (all 1).flatten ++ one 2
  | .opening isSelfClosing =>
    text "<" ++ one 0 ++ one 1 ++ ((all 2).map (before " ")).flatten ++
      text (if isSelfClosing then "/>" else ">")
  | .closing => text "</" ++ one 0 ++ text ">"
  | .fragment => text "<>" ++ each.flatten ++ text "</>"
  | .tagMember => one 0 ++ text "." ++ one 1
  | .namespacedName => one 0 ++ text ":" ++ one 1
  | .attr => one 0 ++ before "=" (one 1)
  | .spreadAttr => text "\x7b" ++ one 0 ++ text "\x7d"
  | .spreadChild => text "\x7b..." ++ shut 0 ++ text "\x7d"
  | .container => container span (shut 0)
  | .emptyExpr => []

/-- Comments that lead a node of this form are not printed. -/
def isBare : Form → Bool
  | .element | .opening _ | .closing | .fragment | .attr | .namespacedName | .tagMember
  | .spreadAttr => true
  | _ => false

/-- One step of the walk: the members of a list one by one, and any other node with the comments
before it. -/
def step (comments : Comments) (form : Form) (span : Option Span)
    (parts : List (Node × Printed)) : Printed :=
  match form with
  | .absent => []
  | .seq => parts.map (·.2.flatten)
  | _ => [(if isBare form then [] else lead span) ++ body comments form span parts]

/-- The layout of a tree. -/
def ofNode (comments : Comments) (n : Node) : Layout :=
  (Node.fold (step comments) n).flatten

/-- The layout of an item, up to the end of its line. -/
def ofItem (comments : Comments) (n : Node) : Layout :=
  item (n, [ofNode comments n])

end Layout

namespace Module

/-- The line that names a program to run the module. -/
def firstLine (m : Module) : Layout :=
  match m.hashbang with
  | some line => [.text ("#!" ++ line), .line]
  | none => []

/-- The layout of a module: the comments before its first token, and its items. -/
def layout (comments : Comments) (m : Module) : Layout :=
  Layout.lead m.span ++ m.firstLine ++ (m.items.map (Layout.ofItem comments)).flatten ++
    Layout.trail m.span

/-- The text of a module, with the comments of its source. -/
def print (comments : Comments) (m : Module) : String :=
  render comments (m.layout comments)

end Module

end RouteMigration
