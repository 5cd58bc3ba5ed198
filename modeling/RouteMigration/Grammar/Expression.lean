import RouteMigration.Grammar.Class
import RouteMigration.Grammar.Element

/-!
# Expressions

## Main Definitions

* `Grammar.expression`, `Grammar.assignment` — with and without commas
* `Grammar.binary`, `Grammar.unary` — operators
* `Grammar.leftSide` — an operand with its members and calls
* `Grammar.primary` — operands

## Design Notes

Parentheses begin either a nested expression or the parameters of an arrow function.  The latter
is tried first, up to its arrow; a fault in the body of an arrow function is therefore final.
-/

namespace RouteMigration.Grammar

open Parse

variable (rec : Goal → Parse Node)

/-- Reads an expression of which `in` is no end. -/
def insideBrackets (g : Goal) : Parse Node :=
  within (fun c => { c with noIn := false, inBranch := false }) (rec g)

/-- No expression starts here. -/
def noExpression {α : Type} : Parse α := do
  if ← isAtEnd then failHere .endOfText else failHere .expressionExpected

/-! ### Parameters of arrow functions -/

/-- A pattern without the empty places at the ends of its lists. -/
def withoutTrailingHoles : Node → Node :=
  Node.fold fun form span parts =>
    match form, parts with
    | .arrayPattern o, [(_, .mk .seq _ ps), (type, _)] =>
      .mk (.arrayPattern o) span [.seq (withoutHoles ps), type]
    | .objectPattern o, [(_, ps), (type, _)] => .mk (.objectPattern o) span [ps, type]
    | .seq, _ => .mk .seq span (parts.map (·.2))
    | .assignPattern, [(_, p), (value, _)] => .mk .assignPattern span [p, value]
    | .keyValuePattern, [(key, _), (_, p)] => .mk .keyValuePattern span [key, p]
    | .restPattern, [(_, p), (type, _)] => .mk .restPattern span [p, type]
    | _, _ => .mk form span (parts.map (·.1))

/-- The names that a pattern binds, each with its range and whether it is also a key. -/
def boundNames : Node → List (String × Span × Bool) :=
  Node.fold fun form span parts =>
    match form, parts with
    | .binding name _, _ => [(name, span.getD .empty, false)]
    | .bindingProperty, (_, names) :: _ => names.map fun (name, s, _) => (name, s, true)
    | .keyValuePattern, [_, (_, names)] => names
    | .assignPattern, (_, names) :: _ | .restPattern, (_, names) :: _
    | .arrayPattern _, (_, names) :: _ | .objectPattern _, (_, names) :: _ => names
    | .seq, _ => parts.flatMap (·.2)
    | _, _ => []

/-- A parameter of an arrow function that takes all arguments that are left. -/
def arrowRestParameter : Parse Node := do
  let start ← position
  expect "..."
  let p ← rec .pattern
  if (← hasTypes) && (← isAt "?") then
    noteHere .optionalRest
    expect "?"
  let type ← ascription rec
  node .restPattern start [p, type]

/-- A parameter of an arrow function.  Only a name can be marked optional. -/
def arrowParameter : Parse Node := do
  if ← isAt "..." then arrowRestParameter rec
  else
    let isMember ← eatMemberWord
    let start ← position
    let p ← rec .pattern
    let isOptional ← if ← hasTypes then eat "?" else pure false
    if isOptional && !areSimple [p] then failAt .misplaced (p.span.getD .empty)
    let p ← ascribed rec (if isOptional then markOptional p else p)
    let p ← if ← eat "=" then do
        let value ← insideBrackets rec .assignment
        node .assignPattern start [p, value]
      else pure p
    if isMember then note .memberParameter (p.span.getD .empty)
    return withoutTrailingHoles p

/-- Refuses names that the parameters of an arrow function cannot have. -/
def checkArrowNames (params : List Node) : Parse Unit := do
  for (name, span, isKey) in params.flatMap boundNames do
    if name = "this" then failAt .misplaced span
    if isUnbindable name || (isKey && TokenKind.isReserved name) then
      note (.reservedWord name) span

/-! ### Arrow functions -/

/-- The body of an arrow function: statements in braces, or an expression. -/
def arrowBody (isAsync : Bool) (params : List Node) : Parse Node := do
  if ← isAt "\x7b" then bodyOf rec (arrowContext isAsync) params
  else
    within (fun c => { arrowContext isAsync c with noIn := c.noIn, inBranch := c.inBranch })
      (rec .assignment)

/-- What stands before the body of an arrow function with parentheses, arrow included: parameters
and result. -/
def arrowHead : Parse (List Node × Node) := do
  let params ← parametersOf (arrowParameter rec)
  checkArrowNames params
  let res ← result rec
  if ← isOnNewLine then failHere .arrowLineBreak
  expect "=>"
  return (params, res)

/-- An arrow function with parentheses that starts at `start`. -/
def parenArrow? (start : Nat) (isAsync : Bool) : Parse (Option Node) := do
  match ← attempt (arrowHead rec) with
  | none => return none
  | some (params, res) =>
    let body ← arrowBody rec isAsync params
    return some (← node (.arrow isAsync) start [.absent, .seq params, res, body])

/-- An arrow function with parentheses between `?` and `:`, where the colon after its parameters
may be that of the conditional expression. -/
def branchArrow? (start : Nat) (isAsync : Bool) : Parse (Option Node) := fun c =>
  match parenArrow? rec start isAsync c with
  | .ok (some n, after) =>
    match n with
    | .arrow _ _ _ _ .absent _ => .ok (some n, after)
    | _ =>
      if after.token.kind = .punct ":" then .ok (some n, { after with faults := c.faults })
      else .ok (none, c)
  | .ok (none, _) => .ok (none, c)
  | .error e =>
    match attempt (arrowHead rec) c with
    | .ok (some (_, .absent), _) => .error e
    | _ => .ok (none, c)

/-- An arrow function with one name before the arrow. -/
def nameArrow? (start : Nat) (isAsync : Bool) : Parse (Option Node) := do
  let isArrow ← ahead do
    let _ ← identText
    return (← isAt "=>") && !(← isOnNewLine)
  if !isArrow then return none
  let nameStart ← position
  let name ← boundText
  let param ← node (.binding name false) nameStart [.absent]
  expect "=>"
  let body ← arrowBody rec isAsync [param]
  return some (← node (.arrow isAsync) start [.absent, .seq [param], .absent, body])

/-- An asynchronous arrow function with type parameters, after `async`. -/
def asyncGenericArrow (start : Nat) : Parse Node := do
  let types ← typeParameters rec { hasConst := false }
  let params ← parameters rec
  let res ← result rec
  expect "=>"
  let body ← arrowBody rec true params
  node (.arrow true) start [types, .seq params, res, body]

/-- An asynchronous arrow function, where one starts. -/
def asyncArrow? (start : Nat) : Parse (Option Node) := fun c =>
  let whole : Parse (Option Node) := do
    expectWord "async"
    if ← isOnNewLine then return none
    match ← nameArrow? rec start true with
    | some n => return some n
    | none =>
      if ← isAt "(" then
        if (← get).context.inBranch && (← hasTypes) then branchArrow? rec start true
        else parenArrow? rec start true
      else if (← hasTypes) && (← isAt "<") then
        leniently (attempt (asyncGenericArrow rec start))
      else return none
  match whole c with
  | .ok (none, _) => .ok (none, c)
  | r => r

/-- An arrow function without type parameters, where one starts. -/
def arrow? : Parse (Option Node) := do
  let start ← position
  match ← nameArrow? rec start false with
  | some n => return some n
  | none =>
    if ← isAt "(" then
      if (← get).context.inBranch && (← hasTypes) then branchArrow? rec start false
      else parenArrow? rec start false
    else if ← isWord "async" then asyncArrow? rec start
    else return none

/-- An arrow function with type parameters. -/
def genericArrow : Parse Node := do
  let start ← position
  let types ← typeParameters rec {}
  match ← arrow? rec with
  | some (.mk (.arrow isAsync) _ (_ :: parts)) => node (.arrow isAsync) start (types :: parts)
  | _ => failHere .misplaced

/-! ### Objects and lists -/

/-- An argument or element, perhaps spread. -/
def spreadable : Parse Node := do
  let start ← position
  if ← eat "..." then
    let e ← insideBrackets rec .assignment
    node .spread start [e]
  else insideBrackets rec .assignment

/-- One place of a list, which may be empty. -/
def arrayElement : Parse Node := do
  if ← isAt "," then return .absent else spreadable rec

/-- Remembers a list or an object that ends in a spread element and a comma. -/
def markSpreadComma (start : Nat) (found : List Node) (endsInComma : Bool) : Parse Unit := do
  if endsInComma && (found.getLast?.map isSpread).getD false then
    modify fun c => { c with spreadCommas := start :: c.spreadCommas }

/-- A list. -/
def arrayLiteral : Parse Node := do
  let start ← position
  expect "["
  let (elements, endsInComma) ← listWithComma "]" (arrayElement rec)
  markSpreadComma start elements endsInComma
  node .array start elements

/-- The function of a property. -/
def propertyFunction (start : Nat) (isAsync isGenerator : Bool) (list : Parse (List Node)) :
    Parse Node :=
  within (fun c => { c with hasSuper := true }) (functionTail rec start isAsync isGenerator list)

/-- A property that is a method, after its key. -/
def methodProperty (start : Nat) (isAsync isGenerator : Bool) (key : Node) : Parse Node := do
  let f ← propertyFunction rec start isAsync isGenerator (parameters rec)
  node .methodProperty start [key, f]

/-- A property that is read through a function. -/
def getterProperty (start : Nat) : Parse Node := do
  let key ← propertyKey rec
  match ← propertyFunction rec start false false (getterParameters rec) with
  | .function _ _ _ _ _ res body => node .getter start [key, res, body]
  | _ => failHere .misplaced

/-- A property that is written through a function. -/
def setterProperty (start : Nat) : Parse Node := do
  let key ← propertyKey rec
  match ← propertyFunction rec start false false (setterParameters rec) with
  | .function _ _ _ _ params _ body => node .setter start [key, .seq (params.take 2), body]
  | _ => failHere .misplaced

/-- A property that its key alone names, after that key: the key is also a name. -/
def shorthandProperty (start : Nat) (key : Node) (text : String) : Parse Node := do
  if TokenKind.isReserved text then note (.reservedWord text) (key.span.getD .empty)
  if ← eat "=" then
    let value ← insideBrackets rec .assignment
    node .assignProperty start [key, value]
  else return .mk (.shorthand text) key.span []

/-- A property after its key, which is the given word. -/
def propertyAfterWord (start : Nat) (key : Node) (text : String) : Parse Node := do
  if (← hasTypes) && (← isAt "?") then
    noteHere .misplaced
    expect "?"
  if (← isAt "=") || (← isAt ",") || (← isAt "\x7d") then shorthandProperty rec start key text
  else match text with
    | "get" => getterProperty rec start
    | "set" => setterProperty rec start
    | "async" =>
      let isGenerator ← eat "*"
      let key ← propertyKey rec
      methodProperty rec start true isGenerator key
    | _ => failHere (.unexpected (← peek).kind.describe
        "... , *,  (, [, :, , ?, =, an identifier, public, protected, private, readonly, <.")

/-- One property of an object. -/
def property : Parse Node := do
  let start ← position
  if ← eat "..." then
    let e ← insideBrackets rec .assignment
    node .spread start [e]
  else if ← eat "*" then
    let key ← propertyKey rec
    methodProperty rec start false true key
  else
    let _ ← eatMemberWord
    let key ← propertyKey rec
    if ← eat ":" then
      let value ← insideBrackets rec .assignment
      node .keyValue start [key, value]
    else if ← isMethodNext then methodProperty rec start false false key
    else match key.form with
      | .word text => propertyAfterWord rec start key text
      | _ => failHere (.expected ":" (← peek).kind.describe)

/-- An object. -/
def objectLiteral : Parse Node := do
  let start ← position
  expect "\x7b"
  let (properties, endsInComma) ← listWithComma "\x7d" (property rec)
  markSpreadComma start properties endsInComma
  node .object start properties

/-! ### Operands -/

/-- A function without its name being needed, after `async` if it is asynchronous. -/
def functionWithName (start : Nat) (isAsync : Bool) : Parse Node := do
  expectWord "function"
  let isGenerator ← eat "*"
  let name ← if ← isIdent then ident else pure .absent
  let f ← functionTail rec start isAsync isGenerator (parameters rec)
  node .functionExpr start [name, f]

/-- A function in an expression, which has a body. -/
def functionExpression (start : Nat) (isAsync : Bool) : Parse Node := do
  let n ← functionWithName rec start isAsync
  if (n.parts.getLast?.map hasBody).getD false then return n
  else failAt .bodyExpected (n.span.getD .empty)

/-- A class in an expression. -/
def classExpression (start : Nat) (isAbstract : Bool) : Parse Node := do
  expectWord "class"
  let name ← if ← isIdent then ident else pure .absent
  checkTypeName name
  let c ← classTail rec start isAbstract
  node .classExpr start [name, c]

/-- A regular expression, where a slash starts an operand. -/
def regexLiteral : Parse Node := do
  let c ← get
  let start := c.token.span.start
  match Lexer.regex c.here with
  | some (text, hasGoodFlags, rest) =>
    let stop := start + Lexer.byteLength text
    if !hasGoodFlags then note .regexFlags ⟨start, stop⟩
    modify fun c => c.take (.regex (String.ofList text)) stop rest
    node (.regex (String.ofList text)) start []
  | none => failAt .unterminatedRegex ⟨start, c.size⟩

/-- `import` in an expression: a call, or `import.meta`. -/
def importExpression : Parse Node := do
  let start ← position
  expectWord "import"
  let callee (phase : ImportPhase) : Parse Node := do
    if ← isAt "(" then node (.importCallee phase) start []
    else failHere (.expected "(" (← peek).kind.describe)
  if ← eat "." then
    if ← eatWord "meta" then node (.metaProperty "import.meta") start []
    else if ← eatWord "source" then callee .source
    else if ← eatWord "defer" then callee .deferred
    else failHere (.unexpected (← peek).kind.describe "meta")
  else callee .evaluation

/-- The key after a dot. -/
def dotKey : Parse Node := do
  let start ← position
  match (← peek).kind with
  | .privateName text =>
    let _ ← advance
    node (.privateName text) start []
  | .name text =>
    let _ ← advance
    node (.word text) start []
  | _ => failHere .identExpected

/-- The key in brackets. -/
def bracketKey : Parse Node := do
  let start ← position
  expect "["
  let e ← insideBrackets rec .expression
  expect "]"
  node .computedName start [e]

/-- `super` in an expression: a call or a member. -/
def superExpression : Parse Node := do
  let start ← position
  if !(← hasTypes) && !(← get).context.hasSuper then failHere .misplaced
  expectWord "super"
  if ← eat "." then
    let key ← dotKey
    node .superMember start [key]
  else if ← isAt "[" then
    let key ← bracketKey rec
    node .superMember start [key]
  else if ← isAt "(" then node .superExpr start []
  else failHere (.expected "(" (← peek).kind.describe)

/-- The arguments of a call. -/
def arguments : Parse (List Node) := do
  expect "("
  listUntil ")" (spreadable rec)

/-- Types given before a parenthesis, if there are any. -/
def callTypes : Parse Node := do
  if !(← hasTypes) || !(← isAtAngle) then return .absent
  let types ← leniently <| attempt do
    let types ← typeArguments rec
    if !(← isAt "(") then failHere .misplaced
    return types
  return types.getD .absent

/-- `new` with what it applies to, or `new.target`. -/
def newExpression : Parse Node := do
  let start ← position
  expectWord "new"
  if ← eat "." then
    expectWord "target"
    let n ← node (.metaProperty "new.target") start []
    if !(← get).context.hasTarget then note .newTargetOutside (n.span.getD .empty)
    return n
  else
    let callee ← rec .callee
    let types ← callTypes rec
    let args ← if ← isAt "(" then pure (.seq (← arguments rec)) else pure .absent
    node .newExpr start [callee, types, args]

/-- A literal of the given form. -/
def literal (form : Form) : Parse Node := do
  let start ← position
  let _ ← advance
  node form start []

/-- An identifier whose value is read. -/
def reference : Parse Node := do
  let start ← position
  let text ← identText
  node (.ref text) start []

/-- An operand that starts with the given word. -/
def wordPrimary (text : String) : Parse Node := do
  let start ← position
  match text with
  | "this" => literal .thisExpr
  | "null" => literal .null
  | "true" => literal (.bool true)
  | "false" => literal (.bool false)
  | "function" => functionExpression rec start false
  | "class" => classExpression rec start false
  | "new" => newExpression rec
  | "import" => importExpression
  | "super" => superExpression rec
  | "async" =>
    if ← isWordBefore "async" (isWord "function") then
      let _ ← advance
      functionExpression rec start true
    else reference
  | _ => if TokenKind.keywords.contains text then failHere .expressionExpected else reference

/-- An operand. -/
def primary : Parse Node := do
  let start ← position
  match (← peek).kind with
  | .num raw => literal (.num raw)
  | .bigInt raw => literal (.bigInt raw)
  | .str value raw => literal (.str value (some raw))
  | .privateName text => literal (.privateName text)
  | .backquote => template (insideBrackets rec .expression) false
  | .punct "(" =>
    let _ ← advance
    let e ← insideBrackets rec .expression
    expect ")"
    node .paren start [e]
  | .punct "[" => arrayLiteral rec
  | .punct "\x7b" => objectLiteral rec
  | .punct "/" | .punct "/=" => regexLiteral
  | .punct "<" => if (← get).dialect.hasElements then rec .element else noExpression
  | .name text => wordPrimary rec text
  | _ => noExpression

/-! ### Members and calls -/

/-- Types may be given to an expression here: what follows them is no operand. -/
def endsTypeArguments : Parse Bool := do
  match (← peek).kind with
  | .punct "(" | .backquote => return true
  | .punct t =>
    return (← isOnNewLine) ||
      !(["<", ">", "+", "-", "[", "\x7b", "/", "/=", "!", "~", "++", "--"].contains t)
  | .name text =>
    return (← isOnNewLine) || ["in", "instanceof", "as", "satisfies"].contains text
  | .endOfText => return true
  | _ => isOnNewLine

/-- One more member or call after `?.`. -/
def optionalLink (start : Nat) (e : Node) : Parse Node := do
  expect "?."
  if ← isAt "(" then
    let args ← arguments rec
    node (.chainCall true) start [e, .absent, .seq args]
  else if ← isAt "[" then
    let key ← bracketKey rec
    node (.chainMember true) start [e, key]
  else if (← peek).kind = .backquote then failHere .optionalTemplate
  else
    let types ← callTypes rec
    if isAbsent types then
      let key ← dotKey
      node (.chainMember true) start [e, key]
    else
      let args ← arguments rec
      node (.chainCall true) start [e, types, .seq args]

/-- Types given to an expression, with the call or template after them. -/
def typedLink? (start : Nat) (e : Node) (inChain : Bool) : Parse (Option Node) := do
  if !(← hasTypes) || !(← isAtAngle) then return none
  let types ← leniently <| attempt do
    let types ← typeArguments rec
    if !(← endsTypeArguments) then failHere .misplaced
    return types
  match types with
  | none => return none
  | some types =>
    if ← isAt "(" then
      let args ← arguments rec
      if inChain then return some (← node (.chainCall false) start [e, types, .seq args])
      else return some (← node .call start [e, types, .seq args])
    else if (← peek).kind = .backquote then
      let t ← template (insideBrackets rec .expression) true
      return some (← node .tagged start [e, types, t])
    else return some (← node .instantiation start [e, types])

/-- One more member or call.  Once a chain has had a `?.`, all that follows belongs to it. -/
def link (start : Nat) (state : Node × Bool) : Parse (Option (Node × Bool)) := do
  let (e, inChain) := state
  match (← peek).kind with
  | .punct "." =>
    let _ ← advance
    let key ← dotKey
    let form := if inChain then Form.chainMember false else .member
    return some (← node form start [e, key], inChain)
  | .punct "[" =>
    let key ← bracketKey rec
    let form := if inChain then Form.chainMember false else .member
    return some (← node form start [e, key], inChain)
  | .punct "(" =>
    let args ← arguments rec
    let form := if inChain then Form.chainCall false else .call
    return some (← node form start [e, .absent, .seq args], inChain)
  | .punct "?." => return some (← optionalLink rec start e, true)
  | .backquote =>
    if inChain then failHere .optionalTemplate
    let t ← template (insideBrackets rec .expression) true
    return some (← node .tagged start [e, .absent, t], inChain)
  | .punct "!" =>
    if (← hasTypes) && !(← isOnNewLine) then
      let _ ← advance
      return some (← node .nonNull start [e], inChain)
    else return none
  | .punct "<" | .punct "<<" =>
    match ← typedLink? rec start e inChain with
    | some n => return some (n, inChain)
    | none => return none
  | _ => return none

/-- No member or call follows the operand: it is an element, or `new` without arguments. -/
def isClosed (e : Node) : Bool :=
  match e with
  | .mk .element _ _ | .mk .fragment _ _ => true
  | .mk .newExpr _ [_, _, .mk .absent _ _] => true
  | _ => false

/-- An operand with its members and calls. -/
def leftSide : Parse Node := do
  let start ← position
  let e ← primary rec
  if isClosed e then return e else return (← iterate (link rec start) (e, false)).1

/-- One more member of what `new` applies to. -/
def calleeLink (start : Nat) (e : Node) : Parse (Option Node) := do
  match (← peek).kind with
  | .punct "." =>
    let _ ← advance
    let key ← dotKey
    return some (← node .member start [e, key])
  | .punct "[" =>
    let key ← bracketKey rec
    return some (← node .member start [e, key])
  | .punct "!" =>
    if (← hasTypes) && !(← isOnNewLine) then
      let _ ← advance
      return some (← node .nonNull start [e])
    else return none
  | .backquote =>
    let t ← template (insideBrackets rec .expression) true
    return some (← node .tagged start [e, .absent, t])
  | .punct "?." => failHere .optionalNew
  | _ => return none

/-- What `new` applies to: an operand with members, but no call. -/
def callee : Parse Node := do
  let start ← position
  let e ← primary rec
  match e.form with
  | .importCallee _ => failAt .misplaced (e.span.getD .empty)
  | _ => if isClosed e then return e else iterate (calleeLink rec start) e

/-! ### Operators -/

/-- The node can be stepped.  With types it is left to their checker to refuse the result of a
call or an operation. -/
def isSteppable (dialect : Dialect) (e : Node) : Bool :=
  isTarget dialect e || (dialect.hasTypes &&
    match (withoutParens e).form with
    | .call => true
    | _ => false)

/-- Refuses an operand that cannot be stepped. -/
def checkStepped (e : Node) : Parse Unit := do
  if !isSteppable (← get).dialect e then note .assignTarget (e.span.getD .empty)

/-- The node is a member of an object, and so can be deleted. -/
def isDeletable (e : Node) : Bool :=
  match (withoutParens e).form with
  | .member | .chainMember _ => true
  | _ => false

/-- Refuses an operand that cannot be deleted. -/
def checkDeleted (e : Node) : Parse Unit := do
  let isRefused ← if ← hasTypes then pure (!isDeletable e)
    else pure (match e.form with
      | .ref _ => true
      | _ => false)
  if isRefused then note .deleteName (e.span.getD .empty)

/-- `<T>a` -/
def castExpression : Parse Node := do
  let start ← position
  expect "<"
  let type ← if ← isWord "const" then pure .absent else freshType rec
  if isAbsent type then
    let _ ← advance
    expect ">"
    let e ← rec .unary
    node .asConst start [e]
  else
    if !(← isAt ">") then
      -- what follows the type is taken for an operator, whose operand is missing
      let _ ← advance
      noExpression
    expect ">"
    let e ← rec .unary
    node .cast start [type, e]

/-- An operand, perhaps stepped after it is read. -/
def stepped (start : Nat) : Parse Node := do
  let e ← leftSide rec
  if ((← isAt "++") || (← isAt "--")) && !(← isOnNewLine) then
    checkStepped e
    match (← advance).kind with
    | .punct op => node (.update op false) start [e]
    | _ => return e
  else return e

/-- `await a`.  Only functions that are asynchronous and the module itself wait, and parameters do
not. -/
def awaitExpression : Parse Node := do
  let start ← position
  let c := (← get).context
  if c.inFunction && !c.inAsync then noteHere .awaitOutside
  if c.inParameters && !c.inFunction then noteHere .awaitInParameter
  expectWord "await"
  if ← isAt "*" then failHere .misplaced
  let e ← rec .unary
  node .awaitExpr start [e]

/-- An operand with the operators before and after it. -/
def unary : Parse Node := do
  let start ← position
  match (← peek).kind with
  | .punct "<" =>
    if (← get).dialect.hasElements then stepped rec start else castExpression rec
  | .punct op =>
    if ["!", "~", "+", "-"].contains op then
      let _ ← advance
      let e ← rec .unary
      node (.unary op) start [e]
    else if op = "++" || op = "--" then
      let _ ← advance
      let e ← rec .unary
      checkStepped e
      node (.update op true) start [e]
    else stepped rec start
  | .name op =>
    if op = "typeof" || op = "void" || op = "delete" then
      let _ ← advance
      let e ← rec .unary
      if op = "delete" then checkDeleted e
      node (.unary op) start [e]
    else if op = "await" then awaitExpression rec
    else stepped rec start
  | _ => stepped rec start

/-- The binding levels of infix operators. -/
def levels : List (String × Nat) :=
  [("??", 1), ("||", 1), ("&&", 2), ("|", 3), ("^", 4), ("&", 5), ("==", 6), ("!=", 6),
    ("===", 6), ("!==", 6), ("<", 7), (">", 7), ("<=", 7), (">=", 7), ("in", 7),
    ("instanceof", 7), ("as", 7), ("satisfies", 7), ("<<", 8), (">>", 8), (">>>", 8), ("+", 9),
    ("-", 9), ("*", 10), ("/", 10), ("%", 10), ("**", 11)]

/-- The operator at the next token; those that begin with `>` are read in full. -/
def operatorHere : Parse (Option String) := do
  let c ← get
  match c.token.kind with
  | .punct ">" =>
    match Lexer.firstMark Lexer.greaterMarks c.here with
    | some (.punct op, _) => return some op
    | _ => return some ">"
  | .punct op => return some op
  | .name "in" => return if c.context.noIn then none else some "in"
  | .name "instanceof" => return some "instanceof"
  | .name "as" =>
    return if c.dialect.hasTypes && !c.token.afterNewline then some "as" else none
  | .name "satisfies" =>
    return if c.dialect.hasTypes && !c.token.afterNewline then some "satisfies" else none
  | _ => return none

/-- Takes the operator at the next token. -/
def takeOperator (op : String) : Parse Unit := do
  let c ← get
  match op.toList with
  | '>' :: _ => set (c.take (.punct op) (c.token.span.start + op.length) (c.here.drop op.length))
  | _ =>
    let _ ← advance

/-- The operator and its level, if it binds more tightly than `level`. -/
def operatorAbove (level : Nat) : Parse (Option (String × Nat)) := do
  match ← operatorHere with
  | none => return none
  | some op =>
    match levels.lookup op with
    | some l => return if l > level then some (op, l) else none
    | none => return none

/-- An operand of `??` is no `||` or `&&` without parentheses. -/
def mixesNullish (op : String) (e : Node) : Bool :=
  match e.form with
  | .binary other => op = "??" && (other = "||" || other = "&&")
  | _ => false

/-- The expression begins with an operator. -/
def isUnary (e : Node) : Bool :=
  match e.form with
  | .unary _ | .awaitExpr => true
  | _ => false

/-- One more operator and its right operand. -/
def binaryLink (start level : Nat) (left : Node) : Parse (Option Node) := do
  match ← operatorAbove level with
  | none => return none
  | some ("as", _) =>
    let _ ← advance
    if ← eatWord "const" then return some (← node .asConst start [left])
    else
      let type ← freshType rec
      return some (← node .asType start [left, type])
  | some ("satisfies", _) =>
    let _ ← advance
    let type ← freshType rec
    return some (← node .satisfies start [left, type])
  | some (op, l) =>
    if op = "**" && isUnary left then failAt .unaryExponent (left.span.getD .empty)
    takeOperator op
    let right ← if op = "**" then rec (.binary (l - 1)) else rec (.binary l)
    if mixesNullish op left || mixesNullish op right then
      note .mixedNullish ⟨start, (← get).prevEnd⟩
    return some (← node (.binary op) start [left, right])

/-- Operands joined by operators that bind more tightly than `level`. -/
def binary (level : Nat) : Parse Node := do
  let start ← position
  let first ← rec .unary
  iterate (binaryLink rec start level) first

/-- `a ? b : c`, or an expression without it. -/
def conditional : Parse Node := do
  let start ← position
  let test ← rec (.binary 0)
  if ← isAt "?" then
    let _ ← advance
    let yes ← within (fun c => { c with noIn := false, inBranch := true }) (rec .assignment)
    expect ":"
    let no ← rec .assignment
    node .conditional start [test, yes, no]
  else return test

/-- The operators that assign. -/
def assignOperators : List String :=
  ["=", "+=", "-=", "*=", "/=", "%=", "**=", "<<=", ">>=", ">>>=", "&=", "|=", "^=", "&&=",
    "||=", "??="]

/-- The node joins operands, so that nothing is assigned to it. -/
def isJoined (e : Node) : Bool :=
  match e.form with
  | .conditional | .binary _ | .unary _ | .update _ _ => true
  | _ => false

/-- An expression that may assign. -/
def plainAssignment : Parse Node := do
  let start ← position
  let left ← conditional rec
  if isJoined left then return left
  match ← operatorHere with
  | some op =>
    if assignOperators.contains op then
      let c ← get
      match toTarget c.dialect c.spreadCommas op left with
      | .error e => throw e
      | .ok target =>
        takeOperator op
        let value ← rec .assignment
        node (.assign op) start [target, value]
    else return left
  | none => return left

/-- `yield a` -/
def yieldExpression : Parse Node := do
  let start ← position
  let c := (← get).context
  if c.inParameters && !c.inFunction then failHere .yieldOutside
  expectWord "yield"
  if ← isOnNewLine then node (.yieldExpr false) start [.absent]
  else if ← eat "*" then
    let e ← rec .assignment
    node (.yieldExpr true) start [e]
  else
    let isBare ← do
      match (← peek).kind with
      | .punct t => pure ([")", "]", "\x7d", ",", ";", ":"].contains t)
      | .name "in" => pure true
      | .endOfText => pure true
      | _ => pure false
    if isBare then node (.yieldExpr false) start [.absent]
    else
      let e ← rec .assignment
      node (.yieldExpr false) start [e]

/-- An expression that begins with an angle bracket, where there are types and elements: an
element, unless that cannot be read and an arrow function with type parameters can. -/
def elementOrArrow : Parse Node := fun c =>
  match leniently (plainAssignment rec) c with
  | .ok r => .ok r
  | .error e =>
    match leniently (genericArrow rec) c with
    | .ok r => .ok r
    | .error _ => .error e

/-- An expression that begins with an angle bracket, where there are types and no elements: an
arrow function with type parameters, or a cast. -/
def arrowOrCast : Parse Node := do
  match ← leniently (attempt (genericArrow rec)) with
  | some n => return n
  | none => plainAssignment rec

/-- An expression without a comma. -/
def assignment : Parse Node := do
  let c ← get
  if (← isWord "yield") && c.context.inGenerator then yieldExpression rec
  else if ← isAt "<" then
    match c.dialect with
    | .tsx => elementOrArrow rec
    | .ts => arrowOrCast rec
    | .jsx => plainAssignment rec
  else match ← arrow? rec with
    | some n => return n
    | none => plainAssignment rec

/-- Expressions separated by commas. -/
def expression : Parse Node := do
  let start ← position
  let first ← rec .assignment
  let others ← collect do
    if ← eat "," then return some (← rec .assignment) else return none
  if others.isEmpty then return first
  else node .sequence start (first :: others)

end RouteMigration.Grammar
