import RouteMigration.Grammar.Type

/-!
# Functions

## Main Definitions

* `Grammar.block` — statements in braces
* `Grammar.functionBody` — the body of a function, with its context
* `Grammar.functionTail` — what follows the name of a function
* `Grammar.getterParameters`, `Grammar.setterParameters` — the parameters of accessors
-/

namespace RouteMigration.Grammar

open Parse

variable (rec : Goal → Parse Node)

/-! ### Bodies -/

/-- Statements up to a closing brace, which is taken. -/
def statementsToBrace : Parse (List Node) := do
  let statements ← collect do
    if (← isAt "\x7d") || (← isAtEnd) then return none
    else return some (← rec .statement)
  expect "\x7d"
  return statements

/-- Statements in braces. -/
def block : Parse Node := do
  let start ← position
  expect "\x7b"
  let statements ← statementsToBrace rec
  node .block start statements

/-- The context of the body of a function.  Labels and loops around it do not count in it. -/
def bodyContext (isAsync isGenerator : Bool) (c : Context) : Context :=
  { inFunction := true
    inAsync := isAsync
    inGenerator := isGenerator
    hasTarget := true
    hasSuper := c.hasSuper
    inAmbient := c.inAmbient }

/-- The context of the body of an arrow function, which has no `arguments` and no target of its
own. -/
def arrowContext (isAsync : Bool) (c : Context) : Context :=
  { bodyContext isAsync false c with hasTarget := c.hasTarget, inField := c.inField }

/-- The statement is a string that stands alone. -/
def isDirective (n : Node) : Bool :=
  match n with
  | .exprStmt _ (.mk (.str _ _) _ _) => true
  | _ => false

/-- The statement asks for the strict mode. -/
def isStrictDirective (n : Node) : Bool :=
  match n with
  | .exprStmt _ (.str _ _ (some raw)) => raw = "'use strict'" || raw = "\"use strict\""
  | _ => false

/-- The body asks for the strict mode. -/
def isStrictBody (n : Node) : Bool := (n.parts.takeWhile isDirective).any isStrictDirective

/-- All parameters are plain names. -/
def areSimple (params : List Node) : Bool :=
  params.all fun p =>
    match p.form with
    | .binding _ _ => true
    | _ => false

/-- Statements in braces that are the body of a function with the given parameters. -/
def bodyOf (change : Context → Context) (params : List Node) : Parse Node := do
  if (← hasTypes) && (← get).context.inAmbient && (← isAt "\x7b") then noteHere .ambientBody
  let body ← within change (block rec)
  if !areSimple params && isStrictBody body then
    note .strictDirective (body.span.getD .empty)
  return body

/-- The body of a function with the given parameters.  Where only its type is declared, there is
none. -/
def functionBody (isAsync isGenerator : Bool) (params : List Node) : Parse Node := do
  if (← hasTypes) && !(← isAt "\x7b") && (← eatSemicolon) then return .absent
  else bodyOf rec (bodyContext isAsync isGenerator) params

/-! ### Parameters -/

/-- Reads parameters, in which nothing can be awaited. -/
def inParameters {α : Type} (isAsync isGenerator : Bool) (p : Parse α) : Parse α :=
  within (fun c => { c with
    inFunction := false, inAsync := isAsync, inGenerator := isGenerator, inParameters := true
    hasTarget := true, noIn := false, inBranch := false }) p

/-- A parameter in its place. -/
def placed (p : Node) : Node := .mk .param p.span [p]

/-- The parameter stands for the object that a method belongs to. -/
def isThisParameter (p : Node) : Bool :=
  match p.form with
  | .binding "this" _ => true
  | _ => false

/-- The parameters of a function that reads a property: none. -/
def getterParameters : Parse (List Node) := do
  let start ← position
  let params ← parameters rec
  if params.any (!isThisParameter ·) then note .getterParameter ⟨start, (← get).prevEnd⟩
  return params

/-- The parameters of a function that writes a property: one, for the value. -/
def setterParameters : Parse (List Node) := do
  let start ← position
  let params ← parameters rec
  let isRestFirst := (params.head?.map isRest).getD false
  if (params.filter (!isThisParameter ·)).length != 1 || isRestFirst then
    note .setterParameter ⟨start, (← get).prevEnd⟩
  return params

/-- What follows the name of a function that starts at `start`; `list` reads its parameters.  A
default has no meaning where there is no body. -/
def functionTail (start : Nat) (isAsync isGenerator : Bool) (list : Parse (List Node)) :
    Parse Node := do
  let types ← optionalTypeParameters rec {}
  let params ← inParameters isAsync isGenerator list
  let res ← result rec
  let body ← functionBody rec isAsync isGenerator params
  if isAbsent body then
    match params.find? isDefaulted with
    | some p => note .ambientDefault (p.span.getD .empty)
    | none => pure ()
  node (.function isAsync isGenerator) start [types, .seq (params.map placed), res, body]

/-- The function has a body. -/
def hasBody (f : Node) : Bool :=
  match f.parts.getLast? with
  | some body => !isAbsent body
  | none => false

end RouteMigration.Grammar
