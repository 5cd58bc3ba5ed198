import RouteMigration.Grammar.Name

/-!
# Patterns

Patterns bind names.  They are read as such in declarations and parameters; on the left of an
assignment an expression has been read already and is turned into the pattern it spells.

## Main Definitions

* `Grammar.pattern` — a name, or a list or an object of patterns
* `Grammar.patternElement` — a pattern with a default
* `Grammar.toPattern`, `Grammar.toTarget` — the pattern that an expression spells
-/

namespace RouteMigration.Grammar

open Parse

variable (rec : Goal → Parse Node)

/-! ### Patterns in declarations -/

/-- The ascription after a colon, if there is one. -/
def ascription : Parse Node := do
  if (← hasTypes) && (← isAt ":") then
    let start ← position
    let _ ← advance
    let t ← within (fun c => { c with noExtends := false }) (rec .type)
    node (.type .ascription) start [t]
  else return .absent

/-- A pattern with a default, if one is given. -/
def patternElement : Parse Node := do
  let start ← position
  let p ← rec .pattern
  if ← eat "=" then
    let value ← plainValue rec
    let n ← node .assignPattern start [p, value]
    if (← get).context.inAmbient then note .ambientDefault (n.span.getD .empty)
    return n
  else return p

/-- The rest of a list or of arguments: `...p`. -/
def restElement : Parse Node := do
  let start ← position
  expect "..."
  let p ← rec .pattern
  node .restPattern start [p, .absent]

/-- One place of a list pattern, which may be empty. -/
def arrayPatternElement : Parse Node := do
  if ← isAt "," then return .absent
  else if ← isAt "..." then restElement rec
  else patternElement rec

/-- One property of an object pattern. -/
def objectPatternProperty : Parse Node := do
  let start ← position
  if ← isAt "..." then restElement rec
  else
    let token ← peek
    let key ← propertyKey rec
    if ← eat ":" then
      let value ← patternElement rec
      node .keyValuePattern start [key, value]
    else match token.kind with
      | .name text =>
        let binding : Node := .mk (.binding text false) (some token.span) [.absent]
        if ← eat "=" then
          let value ← plainValue rec
          node .bindingProperty start [binding, value]
        else
          if TokenKind.isReserved text then note (.reservedWord text) token.span
          node .bindingProperty start [binding, .absent]
      | _ => failHere (.expected ":" (← peek).kind.describe)

/-- The node takes all that is left. -/
def isRest (n : Node) : Bool :=
  match n.form with
  | .restPattern => true
  | _ => false

/-- The form of a part that is not there. -/
def isAbsent (n : Node) : Bool :=
  match n.form with
  | .absent => true
  | _ => false

/-- Something follows the element that takes all that is left: another element, or only a comma. -/
def isRestMisplaced (ns : List Node) (endsInComma : Bool) : Bool :=
  let after := (ns.dropWhile (!isRest ·)).drop 1
  after.any (!isAbsent ·) || (endsInComma && (ns.getLast?.map isRest).getD false)

/-- What an object pattern takes the rest of its properties with is a name. -/
def isRestNamed (n : Node) : Bool :=
  match n with
  | .mk .restPattern _ (.mk (.binding _ _) _ _ :: _) => true
  | _ => !isRest n

/-- A pattern that binds names. -/
def pattern : Parse Node := do
  let start ← position
  if ← eat "[" then
    let (elements, endsInComma) ← listWithComma "]" (arrayPatternElement rec)
    let n ← node (.arrayPattern false) start [.seq elements, .absent]
    if isRestMisplaced elements endsInComma then note .restNotLast (n.span.getD .empty)
    return n
  else if ← eat "\x7b" then
    let (properties, endsInComma) ← listWithComma "\x7d" (objectPatternProperty rec)
    let n ← node (.objectPattern false) start [.seq properties, .absent]
    if isRestMisplaced properties endsInComma || !properties.all isRestNamed then
      note .restNotLast (n.span.getD .empty)
    return n
  else
    let text ← patternText
    node (.binding text false) start [.absent]

/-- Marks a pattern as optional. -/
def markOptional : Node → Node
  | .mk (.binding name _) s ps => .mk (.binding name true) s ps
  | .mk (.arrayPattern _) s ps => .mk (.arrayPattern true) s ps
  | .mk (.objectPattern _) s ps => .mk (.objectPattern true) s ps
  | n => n

/-- Gives a pattern a type.  The range of a list or an object takes the type in. -/
def ascribe (type : Node) (stop : Nat) : Node → Node
  | .mk (.binding name o) s _ => .mk (.binding name o) s [type]
  | .mk (.arrayPattern o) s [ps, _] =>
    .mk (.arrayPattern o) (s.map fun s => ⟨s.start, stop⟩) [ps, type]
  | .mk (.objectPattern o) s [ps, _] =>
    .mk (.objectPattern o) (s.map fun s => ⟨s.start, stop⟩) [ps, type]
  | n => n

/-- A pattern with its ascription, if there is one. -/
def ascribed (p : Node) : Parse Node := do
  let type ← ascription rec
  if isAbsent type then return p else return ascribe type (← get).prevEnd p

/-- A pattern and its ascription. -/
def ascribedPattern : Parse Node := do
  ascribed rec (← rec .pattern)

/-! ### Expressions as patterns -/

/-- The fault of a node that cannot be assigned to. -/
def targetError (n : Node) : SyntaxError :=
  ⟨.assignTarget, n.span.getD .empty⟩

/-- The object of a member does not end in a chain that may stop early. -/
def isSteadyObject (object : Node) (isSimple : Bool) : Bool :=
  match object.form with
  | .member => isSimple
  | .chainMember _ | .chainCall _ => false
  | _ => true

/-- A node whose value can be replaced: a name or a member, perhaps in parentheses or under a
type. -/
def isSimpleTarget : Node → Bool :=
  Node.fold fun form _ parts =>
    match form, parts with
    | .ref name, _ => !isUnbindable name
    | .member, (object, ok) :: _ => isSteadyObject object ok
    | .superMember, _ => true
    | .paren, [(_, ok)] | .nonNull, [(_, ok)] => ok
    | .asType, [(_, ok), _] | .satisfies, [(_, ok), _] | .instantiation, [(_, ok), _] => ok
    | .cast, [_, (_, ok)] => ok
    | _, _ => false

/-- A node in parentheses stands for what is in them. -/
def withoutParens : Node → Node :=
  Node.fold fun form span parts =>
    match form, parts with
    | .paren, [(_, inner)] => inner
    | _, _ => .mk form span (parts.map (·.1))

/-- The form is a literal or joins two operands. -/
def isComputed : Form → Bool
  | .str _ _ | .num _ | .bigInt _ | .bool _ | .null | .regex _ | .binary _ => true
  | _ => false

/-- The node may stand where a value is replaced.  With types it is left to their checker to refuse
a literal or an operation there. -/
def isTarget (dialect : Dialect) (n : Node) : Bool :=
  isSimpleTarget n || (dialect.hasTypes && isComputed (withoutParens n).form)

/-- The target of an inner assignment, as the pattern that its default belongs to. -/
def targetPattern (n : Node) : Node :=
  match n with
  | .mk .memberTarget s ps => .mk .member s ps
  | _ => n

/-- The node is a spread element. -/
def isSpread (n : Node) : Bool :=
  match n.form with
  | .spread => true
  | _ => false

/-- The spread elements of a list that spells a pattern stand right: at most the last one is
spread, it has no default, and no comma follows it. -/
def isSpreadPlaced (commas : List Nat) (span : Option Span) (ns : List Node) : Bool :=
  !ns.dropLast.any isSpread &&
    match ns.getLast? with
    | some (.mk .spread _ [e]) =>
      (match e.form with
        | .assign _ => false
        | _ => true) && !commas.contains (span.getD .empty).start
    | _ => true

/-- A list without the empty places at its end. -/
def withoutHoles (ns : List Node) : List Node := (ns.reverse.dropWhile isAbsent).reverse

/-- One step of `toPattern`; `commas` are the starts of lists and objects that end in a spread
element and a comma. -/
def toPatternStep (commas : List Nat) (form : Form) (span : Option Span)
    (parts : List (Node × Except SyntaxError Node)) : Except SyntaxError Node := do
  let self : Node := .mk form span (parts.map (·.1))
  match form, parts with
  | .absent, _ => return .absent
  | .ref name, _ =>
    if isUnbindable name then throw (targetError self)
    return .mk (.binding name false) span [.absent]
  | .member, _ | .superMember, _ | .paren, _ | .asType, _ =>
    if isSimpleTarget self then return self else throw (targetError self)
  | .spread, [(_, p)] => return .mk .restPattern span [← p, .absent]
  | .assign op, [(target, _), (value, _)] =>
    if op = "=" then return .mk .assignPattern span [targetPattern target, value]
    else throw (targetError self)
  | .array, _ => do
    if !isSpreadPlaced commas span (parts.map (·.1)) then throw (targetError self)
    let elements ← parts.mapM (·.2)
    return .mk (.arrayPattern false) span [.seq (withoutHoles elements), .absent]
  | .object, _ => do
    if !isSpreadPlaced commas span (parts.map (·.1)) then throw (targetError self)
    let properties ← parts.mapM (·.2)
    return .mk (.objectPattern false) span [.seq properties, .absent]
  | .keyValue, [(key, _), (_, value)] => return .mk .keyValuePattern span [key, ← value]
  | .shorthand name, _ =>
    return .mk .bindingProperty span [.mk (.binding name false) span [.absent], .absent]
  | .assignProperty, [(.mk (.word name) s _, _), (value, _)] =>
    return .mk .bindingProperty span [.mk (.binding name false) s [.absent], value]
  | _, _ => throw (targetError self)

/-- The pattern that a list or an object spells, or an element of one. -/
def toPattern (commas : List Nat) : Node → Except SyntaxError Node :=
  Node.fold (toPatternStep commas)

/-- What a loop over members or elements assigns to. -/
def toLoopHead (dialect : Dialect) (commas : List Nat) (n : Node) : Except SyntaxError Node :=
  match n with
  | .mk .array _ _ | .mk .object _ _ | .mk (.ref _) _ _ => toPattern commas n
  | _ => if isTarget dialect n then return n else throw (targetError n)

/-- The node stands in parentheses. -/
def isParen (n : Node) : Bool :=
  match n.form with
  | .paren => true
  | _ => false

/-- The target that the left side of an assignment with the operator `op` spells. -/
def toTarget (dialect : Dialect) (commas : List Nat) (op : String) (n : Node) :
    Except SyntaxError Node :=
  match n with
  | .mk .array _ _ | .mk .object _ _ =>
    if op = "=" then toPattern commas n else throw (targetError n)
  | .ref span name =>
    if isSimpleTarget n then return .mk (.binding name false) span [.absent]
    else throw (targetError n)
  | .member span object property =>
    if isSimpleTarget n then return .mk .memberTarget span [object, property]
    else throw (targetError n)
  | _ =>
    if isSimpleTarget n || (op = "=" && isParen n && isTarget dialect n) then return n
    else throw (targetError n)

end RouteMigration.Grammar
