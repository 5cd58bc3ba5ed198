import RouteMigration.Grammar.Pattern
import RouteMigration.Grammar.Template

/-!
# Types

The types of annotations and declarations.  A type is read only to be written again.

## Main Definitions

* `Grammar.type` — function types, conditional types, unions
* `Grammar.typeOperand` — what unions are made of
* `Grammar.typeParameters`, `Grammar.typeArguments` — the lists in angle brackets
* `Grammar.parameters` — the parameters of a function or a function type
-/

namespace RouteMigration.Grammar

open Parse

variable (rec : Goal → Parse Node)

/-- A node that describes a type. -/
def typeNode (form : TypeForm) (start : Nat) (parts : List Node) : Parse Node :=
  node (.type form) start parts

/-- A type in a place of its own. -/
def freshType : Parse Node :=
  within (fun c => { c with noExtends := false }) (rec .type)

/-! ### Lists in angle brackets -/

/-- An angle bracket opens here; two of them may be written as one token. -/
def isAtAngle : Parse Bool := return (← isAt "<") || (← isAt "<<")

/-- Takes the angle bracket that opens a list. -/
def openAngle : Parse Unit := do
  let c ← get
  if c.token.kind = .punct "<<" then
    set (c.take (.punct "<") (c.token.span.start + 1) (c.here.drop 1))
  else expect "<"

/-- A list in angle brackets, which may not be empty. -/
def angleList (form : TypeForm) (element : Parse Node) : Parse Node := do
  let start ← position
  openAngle
  let found ← listUntil ">" element
  let n ← typeNode form start found
  if found.isEmpty then note .emptyTypeList (n.span.getD .empty)
  return n

/-- Types given in angle brackets. -/
def typeArguments : Parse Node := angleList .arguments (freshType rec)

/-- Types given in angle brackets, if there are any. -/
def optionalTypeArguments : Parse Node := do
  if (← hasTypes) && (← isAtAngle) then typeArguments rec else return .absent

/-- Types given in angle brackets on the same line, if there are any. -/
def sameLineArguments : Parse Node := do
  if (← isAtAngle) && !(← isOnNewLine) then typeArguments rec else return .absent

/-- Which words may stand before the name of a type parameter. -/
structure ParameterRules where
  /-- `in` and `out` may. -/
  hasVariance : Bool := false
  /-- `const` may. -/
  hasConst : Bool := true

/-- The words that modify some declaration, and so are told apart from the name of a type
parameter. -/
def parameterModifiers : List String :=
  ["public", "private", "protected", "readonly", "abstract", "const", "override", "in", "out"]

/-- Takes one word before the name of a type parameter: what `const`, `in` and `out` have been
found. -/
def typeParameterModifier (rules : ParameterRules) (found : Bool × Bool × Bool) :
    Parse (Option (Bool × Bool × Bool)) := do
  let (isConst, isIn, isOut) := found
  match (← peek).kind with
  | .name text =>
    if !parameterModifiers.contains text || !(← isModifier text) then return none
    let span := (← peek).span
    let _ ← advance
    match text with
    | "const" =>
      if !rules.hasConst then note .misplaced span
      return some (true, isIn, isOut)
    | "in" =>
      if !rules.hasVariance || isIn || isOut then note .misplaced span
      return some (isConst, true, isOut)
    | "out" =>
      if !rules.hasVariance || isOut then note .misplaced span
      return some (isConst, isIn, true)
    | _ =>
      note .misplaced span
      return some found
  | _ => return none

/-- One declared type parameter. -/
def typeParameter (rules : ParameterRules) : Parse Node := do
  let start ← position
  let (isConst, isIn, isOut) ← iterate (typeParameterModifier rules) (false, false, false)
  let name ← wordIdent
  let bound ← if ← eatWord "extends" then freshType rec else pure .absent
  let default ← if ← eat "=" then freshType rec else pure .absent
  typeNode (.parameter isConst isIn isOut) start [name, bound, default]

/-- Declared type parameters in angle brackets. -/
def typeParameters (rules : ParameterRules) : Parse Node :=
  angleList .parameters (typeParameter rec rules)

/-- Declared type parameters, if there are any. -/
def optionalTypeParameters (rules : ParameterRules) : Parse Node := do
  if (← hasTypes) && (← isAt "<") then typeParameters rec rules else return .absent

/-! ### Parameters of functions -/

/-- The words that make a parameter of a constructor a member. -/
def memberWords : List String := ["public", "protected", "private", "readonly"]

/-- Takes a word that would make a parameter a member, before a name or a bracket. -/
def eatMemberWord : Parse Bool := do
  if !(← hasTypes) then return false
  match (← peek).kind with
  | .name text =>
    let isFollowed ← ahead do
      let _ ← advance
      return (← isAnyWord) || (← isAt "\x7b") || (← isAt "[")
    if memberWords.contains text && isFollowed then eatWord text else return false
  | _ => return false

/-- A parameter that takes all arguments that are left. -/
def restParameter : Parse Node := do
  let start ← position
  expect "..."
  let patternStart ← position
  let p ← rec .pattern
  let p ← if ← eat "=" then do
      let value ← plainValue rec
      let n ← node .assignPattern patternStart [p, value]
      note .restDefault (n.span.getD .empty)
      pure n
    else pure p
  let type ← ascription rec
  let n ← node .restPattern start [p, type]
  if (← hasTypes) && (← isAt "?") then
    noteHere .optionalRest
    expect "?"
  return n

/-- A parameter that takes one argument: a pattern with a type and a default. -/
def plainParameter : Parse Node := do
  let start ← position
  let isMember ← eatMemberWord
  let patternStart ← position
  let p ← rec .pattern
  let isOptional ← if ← hasTypes then eat "?" else pure false
  let p ← ascribed rec (if isOptional then markOptional p else p)
  let p ← if ← eat "=" then do
      let value ← plainValue rec
      let n ← node .assignPattern patternStart [p, value]
      if isOptional then note .optionalDefault (n.span.getD .empty)
      if (← get).context.inAmbient then note .ambientDefault (n.span.getD .empty)
      pure n
    else pure p
  if isMember then note .memberParameter ⟨start, (← get).prevEnd⟩
  return p

/-- One parameter. -/
def parameter : Parse Node := do
  if ← isAt "..." then restParameter rec else plainParameter rec

/-- The parameters of a function in parentheses, as `element` reads each.  Nothing follows the one
that takes all arguments that are left. -/
def parametersOf (element : Parse Node) : Parse (List Node) := do
  let start ← position
  expect "("
  let (params, endsInComma) ← listWithComma ")" element
  if isRestMisplaced params endsInComma then note .restNotLast ⟨start, (← get).prevEnd⟩
  return params

/-- The parameters of a function in parentheses. -/
def parameters : Parse (List Node) := parametersOf (parameter rec)

/-- The node is a pattern with a default. -/
def isDefaulted (n : Node) : Bool :=
  match n.form with
  | .assignPattern => true
  | _ => false

/-- The parameters of a signature, which have no defaults. -/
def signatureParameters : Parse (List Node) := do
  let params ← parameters rec
  match params.find? isDefaulted with
  | some n => failAt .misplaced (n.span.getD .empty)
  | none => return params

/-! ### Results -/

/-- What `is` tells about a parameter, up to the type. -/
def assertedType : Parse Node := do
  let start ← position
  let t ← freshType rec
  typeNode .ascription start [t]

/-- A type, or what it tells about a parameter. -/
def resultType : Parse Node := do
  let start ← position
  let asserts ← ahead do
    expectWord "asserts"
    isIdent
  if asserts then expectWord "asserts"
  let isToldOf ← ahead do
    if !(← isIdent) then failHere .identExpected
    let _ ← advance
    return (← isWord "is") && !(← isOnNewLine)
  if asserts || isToldOf then
    let subject ← wordIdent
    let type ← if isToldOf then do
        expectWord "is"
        assertedType rec
      else pure .absent
    typeNode (.predicate asserts) start [subject, type]
  else freshType rec

/-- The type of a result after the given mark. -/
def resultBehind (mark : String) : Parse Node := do
  let start ← position
  expect mark
  let t ← resultType rec
  typeNode .ascription start [t]

/-- The type of a result after a colon, if there is one. -/
def result : Parse Node := do
  if (← hasTypes) && (← isAt ":") then resultBehind rec ":" else return .absent

/-! ### Members of object types -/

/-- The end of a member. -/
def memberEnd : Parse Unit := do
  if !(← eat ",") then semicolon

/-- A name and a colon follow an opening bracket, so keys are declared by their type. -/
def isIndexSignature : Parse Bool := ahead do
  expect "["
  if !(← isIdent) then failHere .identExpected
  let _ ← advance
  return (← isAt ":") || (← isAt ",")

/-- `[k: K]: V`, from its bracket on. -/
def indexSignature (start : Nat) (isReadonly : Bool) : Parse Node := do
  expect "["
  let nameStart ← position
  let name ← wordText
  let typeStart ← position
  if ← isAt "," then
    noteHere .misplaced
    expect ","
  else expect ":"
  let t ← freshType rec
  let key ← typeNode .ascription typeStart [t]
  let param ← node (.binding name false) nameStart [key]
  expect "]"
  let value ← ascription rec
  memberEnd
  typeNode (.indexSignature isReadonly) start [.seq [param], value]

/-- The key of a member of an object type, and whether it is computed. -/
def typeKey : Parse (Node × Bool) := do
  let start ← position
  match (← peek).kind with
  | .punct "[" => return (← computedKey rec, true)
  | .privateName text =>
    noteHere .misplaced
    let _ ← advance
    return (← node (.privateName text) start [], false)
  | .bigInt _ => failHere .identExpected
  | _ => return (← propertyKey rec, false)

/-- What follows the name of a function type or a method: type parameters, parameters and
result. -/
def signature : Parse (List Node) := do
  let types ← optionalTypeParameters rec {}
  let params ← signatureParameters rec
  let res ← result rec
  memberEnd
  return [types, .seq params, res]

/-- A property of an object type that is read or written through a function. -/
def accessorSignature : Parse Node := do
  let start ← position
  let kind ← if ← eatWord "get" then pure MethodKind.getter
    else do
      expectWord "set"
      pure MethodKind.setter
  let (key, isComputed) ← typeKey rec
  if kind = .getter then
    expect "("
    expect ")"
    let res ← ascription rec
    memberEnd
    typeNode (.method kind isComputed false) start [key, .absent, .seq [], res]
  else
    let params ← signatureParameters rec
    if params.isEmpty then failHere .misplaced
    memberEnd
    typeNode (.method kind isComputed false) start [key, .absent, .seq (params.take 1), .absent]

/-- A property or a method of an object type. -/
def keyedMember (start : Nat) (isReadonly : Bool) : Parse Node := do
  let (key, isComputed) ← typeKey rec
  let isOptional ← eat "?"
  if (← isAt "(") || (← isAt "<") then
    if isReadonly then failHere .readonlyMethod
    let rest ← signature rec
    typeNode (.method .method isComputed isOptional) start (key :: rest)
  else
    let type ← ascription rec
    memberEnd
    typeNode (.property isReadonly isComputed isOptional) start [key, type]

/-- One member of an object type. -/
def typeMember : Parse Node := do
  let start ← position
  if (← isAt "(") || (← isAt "<") then
    let rest ← signature rec
    typeNode .callSignature start rest
  else if ← ahead (do expectWord "new"; return (← isAt "(") || (← isAt "<")) then
    let _ ← advance
    let rest ← signature rec
    typeNode .constructSignature start rest
  else
    let isReadonly ← eatModifier "readonly"
    if ← isIndexSignature then indexSignature rec start isReadonly
    else
      let accessor ← if isReadonly then pure none else leniently (attempt (accessorSignature rec))
      match accessor with
      | some n => return n
      | none => keyedMember rec start isReadonly

/-- The members of an object type in braces. -/
def typeMembers : Parse (List Node) := do
  expect "\x7b"
  let members ← collect do
    if ← isAt "\x7d" then return none
    else return some (← typeMember rec)
  expect "\x7d"
  return members

/-! ### Mapped types -/

/-- A modifier of a mapped type, with a sign, plain or missing; `take` takes its word. -/
def mappedModifier (word : Parse Bool) : Parse MappedModifier := do
  let signed (sign : MappedModifier) : Parse MappedModifier := do
    if ← word then return sign else failHere .misplaced
  if ← eat "+" then signed .plus
  else if ← eat "-" then signed .minus
  else if ← word then return .plain
  else return .none

/-- A mapped type is next. -/
def isMappedType : Parse Bool := ahead do
  expect "\x7b"
  if (← eat "+") || (← eat "-") then isWord "readonly"
  else
    let _ ← eatWord "readonly"
    expect "["
    if !(← isIdent) then failHere .identExpected
    let _ ← advance
    isWord "in"

/-- `{ [K in T]: U }` -/
def mappedType : Parse Node := do
  let start ← position
  expect "\x7b"
  let isReadonly ← mappedModifier (eatWord "readonly")
  expect "["
  let param ← wordIdent
  expectWord "in"
  let bound ← freshType rec
  let name ← if ← eatWord "as" then freshType rec else pure .absent
  expect "]"
  let isOptional ← mappedModifier (eat "?")
  let type ← if ← eat ":" then freshType rec else pure .absent
  semicolon
  expect "\x7d"
  typeNode (.mapped isReadonly isOptional) start [param, bound, name, type]

/-! ### Simple types -/

/-- Words that are types of their own. -/
def keywordTypes : List String :=
  ["any", "unknown", "never", "void", "undefined", "null", "string", "number", "boolean",
    "symbol", "bigint", "object", "intrinsic"]

/-- The word may begin the name of a type. -/
def isTypeName (text : String) : Bool :=
  if TokenKind.keywords.contains text then ["void", "null", "break", "enum"].contains text
  else text != "let"

/-- A name, perhaps qualified. -/
def entityName : Parse Node := do
  let start ← position
  let first ← wordIdent
  iterate (fun left => do
    if ← eat "." then
      let right ← word
      return some (← typeNode .qualified start [left, right])
    else return none) first

/-- `import("x").A<T>` -/
def importType : Parse Node := do
  let start ← position
  expectWord "import"
  expect "("
  let source ← stringLiteral
  let attributes ← if ← eat "," then
      if ← isAt "\x7b" then rec .assignment else pure .absent
    else pure .absent
  expect ")"
  let qualifier ← if ← eat "." then entityName else pure .absent
  let args ← optionalTypeArguments rec
  typeNode .importType start [source, attributes, qualifier, args]

/-- `typeof a.b<T>` -/
def typeQuery : Parse Node := do
  let start ← position
  expectWord "typeof"
  let entity ← if ← isWord "import" then importType rec else entityName
  let args ← sameLineArguments rec
  typeNode .query start [entity, args]

/-- `this`, or what a type tells about it. -/
def thisType (start : Nat) (asserts : Bool) : Parse Node := do
  let thisStart ← position
  expectWord "this"
  let subject ← typeNode (.keyword "this") thisStart []
  if asserts || ((← isWord "is") && !(← isOnNewLine)) then
    let type ← if ← eatWord "is" then assertedType rec else pure .absent
    typeNode (.predicate asserts) start [subject, type]
  else return subject

/-- The label of an element of a tuple, up to its colon. -/
def tupleLabel : Parse Node := do
  let start ← position
  let isRest ← eat "..."
  let nameStart ← position
  let text ← wordText
  let isOptional ← eat "?"
  let name ← node (.binding text isOptional) nameStart [.absent]
  let label ← if isRest then node .restPattern start [name, .absent] else pure name
  expect ":"
  return label

/-- One element of a tuple. -/
def tupleElement : Parse Node := do
  let start ← position
  let label := (← attempt tupleLabel).getD .absent
  let typeStart ← position
  let type ← if ← eat "..." then do
      let t ← freshType rec
      typeNode .rest typeStart [t]
    else do
      let t ← freshType rec
      if ← eat "?" then typeNode .optional typeStart [t] else pure t
  typeNode .tupleElement start [label, type]

/-- The element of a tuple may be missing. -/
def isOptionalElement (n : Node) : Bool :=
  match n with
  | .mk (.type .tupleElement) _ [_, .mk (.type .optional) _ _] => true
  | _ => false

/-- The element of a tuple stands for any number of them. -/
def isRestElement (n : Node) : Bool :=
  match n with
  | .mk (.type .tupleElement) _ [_, .mk (.type .rest) _ _] => true
  | _ => false

/-- `[A, B]`; after an element that may be missing, the others may be missing too. -/
def tupleType : Parse Node := do
  let start ← position
  expect "["
  let elements ← listUntil "]" (tupleElement rec)
  let n ← typeNode .tuple start elements
  let after := elements.dropWhile (!isOptionalElement ·)
  if after.all fun e => isOptionalElement e || isRestElement e then return n
  else failAt .misplaced (n.span.getD .empty)

/-- A word as a type: one of its own, or the name of one. -/
def namedType (text : String) : Parse Node := do
  let start ← position
  let isQualified ← ahead do
    let _ ← advance
    isAt "."
  if keywordTypes.contains text && !isQualified then
    let _ ← advance
    typeNode (.keyword text) start []
  else if isTypeName text then
    let _ ← eatMemberWord
    let entity ← entityName
    let args ← sameLineArguments rec
    typeNode .reference start [entity, args]
  else failHere .typeExpected

/-- A literal as a type. -/
def literalType (form : Form) : Parse Node := do
  let start ← position
  let _ ← advance
  let value ← node form start []
  typeNode .literal start [value]

/-- A negative number as a type. -/
def negativeType : Parse Node := do
  let start ← position
  expect "-"
  match (← peek).kind with
  | .num raw =>
    let _ ← advance
    let value ← node (.num ("-" ++ raw)) start []
    typeNode .literal start [value]
  | .bigInt raw =>
    let _ ← advance
    let value ← node (.bigInt ("-" ++ raw)) start []
    typeNode .literal start [value]
  | _ => failHere .typeExpected

/-- A type without prefix or postfix. -/
def typePrimary : Parse Node := do
  let start ← position
  match (← peek).kind with
  | .name "this" => thisType rec start false
  | .name "typeof" => typeQuery rec
  | .name "import" => importType rec
  | .name "true" => literalType (.bool true)
  | .name "false" => literalType (.bool false)
  | .name text =>
    if ← ahead (do expectWord "asserts"; isWord "this") then
      let _ ← advance
      thisType rec start true
    else namedType rec text
  | .str value raw => literalType (.str value (some raw))
  | .num raw => literalType (.num raw)
  | .bigInt raw => literalType (.bigInt raw)
  | .punct "-" => negativeType
  | .backquote =>
    let _ ← advance
    let parts ← templateParts (freshType rec) false start (← get).bound
    let lit ← typeNode .templateType start parts
    typeNode .literal start [lit]
  | .punct "\x7b" =>
    if ← isMappedType then mappedType rec
    else
      let members ← typeMembers rec
      typeNode .object start members
  | .punct "[" => tupleType rec
  | .punct "(" =>
    let _ ← advance
    let inner ← freshType rec
    expect ")"
    typeNode .paren start [inner]
  | .endOfText => failHere .endOfText
  | _ => failHere .typeExpected

/-- A type with the brackets after it. -/
def typePostfix : Parse Node := do
  let start ← position
  let first ← typePrimary rec
  iterate (fun t => do
    if (← isAt "[") && !(← isOnNewLine) then
      let _ ← advance
      if ← eat "]" then return some (← typeNode .array start [t])
      else
        let index ← freshType rec
        expect "]"
        return some (← typeNode .indexed start [t, index])
    else return none) first

/-- `infer U extends T`, where the bound is none of a conditional type. -/
def inferType : Parse Node := do
  let start ← position
  expectWord "infer"
  let paramStart ← position
  let name ← wordIdent
  let bound ← leniently <| attempt do
    expectWord "extends"
    let t ← within (fun c => { c with noExtends := true }) (rec .type)
    if !(← get).context.noExtends && (← isAt "?") then failHere .misplaced
    return t
  let param ← typeNode (.parameter false false false) paramStart
    [name, bound.getD .absent, .absent]
  typeNode .infer start [param]

/-- What unions and intersections are made of. -/
def typeOperand : Parse Node := do
  let start ← position
  match (← peek).kind with
  | .name "infer" => inferType rec
  | .name text =>
    if ["keyof", "unique", "readonly"].contains text then
      let _ ← advance
      let t ← rec .typeOperand
      typeNode (.operator text) start [t]
    else typePostfix rec
  | _ => typePostfix rec

/-- Types joined by an operator, which may also stand before the first. -/
def joinedTypes (mark : String) (form : TypeForm) (element : Parse Node) : Parse Node := do
  let start ← position
  let _ ← eat mark
  let first ← element
  let others ← collect do
    if ← eat mark then return some (← element)
    else return none
  if others.isEmpty then return first
  else typeNode form start (first :: others)

/-- A union of intersections. -/
def unionType : Parse Node :=
  joinedTypes "|" .union (joinedTypes "&" .intersection (rec .typeOperand))

/-! ### Types of functions -/

/-- A parenthesis is next that opens parameters: what follows it is no type. -/
def isParameterStart : Parse Bool := ahead do
  expect "("
  if (← isAt ")") || (← isAt "...") then return true
  let _ ← eatMemberWord
  if ← isAnyWord then
    let _ ← advance
  else
    if !(← isAt "\x7b") && !(← isAt "[") then failHere .misplaced
    let _ ← rec .pattern
  if (← isAt ":") || (← isAt ",") || (← isAt "?") || (← isAt "=") then return true
  expect ")"
  isAt "=>"

/-- The type of a function or a constructor, after its words. -/
def functionType (form : TypeForm) (start : Nat) : Parse Node := do
  let types ← optionalTypeParameters rec {}
  let params ← signatureParameters rec
  let res ← resultBehind rec "=>"
  typeNode form start [types, .seq params, res]

/-- A type without a condition. -/
def plainType : Parse Node := do
  let start ← position
  if (← isAt "<") || (← isParameterStart rec) then functionType rec .function start
  else if ← eatWord "new" then functionType rec (.constructorType false) start
  else if ← ahead (do expectWord "abstract"; isWord "new") then
    let _ ← advance
    let _ ← advance
    functionType rec (.constructorType true) start
  else unionType rec

/-- Any type. -/
def type : Parse Node := do
  let start ← position
  let check ← plainType rec
  if !(← get).context.noExtends && (← isWord "extends") && !(← isOnNewLine) then
    let _ ← advance
    let bound ← within (fun c => { c with noExtends := true }) (rec .type)
    expect "?"
    let yes ← freshType rec
    expect ":"
    let no ← freshType rec
    typeNode .conditional start [check, bound, yes, no]
  else return check

end RouteMigration.Grammar
