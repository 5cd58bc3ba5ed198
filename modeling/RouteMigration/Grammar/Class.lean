import RouteMigration.Grammar.Function

/-!
# Classes

A member of a class is read from left to right: modifiers, the words that tell its kind, its key,
and what follows the key.  Each of these words may also be the key itself, which what follows it
decides.

## Main Definitions

* `Grammar.classMember` — one member
* `Grammar.classTail` — what follows the name of a class
* `Grammar.heritageList` — the types that a class or an interface refers to
-/

namespace RouteMigration.Grammar

open Parse

variable (rec : Goal → Parse Node)

/-! ### Names and other types -/

/-- Words that name types of their own, and so neither a class nor an interface. -/
def takenTypeNames : List String :=
  ["string", "null", "number", "object", "any", "unknown", "boolean", "bigint", "symbol", "void",
    "never", "intrinsic"]

/-- Refuses the name of a type of its own as the name of a class or an interface. -/
def checkTypeName (name : Node) : Parse Unit := do
  match name.form with
  | .ident text =>
    if (← hasTypes) && takenTypeNames.contains text then note .typeName (name.span.getD .empty)
  | _ => pure ()

/-- A type that a class or an interface refers to. -/
def heritage : Parse Node := do
  let start ← position
  let first ← do
    let text ← wordText
    node (.ref text) start []
  let e ← iterate (fun left => do
    if ← eat "." then
      let key ← word
      return some (← node .member start [left, key])
    else return none) first
  let args ← optionalTypeArguments rec
  typeNode .heritage start [e, args]

/-- A list of types ends here. -/
def endsHeritage : Parse Bool :=
  return (← isAt "\x7b") || (← isWord "implements") || (← isWord "extends")

/-- Types separated by commas. -/
def heritageList : Parse (List Node) :=
  collect do
    if ← endsHeritage then return none
    let h ← heritage rec
    if !(← eat ",") && !(← endsHeritage) then
      failHere (.expected "," (← peek).kind.describe)
    return some h

/-! ### Parameters of constructors -/

/-- Takes a word that says who may use a member. -/
def accessModifier : Parse String := do
  if ← eatModifier "public" then return "public"
  else if ← eatModifier "protected" then return "protected"
  else if ← eatModifier "private" then return "private"
  else return ""

/-- A parameter of a constructor, which may declare a member. -/
def constructorParameter : Parse Node := do
  let start ← position
  if ← isAt "..." then restParameter rec
  else
    let access ← accessModifier
    let isOverride ← eatModifier "override"
    let isReadonly ← eatModifier "readonly"
    let p ← plainParameter rec
    if access = "" && !isOverride && !isReadonly then return p
    let m : Modifiers := { access := access, isOverride := isOverride, isReadonly := isReadonly }
    match p.form with
    | .binding _ _ | .assignPattern => node (.paramProperty m) start [p]
    | _ => failAt .misplaced (p.span.getD .empty)

/-- A parameter of a constructor in its place. -/
def placedInConstructor (p : Node) : Node :=
  match p.form with
  | .paramProperty _ => p
  | _ => placed p

/-- The pattern of a parameter of a constructor. -/
def parameterPattern (p : Node) : Node :=
  match p with
  | .mk (.paramProperty _) _ [q] => q
  | _ => p

/-- The parameter declares a member. -/
def isMemberParameter (p : Node) : Bool :=
  match p.form with
  | .paramProperty _ => true
  | _ => false

/-! ### Members after their keys -/

/-- The member declares the function that makes objects of the class. -/
def isConstructorKey (key : Node) : Bool :=
  match key.form with
  | .word "constructor" | .str "constructor" _ => true
  | _ => false

/-- The key is private. -/
def isPrivateKey (key : Node) : Bool :=
  match key.form with
  | .privateName _ => true
  | _ => false

/-- Parameters follow, so the word before them is the key of a method. -/
def isMethodNext : Parse Bool :=
  return (← isAt "(") || ((← hasTypes) && (← isAt "<"))

/-- The word before is the key of a field, which a new line may end. -/
def isFieldNext (mayEndLine : Bool) : Parse Bool := do
  if (← hasTypes) && ((← isAt "!") || (← isAt ":")) then return true
  if (← isAt "=") || (← isAt "\x7d") || (← isAt ";") then return true
  if mayEndLine then mayEnd else return false

/-- A method from its parameters on. -/
def methodAfterKey (start : Nat) (kind : MethodKind) (isAsync isGenerator : Bool) (m : Modifiers)
    (key : Node) (list : Parse (List Node)) : Parse Node := do
  let f ← within (fun c => { c with hasSuper := true })
    (functionTail rec start isAsync isGenerator list)
  let n ← node (.classMethod kind m) start [key, f]
  let span := n.span.getD .empty
  if isPrivateKey key then
    if m.access != "" then note .privateAccess span
  else if m.isAbstract && hasBody f then note .abstractBody span
  return n

/-- The context of the value of a field. -/
def fieldContext (c : Context) : Context :=
  { c with
    noIn := false, inBranch := false, inParameters := false
    inField := true, hasTarget := true, hasSuper := true }

/-- A field from what follows its key on. -/
def fieldAfterKey (start : Nat) (isAccessor : Bool) (m : Modifiers) (key : Node) :
    Parse Node := do
  let keySpan := key.span.getD .empty
  if isConstructorKey key then failAt .constructorField keySpan
  if isPrivateKey key then
    if m.isDeclare then note (.memberModifier "declare") keySpan
    if m.isAbstract then note (.memberModifier "abstract") keySpan
    if m.access != "" then note .privateAccess keySpan
  let isDefinite ← if (← hasTypes) && !m.isOptional then eat "!" else pure false
  let type ← ascription rec
  let value ← if ← eat "=" then within fieldContext (rec .assignment) else pure .absent
  if !(← eatSemicolon) then noteHere .semicolonExpected
  let m := { m with isDefinite := isDefinite }
  if isAccessor then node (.accessor m) start [key, type, value]
  else
    let n ← node (.classField m) start [key, type, value]
    if m.isAbstract && !isPrivateKey key && !isAbsent value then
      note .abstractValue (n.span.getD .empty)
    return n

/-- A constructor from its parameters on. -/
def constructorAfterKey (start : Nat) (m : Modifiers) : Parse Node := do
  if m.isOverride then noteHere (.constructorModifier "override")
  if (← hasTypes) && (← isAt "<") then
    noteHere .constructorTypes
    let _ ← typeParameters rec {}
  let params ← within (fun c => { c with hasSuper := true })
    (inParameters false false (parametersOf (constructorParameter rec)))
  if (← hasTypes) && (← isAt ":") then
    noteHere .constructorTypes
    let _ ← ascription rec
  let body ← within (fun c => { c with hasSuper := true }) (functionBody rec false false params)
  let n ← node (.constructorMethod m) start [.seq (params.map placedInConstructor), body]
  let span := n.span.getD .empty
  if isAbsent body && params.any (fun p => isDefaulted (parameterPattern p)) then
    note .ambientDefault span
  if isAbsent body && params.any isMemberParameter then note .memberParameter span
  if m.isStatic then note (.constructorModifier "static") span
  if m.isAbstract then note (.constructorModifier "abstract") span
  return n

/-- A member whose key is a word that may also be a modifier, after that word; `none` where the
word is a modifier. -/
def memberNamed? (start : Nat) (mayEndLine : Bool) (m : Modifiers) (key : Node) :
    Parse (Option Node) := do
  if ← isMethodNext then
    return some (← methodAfterKey rec start .method false false { m with isDeclare := false } key
      (parameters rec))
  else if (← isFieldNext mayEndLine) || ((← hasTypes) && (← isAt "?")) then
    let isOptional ← if ← hasTypes then eat "?" else pure false
    return some (← fieldAfterKey rec start false { m with isOptional := isOptional } key)
  else return none

/-! ### Modifiers -/

/-- The words of a member between `static` and its key. -/
def laterModifiers : List String := ["abstract", "readonly", "override", "static"]

/-- A block of statements that are run with the class is next. -/
def isStaticBlock : Parse Bool := ahead do
  expectWord "static"
  isAt "\x7b"

/-- What is wrong with one more modifier after those of `m`, if something is. -/
def modifierFault? (hasBase : Bool) (m : Modifiers) (word : String) : Option SyntaxFault :=
  match word with
  | "abstract" =>
    if m.isAbstract then some (.modifierRepeated word)
    else if m.isOverride then some (.modifierOrder word "override")
    else if m.isReadonly then some (.modifierOrder word "readonly")
    else none
  | "override" =>
    if m.isOverride then some (.modifierRepeated word)
    else if m.isReadonly then some (.modifierOrder word "readonly")
    else if m.isDeclare then some (.memberModifier word)
    else if !hasBase then some .overrideWithoutBase
    else none
  | "readonly" => if m.isReadonly then some (.modifierRepeated word) else none
  | _ => if m.isOverride then some (.modifierOrder word "override") else none

/-- The modifiers with one more of them. -/
def withModifier (m : Modifiers) : String → Modifiers
  | "abstract" => { m with isAbstract := true }
  | "override" => { m with isOverride := true }
  | "readonly" => { m with isReadonly := true }
  | "static" => { m with isStatic := true }
  | _ => m

/-- Takes one more modifier. -/
def memberModifier (hasBase : Bool) (m : Modifiers) : Parse (Option Modifiers) := do
  match (← peek).kind with
  | .name text =>
    if !laterModifiers.contains text || (← isStaticBlock) || !(← isModifier text) then
      return none
    match modifierFault? hasBase m text with
    | some fault => noteHere fault
    | none => pure ()
    let _ ← advance
    return some (withModifier m text)
  | _ => return none

/-! ### Members -/

/-- A block of statements that are run with the class, from its brace on. -/
def staticBlock (start : Nat) (isModified : Bool) : Parse Node := do
  if isModified then noteHere .modifierMisplaced
  let body ← within (fun c => { c with inField := true, hasTarget := true, hasSuper := true })
    (block rec)
  node .staticBlock start [body]

/-- The word is the key of the member. -/
def isKeyWord (key : Node) (text : String) : Bool :=
  match key.form with
  | .word t => t = text
  | _ => false

/-- A function that reads or writes a property, from its key on. -/
def accessorMember (start : Nat) (kind : MethodKind) (m : Modifiers) : Parse Node := do
  let key ← memberKey rec
  let keySpan := key.span.getD .empty
  if m.isReadonly then note .readonlyAccessor keySpan
  if isConstructorKey key then note .constructorKind keySpan
  let list := if kind = .setter then setterParameters rec
    else if isPrivateKey key then parameters rec
    else getterParameters rec
  methodAfterKey rec start kind false false m key list

/-- An asynchronous method, after `async`. -/
def asyncMember (start : Nat) (m : Modifiers) : Parse Node := do
  let isGenerator ← eat "*"
  let key ← memberKey rec
  if isConstructorKey key then failAt .constructorKind (key.span.getD .empty)
  if m.isReadonly then note .readonlyMethod (key.span.getD .empty)
  let isOptional ← if (← hasTypes) && !m.isOptional then eat "?" else pure m.isOptional
  methodAfterKey rec start .method true isGenerator { m with isOptional := isOptional } key
    (parameters rec)

/-- A generator, after its star. -/
def generatorMember (start : Nat) (m : Modifiers) : Parse Node := do
  let key ← memberKey rec
  if m.isReadonly then note .readonlyMethod (key.span.getD .empty)
  if isConstructorKey key then note .constructorKind (key.span.getD .empty)
  methodAfterKey rec start .method false true m key (parameters rec)

/-- A member from its key on. -/
def keyMember (start : Nat) (isAccessor : Bool) (m : Modifiers) : Parse Node := do
  let key ← if m.isReadonly && ((← isAt "!") || (← isAt ":")) then
      let stop := (← get).prevEnd
      node (.word "readonly") (stop - "readonly".length) []
    else memberKey rec
  let isOptional ← if ← hasTypes then eat "?" else pure false
  let m := { m with isOptional := isOptional }
  if ← isMethodNext then
    if m.isDeclare then note (.memberModifier "declare") (key.span.getD .empty)
    if m.isReadonly then failAt .readonlyMethod (key.span.getD .empty)
    if isConstructorKey key then constructorAfterKey rec start m
    else methodAfterKey rec start .method false false m key (parameters rec)
  else
    let isGeneratorNext := (← isOnNewLine) && (← isAt "*")
    let isAccessorWord := isKeyWord key "get" || isKeyWord key "set"
    let isAccessed := isAccessorWord && !(← isFieldNext false) && !isGeneratorNext
    if !isAccessed && (← isFieldNext true) then fieldAfterKey rec start isAccessor m key
    else if isKeyWord key "async" && !(← isOnNewLine) then asyncMember rec start m
    else if isAccessed then
      accessorMember rec start (if isKeyWord key "get" then .getter else .setter) m
    else failHere (.unexpected (← peek).kind.describe
      "* for generator, private key, identifier or async")

/-- A member from the modifiers after `static` on. -/
def modifiedMember (hasBase : Bool) (start : Nat) (isAccessor : Bool) (m : Modifiers) :
    Parse Node := do
  let before := m
  let m ← iterate (memberModifier hasBase) m
  let isAccessor ← if (← hasTypes) && !isAccessor && !m.isReadonly then eatWord "accessor"
    else pure isAccessor
  if m.isStatic && (← isAt "\x7b") then
    staticBlock rec start (m.isDeclare || m.access != "")
  else if ← isStaticBlock then
    let _ ← advance
    staticBlock rec start (before.isStatic || m.isAbstract || m.isOverride || m.isReadonly)
  else if (← hasTypes) && !m.isAbstract && !m.isOverride && m.access = "" &&
      (← isIndexSignature) then
    indexSignature rec start m.isReadonly
  else if ← eat "*" then generatorMember rec start m
  else keyMember rec start isAccessor m

/-- Takes a word that may be a modifier or the key of a member. -/
def wordKey? (text : String) : Parse (Option Node) := do
  if ← isWord text then return some (← word) else return none

/-- A member from `accessor` on, if it is there. -/
def accessorField (hasBase : Bool) (start : Nat) (m : Modifiers) : Parse Node := do
  let key ← if ← hasTypes then wordKey? "accessor" else pure none
  match key with
  | none => modifiedMember rec hasBase start false m
  | some key =>
    match ← memberNamed? rec start false m key with
    | some n => return n
    | none => modifiedMember rec hasBase start true m

/-- A member from `static` on, if it is there. -/
def staticMember (hasBase : Bool) (start : Nat) (m : Modifiers) : Parse Node := do
  match ← wordKey? "static" with
  | none => accessorField rec hasBase start m
  | some key =>
    match ← memberNamed? rec start false m key with
    | some n => return n
    | none => accessorField rec hasBase start { m with isStatic := true }

/-- One member of a class. -/
def classMember (hasBase : Bool) : Parse Node := do
  let start ← position
  if ← eat ";" then node .emptyMember start []
  else if ← isAt "@" then failHere .decorator
  else
    let first ← if ← hasTypes then wordKey? "declare" else pure none
    let access ← accessModifier
    let second ← if ← hasTypes then wordKey? "declare" else pure none
    match second.or first with
    | none => staticMember rec hasBase start { access := access }
    | some key =>
      match ← memberNamed? rec start true { access := access } key with
      | some n => return n
      | none => staticMember rec hasBase start { access := access, isDeclare := true }

/-! ### Whole classes -/

/-- A constructor with a body. -/
def isWholeConstructor (n : Node) : Bool :=
  match n with
  | .mk (.constructorMethod _) _ [_, .mk .block _ _] => true
  | _ => false

/-- A member that a class of its own must complete. -/
def isAbstractMember (n : Node) : Bool :=
  match n with
  | .mk (.classMethod _ m) _ (key :: _) | .mk (.classField m) _ (key :: _) =>
    m.isAbstract && !isPrivateKey key
  | _ => false

/-- The class after `extends`, with the types given to it. -/
def baseClass : Parse (Node × Node) := do
  let e ← rec .leftSide
  match e with
  | .mk .instantiation _ [inner, args] => return (inner, args)
  | _ => return (e, ← optionalTypeArguments rec)

/-- The class that a class extends, if there is one, with the types given to it. -/
def optionalBase : Parse (Node × Node) := do
  if !(← eatWord "extends") then return (.absent, .absent)
  let base ← baseClass rec
  if (← hasTypes) && (← isAt ",") then
    expect ","
    noteHere (.heritageRepeated "extends")
    let _ ← heritageList rec
  return base

/-- A second clause of a class, which only one may have. -/
def repeatedBase (base : Node × Node) : Parse (Node × Node) := do
  if ← isWord "extends" then
    noteHere (.heritageRepeated "extends")
    expectWord "extends"
    let again ← baseClass rec
    return if isAbsent base.1 then again else base
  else return base

/-- The interfaces of a class, if it names any. -/
def interfaces : Parse (List Node) := do
  if (← hasTypes) && (← eatWord "implements") then heritageList rec else return []

/-- What follows the name of a class that starts at `start`. -/
def classTail (start : Nat) (isAbstract : Bool) : Parse Node := do
  let types ← optionalTypeParameters rec { hasVariance := true }
  let base ← optionalBase rec
  let _ ← repeatedBase rec base
  let named ← interfaces rec
  if (← hasTypes) && (← isWord "implements") then
    noteHere (.heritageRepeated "implements")
    let _ ← interfaces rec
  let (base, args) ← if ← hasTypes then repeatedBase rec base else pure base
  expect "\x7b"
  let members ← collect do
    if (← isAt "\x7d") || (← isAtEnd) then return none
    else return some (← classMember rec (!isAbsent base))
  expect "\x7d"
  if !(← get).context.inAmbient then
    match (members.filter isWholeConstructor).drop 1 with
    | second :: _ => note .duplicateConstructor (second.span.getD .empty)
    | [] => pure ()
  if !isAbstract then
    match members.find? isAbstractMember with
    | some n => note .abstractMember (n.span.getD .empty)
    | none => pure ()
  node (.classTail isAbstract) start [types, base, args, .seq named, .seq members]

end RouteMigration.Grammar
