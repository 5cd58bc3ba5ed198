import RouteMigration.Grammar.Expression

/-!
# Statements

## Main Definitions

* `Grammar.statement` — any statement
* `Grammar.variableStatement` — variables
* `Grammar.declaration?` — functions, classes and the declarations of types
* `Grammar.ambient?` — declarations that only tell what exists elsewhere
-/

namespace RouteMigration.Grammar

open Parse

variable (rec : Goal → Parse Node)

/-! ### Variables -/

/-- The next token can follow `let` in a declaration. -/
def followsLet : Parse Bool := do
  match (← peek).kind with
  | .name text => return !TokenKind.keywords.contains text
  | .punct text => return text = "\x7b" || text = "["
  | _ => return false

/-- How a variable statement at the next token binds, where one starts. -/
def variableKind? : Parse (Option VarKind) := do
  if ← isWord "var" then return some .var
  else if ← isWord "const" then return some .const
  else if ← ahead (do expectWord "let"; followsLet) then return some .lexical
  else if !(← hasTypes) then return none
  else
    let bindsNext : Parse Bool := do
      expectWord "using"
      return (← isIdent) && !(← isOnNewLine) && !(← isWord "in") && !(← isWord "of")
    if ← ahead bindsNext then return some .resource
    else if ← ahead (do expectWord "await"; bindsNext) then return some .asyncResource
    else return none

/-- The node is a name. -/
def isName (p : Node) : Bool :=
  match p.form with
  | .binding _ _ => true
  | _ => false

/-- A loop over members or elements follows. -/
def isLoopOver : Parse Bool := return (← isWord "of") || (← isWord "in")

/-- Refuses a declarator without a value where one is needed.  In the head of a loop only a
pattern needs one. -/
def checkMissingValue (kind : VarKind) (inHead : Bool) (p : Node) (span : Span) :
    Parse Unit := do
  if (inHead && (← isLoopOver)) || (← get).context.inAmbient then return
  match kind with
  | .resource | .asyncResource => note .constWithoutValue span
  | .const =>
    if !inHead then note .constWithoutValue span
    else if !isName p then failAt .patternWithoutValue span
  | _ => if !isName p then failAt .patternWithoutValue span

/-- One binding of a variable statement. -/
def declarator (kind : VarKind) (inHead : Bool) : Parse Node := do
  let start ← position
  let p ← rec .pattern
  let isDefinite ← if (← hasTypes) && isName p then eat "!" else pure false
  let p ← ascribed rec p
  if (kind = .resource || kind = .asyncResource) && !isName p then
    note .misplaced (p.span.getD .empty)
  if ← eat "=" then
    let value ← within (fun c => { c with noIn := inHead && kind = .var }) (rec .assignment)
    node (.declarator isDefinite) start [p, value]
  else
    checkMissingValue kind inHead p ⟨start, (← get).prevEnd⟩
    node (.declarator isDefinite) start [p, .absent]

/-- The declarators of a variable statement, with its keywords. -/
def declarators (kind : VarKind) (inHead : Bool) : Parse (List Node) := do
  let _ ← advance
  if kind = .asyncResource then
    let _ ← advance
  let first ← declarator rec kind inHead
  let others ← collect do
    if ← eat "," then return some (← declarator rec kind inHead) else return none
  return first :: others

/-- Goes on after the next end of a statement. -/
def skipStatement : Parse Unit := do
  let _ ← attempt (rec .expression)
  let _ ← collect do
    if ← eatSemicolon then return none
    match (← peek).kind with
    | .invalid _ => return none
    | _ => return some (← advance)

/-- A variable statement that starts at `start`. -/
def variableStatement (start : Nat) (kind : VarKind) (isAmbient : Bool) : Parse Node := do
  let found ← declarators rec kind false
  if !(← eatSemicolon) then
    noteHere .semicolonExpected
    skipStatement rec
  node (.varDecl kind isAmbient) start found

/-! ### Declarations -/

/-- A function declaration that starts at `start`. -/
def functionDeclaration (start : Nat) (isAmbient : Bool) : Parse Node := do
  let isAsync ← eatWord "async"
  expectWord "function"
  let isGenerator ← eat "*"
  let name ← ident
  let f ← functionTail rec start isAsync isGenerator (parameters rec)
  node (.functionDecl isAmbient) start [name, f]

/-- A class declaration that starts at `start`. -/
def classDeclaration (start : Nat) (isAmbient isAbstract : Bool) : Parse Node := do
  expectWord "class"
  let name ← ident
  checkTypeName name
  let c ← classTail rec start isAbstract
  node (.classDecl isAmbient) start [name, c]

/-- The text that a template without holes stands for. -/
def plainTemplate? (n : Node) : Option String :=
  match n with
  | .mk .template _ [.mk (.quasi (some text) _) _ _] => some text
  | _ => none

/-- The name of a member of an enumeration in brackets: a string. -/
def bracketedMember : Parse Node := do
  let start ← position
  expect "["
  let e ← insideBrackets rec .expression
  expect "]"
  match e.form, plainTemplate? e with
  | .str _ _, _ => return e
  | _, some text => node (.str text none) start []
  | _, _ => failAt .misplaced (e.span.getD .empty)

/-- The name of a member of an enumeration. -/
def enumMemberName : Parse Node := do
  match (← peek).kind with
  | .str _ _ => stringLiteral
  | .punct "[" => bracketedMember rec
  | _ => wordIdent

/-- One member of an enumeration. -/
def enumMember : Parse Node := do
  let start ← position
  let name ← enumMemberName rec
  let value ← if ← eat "=" then insideBrackets rec .assignment else pure .absent
  node .enumMember start [name, value]

/-- An enumeration that starts at `start`. -/
def enumDeclaration (start : Nat) (isAmbient : Bool) : Parse Node := do
  let isConst ← eatWord "const"
  expectWord "enum"
  let name ← wordIdent
  expect "\x7b"
  let members ← listUntil "\x7d" (enumMember rec)
  node (.enumDecl isAmbient isConst) start [name, .seq members]

/-- An interface that starts at `start`. -/
def interfaceDeclaration (start : Nat) (isAmbient : Bool) : Parse Node := do
  expectWord "interface"
  let name ← wordIdent
  checkTypeName name
  let types ← optionalTypeParameters rec { hasVariance := true, hasConst := false }
  let bounds ← if ← eatWord "extends" then heritageList rec else pure []
  if ← isWord "extends" then
    noteHere (.heritageRepeated "extends")
    expectWord "extends"
    let _ ← heritageList rec
  let bodyStart ← position
  let members ← typeMembers rec
  let body ← typeNode .object bodyStart members
  typeNode (.interface isAmbient) start [name, types, .seq bounds, body]

/-- A name for a type, which starts at `start`. -/
def synonymDeclaration (start : Nat) (isAmbient : Bool) : Parse Node := do
  expectWord "type"
  let name ← wordIdent
  let types ← optionalTypeParameters rec { hasVariance := true, hasConst := false }
  expect "="
  let type ← freshType rec
  semicolon
  typeNode (.synonym isAmbient) start [name, types, type]

/-! ### Namespaces -/

/-- The items in the braces of a namespace. -/
def moduleBlock : Parse Node := do
  let start ← position
  expect "\x7b"
  let items ← collect do
    if (← isAt "\x7d") || (← isAtEnd) then return none
    else return some (← rec .item)
  expect "\x7d"
  node .moduleBlock start items

/-- The further names of a namespace and its body. -/
def namespaceBody : Nat → Parse Node
  | 0 => failHere .tooDeep
  | fuel + 1 => do
    if ← eat "." then
      let start ← position
      let name ← wordIdent
      let body ← namespaceBody fuel
      node .namespaceBody start [name, body]
    else moduleBlock rec

/-- A namespace that starts at `start`, from its name on. -/
def namespaceDeclaration (start : Nat) (isAmbient : Bool) : Parse Node := do
  let name ← wordIdent
  let body ← namespaceBody rec (← get).bound
  node (.moduleDecl "namespace" isAmbient) start [name, body]

/-- A module told of elsewhere, from its name on.  Its items may be left out. -/
def outerModule (start : Nat) (isAmbient : Bool) (word : String) (name : Node) : Parse Node := do
  let body ← if ← isAt "\x7b" then moduleBlock rec
    else do
      semicolon
      pure .absent
  node (.moduleDecl word isAmbient) start [name, body]

/-- `module "x" {}` or `module N {}`, which starts at `start`. -/
def moduleDeclaration (start : Nat) (isAmbient : Bool) : Parse Node := do
  expectWord "module"
  if ← isString then
    let name ← stringLiteral
    outerModule rec start isAmbient "module" name
  else namespaceDeclaration rec start isAmbient

/-- `global {}`, which starts at `start`. -/
def globalDeclaration (start : Nat) (isAmbient : Bool) : Parse Node := do
  let name ← wordIdent
  outerModule rec start isAmbient "" name

/-! ### Any declaration -/

/-- An `async function` is next. -/
def isAsyncFunction : Parse Bool := isWordBefore "async" (isWord "function")

/-- A word that names what is declared is next. -/
def isDeclaredName : Parse Bool :=
  return (← isAnyWord) && !(← isWord "in") && !(← isWord "instanceof")

/-- The declaration of a type or a namespace that starts at `start`, where one is next. -/
def typeDeclaration? (start : Nat) : Parse (Option Node) := do
  if !(← hasTypes) then return none
  else if (← isWordBefore "enum" isDeclaredName) || (← isWordBefore "const" (isWord "enum")) then
    return some (← enumDeclaration rec start false)
  else if ← isWordBefore "abstract" (isWord "class") then
    let _ ← advance
    return some (← classDeclaration rec start false true)
  else if ← isWordBefore "interface" isDeclaredName then
    return some (← interfaceDeclaration rec start false)
  else if ← isWordBefore "type" isDeclaredName then
    return some (← synonymDeclaration rec start false)
  else if ← isWordBefore "module" (return (← isIdent) || (← isString)) then
    return some (← moduleDeclaration rec start false)
  else if ← ahead (do expectWord "namespace"; isIdent) then
    let _ ← advance
    return some (← namespaceDeclaration rec start false)
  else if ← ahead (do expectWord "global"; isAt "\x7b") then
    return some (← globalDeclaration rec start false)
  else return none

/-- A declaration other than a variable statement that starts at `start`, where one is next. -/
def declaration? (start : Nat) : Parse (Option Node) := do
  if (← isWord "function") || (← isAsyncFunction) then
    return some (← functionDeclaration rec start false)
  else if ← isWord "class" then return some (← classDeclaration rec start false false)
  else typeDeclaration? rec start

/-- What `declare` tells of, which starts at `start`; `none` where nothing is declared. -/
def ambientDeclaration? (start : Nat) : Parse (Option Node) := do
  match (← peek).kind with
  | .name "function" => return some (← functionDeclaration rec start true)
  | .name "class" => return some (← classDeclaration rec start true false)
  | .name "const" =>
    if ← ahead (do expectWord "const"; isWord "enum") then
      return some (← enumDeclaration rec start true)
    else return some (← variableStatement rec start .const true)
  | .name "var" => return some (← variableStatement rec start .var true)
  | .name "let" => return some (← variableStatement rec start .lexical true)
  | .name "global" => return some (← globalDeclaration rec start true)
  | .name "abstract" =>
    let _ ← advance
    return some (← classDeclaration rec start true true)
  | .name "enum" => return some (← enumDeclaration rec start true)
  | .name "interface" => return some (← interfaceDeclaration rec start true)
  | .name "module" =>
    if ← isOnNewLine then return none
    else return some (← moduleDeclaration rec start true)
  | .name "namespace" =>
    let _ ← advance
    return some (← namespaceDeclaration rec start true)
  | .name "type" => return some (← synonymDeclaration rec start true)
  | _ => return none

/-- A declaration after `declare`, where one starts. -/
def ambient? (start : Nat) : Parse (Option Node) := fun c =>
  let whole : Parse (Option Node) := do
    if (← get).context.inAmbient then noteHere .misplaced
    expectWord "declare"
    within (fun c => { c with inAmbient := true }) (ambientDeclaration? rec start)
  if c.dialect.hasTypes && c.token.kind = .name "declare" then
    match whole c with
    | .ok (none, _) => .ok (none, c)
    | r => r
  else .ok (none, c)

/-- Any declaration, where one starts. -/
def anyDeclaration? : Parse (Option Node) := do
  let start ← position
  match ← ambient? rec start with
  | some n => return some n
  | none =>
    match ← declaration? rec start with
    | some n => return some n
    | none =>
      match ← variableKind? with
      | some kind => return some (← variableStatement rec start kind false)
      | none => return none

/-! ### Control -/

/-- A statement that is part of another one, where little can be declared. -/
def bodyStatement : Parse Node := do
  let isEnum ← isWordBefore "const" (isWord "enum")
  if (← isWord "function") || (← isWord "class") || (← isWord "let") ||
      ((← isWord "const") && !isEnum) then
    failHere .misplaced
  else rec .statement

/-- The body of a loop. -/
def loopBody : Parse Node :=
  within (fun c => { c with mayBreak := true, mayContinue := true }) (bodyStatement rec)

/-- An expression in parentheses. -/
def parenthesized : Parse Node := do
  expect "("
  let e ← insideBrackets rec .expression
  expect ")"
  return e

/-- `if (a) b else c` -/
def ifStatement (start : Nat) : Parse Node := do
  expectWord "if"
  let test ← parenthesized rec
  let yes ← bodyStatement rec
  let no ← if ← eatWord "else" then bodyStatement rec else pure .absent
  node .ifStmt start [test, yes, no]

/-- `while (a) b` -/
def whileStatement (start : Nat) : Parse Node := do
  expectWord "while"
  let test ← parenthesized rec
  let body ← loopBody rec
  node .whileStmt start [test, body]

/-- `do a while (b)` -/
def doWhileStatement (start : Nat) : Parse Node := do
  expectWord "do"
  let body ← loopBody rec
  expectWord "while"
  let test ← parenthesized rec
  let _ ← eatSemicolon
  node .doWhileStmt start [body, test]

/-- The rest of a loop after its head and `of` or `in`. -/
def loopOver (start : Nat) (isAwait : Bool) (head : Node) : Parse Node := do
  if ← eatWord "of" then
    let object ← insideBrackets rec .assignment
    expect ")"
    let body ← loopBody rec
    node (.forOfStmt isAwait) start [head, object, body]
  else
    if isAwait then failHere .misplaced
    expectWord "in"
    let object ← insideBrackets rec .expression
    expect ")"
    let body ← loopBody rec
    node .forInStmt start [head, object, body]

/-- The rest of a loop after its first part. -/
def loopCounting (start : Nat) (isAwait : Bool) (first : Node) : Parse Node := do
  if isAwait then failHere .misplaced
  expect ";"
  let test ← if ← isAt ";" then pure .absent else insideBrackets rec .expression
  expect ";"
  let step ← if ← isAt ")" then pure .absent else insideBrackets rec .expression
  expect ")"
  let body ← loopBody rec
  node .forStmt start [first, test, step, body]

/-- A type is given to the pattern. -/
def isAscribed (p : Node) : Bool := (p.parts.getLast?.map (!isAbsent ·)).getD false

/-- A loop head binds exactly one pattern, without a value and without a type. -/
def isPlainHead : List Node → Bool
  | [.mk (.declarator _) _ [p, .mk .absent _ _]] => !isAscribed p
  | _ => false

/-- A loop whose head declares variables. -/
def loopDeclaring (start : Nat) (isAwait : Bool) (kind : VarKind) : Parse Node := do
  let headStart ← position
  let found ← declarators rec kind true
  let head ← node (.varDecl kind false) headStart found
  if ← isLoopOver then
    if !isPlainHead found then note .misplaced (head.span.getD .empty)
    if (kind = .resource || kind = .asyncResource) && (← isWord "in") then noteHere .misplaced
    loopOver rec start isAwait head
  else
    if kind = .resource || kind = .asyncResource then failHere .misplaced
    loopCounting rec start isAwait head

/-- The head of a loop is a list or an object. -/
def isPatternHead (head : Node) : Bool :=
  match head.form with
  | .arrayPattern _ | .objectPattern _ => true
  | _ => false

/-- A loop whose head is an expression. -/
def loopAssigning (start : Nat) (isAwait : Bool) : Parse Node := do
  if !isAwait && (← ahead (do
      expectWord "async"
      expectWord "of"
      return !(← isAt "=>"))) then
    failHere .misplaced
  let first ← within (fun c => { c with noIn := true, inBranch := false }) (rec .expression)
  if ← isLoopOver then
    let c ← get
    match toLoopHead c.dialect c.spreadCommas first with
    | .ok head =>
      if (← hasTypes) && (← isWord "in") && isPatternHead head then
        note .misplaced (head.span.getD .empty)
      loopOver rec start isAwait head
    | .error e => throw e
  else loopCounting rec start isAwait first

/-- `for (...) a` -/
def forStatement (start : Nat) : Parse Node := do
  expectWord "for"
  let isAwait ← eatWord "await"
  expect "("
  if ← isAt ";" then loopCounting rec start isAwait .absent
  else
    match ← variableKind? with
    | some kind => loopDeclaring rec start isAwait kind
    | none => loopAssigning rec start isAwait

/-- One clause of a `switch`. -/
def caseClause : Parse Node := do
  let start ← position
  let test ← if ← eatWord "case" then insideBrackets rec .expression
    else do
      expectWord "default"
      pure .absent
  expect ":"
  let statements ← collect do
    if (← isAt "\x7d") || (← isWord "case") || (← isWord "default") || (← isAtEnd) then return none
    else return some (← rec .statement)
  node .caseClause start [test, .seq statements]

/-- `switch (a) { ... }` -/
def switchStatement (start : Nat) : Parse Node := do
  expectWord "switch"
  let subject ← parenthesized rec
  expect "\x7b"
  let cases ← within (fun c => { c with mayBreak := true }) <| collect do
    if ← isAt "\x7d" then return none else return some (← caseClause rec)
  expect "\x7d"
  let isDefault : Node → Bool
    | .mk .caseClause _ (.mk .absent _ _ :: _) => true
    | _ => false
  match (cases.filter isDefault).drop 1 with
  | second :: _ => note .misplaced (second.span.getD .empty)
  | [] => pure ()
  node .switchStmt start [subject, .seq cases]

/-- `catch (a) b` -/
def catchClause : Parse Node := do
  let start ← position
  expectWord "catch"
  let p ← if ← eat "(" then do
      let p ← ascribedPattern rec
      expect ")"
      pure p
    else pure .absent
  let body ← block rec
  node .catchClause start [p, body]

/-- `try a catch b finally c` -/
def tryStatement (start : Nat) : Parse Node := do
  expectWord "try"
  let body ← block rec
  let handler ← if ← isWord "catch" then catchClause rec else pure .absent
  let cleanup ← if ← eatWord "finally" then block rec else pure .absent
  if isAbsent handler && isAbsent cleanup then noteHere .misplaced
  node .tryStmt start [body, handler, cleanup]

/-- `throw a` -/
def throwStatement (start : Nat) : Parse Node := do
  expectWord "throw"
  if ← isOnNewLine then failHere .throwLineBreak
  let e ← insideBrackets rec .expression
  semicolon
  node .throwStmt start [e]

/-- `return a` -/
def returnStatement (start : Nat) : Parse Node := do
  expectWord "return"
  let e ← if (← isAt ";") || (← mayEnd) then pure .absent else insideBrackets rec .expression
  semicolon
  if !(← get).context.inFunction then note .returnOutside ⟨start, (← get).prevEnd⟩
  node .returnStmt start [e]

/-- The label after `break` or `continue`, if there is one. -/
def jumpLabel : Parse Node := do
  if (← isAt ";") || (← mayEnd) then return .absent else label

/-- The label is not one of those around. -/
def isUnknownLabel (c : Context) (label : Node) : Bool :=
  match label.form with
  | .ident name => !c.labels.contains name
  | _ => false

/-- The fault of a label that is none of those around. -/
def labelFault (label : Node) : SyntaxFault :=
  match label.form with
  | .ident name => .unknownLabel name
  | _ => .misplaced

/-- `break a` -/
def breakStatement (start : Nat) : Parse Node := do
  expectWord "break"
  let label ← jumpLabel
  semicolon
  let c := (← get).context
  let span : Span := ⟨start, (← get).prevEnd⟩
  if isUnknownLabel c label then note (labelFault label) span
  else if !c.mayBreak then note .breakOutside span
  node .breakStmt start [label]

/-- `continue a` -/
def continueStatement (start : Nat) : Parse Node := do
  expectWord "continue"
  let label ← jumpLabel
  semicolon
  let c := (← get).context
  let span : Span := ⟨start, (← get).prevEnd⟩
  if !c.mayContinue then note .continueOutside span
  else if isUnknownLabel c label then note (labelFault label) span
  node .continueStmt start [label]

/-- `a: b` -/
def labeledStatement (start : Nat) : Parse Node := do
  let name ← label
  expect ":"
  match name.form with
  | .ident text =>
    if (← get).context.labels.contains text then
      note (.duplicateLabel text) (name.span.getD .empty)
    let body ← within (fun c => { c with labels := text :: c.labels, mayBreak := true })
      (bodyStatement rec)
    node .labeledStmt start [name, body]
  | _ => failHere .identExpected

/-- A statement that is an expression, perhaps after a label. -/
def expressionStatement (start : Nat) : Parse Node := do
  let isLabel ← ahead do
    let _ ← identText
    isAt ":"
  if isLabel then labeledStatement rec start
  else
    let e ← insideBrackets rec .expression
    semicolonOr .statementEnd
    node .exprStmt start [e]

/-- A statement that declares nothing. -/
def plainStatement : Parse Node := do
  let start ← position
  match (← peek).kind with
  | .punct "\x7b" => block rec
  | .punct ";" =>
    let _ ← advance
    node .emptyStmt start []
  | .punct "@" => failHere .decorator
  | .name "if" => ifStatement rec start
  | .name "for" => forStatement rec start
  | .name "while" => whileStatement rec start
  | .name "do" => doWhileStatement rec start
  | .name "switch" => switchStatement rec start
  | .name "try" => tryStatement rec start
  | .name "throw" => throwStatement rec start
  | .name "return" => returnStatement rec start
  | .name "break" => breakStatement start
  | .name "continue" => continueStatement start
  | .name "debugger" =>
    let _ ← advance
    semicolon
    node .debuggerStmt start []
  | .name "with" => failHere .withStatement
  | _ => expressionStatement rec start

/-- Any statement. -/
def statement : Parse Node := do
  match ← anyDeclaration? rec with
  | some n => return n
  | none => plainStatement rec

end RouteMigration.Grammar
