import RouteMigration.Grammar.Statement

/-!
# Items of modules

Imports, exports, and the statements between them.

## Main Definitions

* `Grammar.importItem` — an import declaration
* `Grammar.exportItem` — an export declaration
* `Grammar.item` — any item
-/

namespace RouteMigration.Grammar

open Parse

variable (rec : Goal → Parse Node)

/-! ### Sources and specifiers -/

/-- The attributes after the source of an import or export, if there are any. -/
def importAttributes : Parse Node := do
  if !(← hasTypes) || (← isOnNewLine) then return .absent
  if (← eatWord "assert") || (← eatWord "with") then objectLiteral rec else return .absent

/-- The module that is imported from, with its attributes, up to the end of the import. -/
def importSource : Parse (Node × Node) := do
  let source ← stringLiteral
  let attributes ← importAttributes rec
  semicolon
  return (source, attributes)

/-- A name given to or by a module: any word, or a string. -/
def moduleName (plain : String → Form) : Parse Node := do
  let start ← position
  if ← isString then stringLiteral
  else
    let text ← wordText
    node (plain text) start []

/-- The word `type` is next, and qualifies the name after it. -/
def isTypeSpecifier : Parse Bool := do
  if !(← hasTypes) then return false
  ahead do
    expectWord "type"
    if ← eatWord "as" then
      -- `type as a` names `type`, but `type as as a` and `type as }` name the type `as`
      if ← eatWord "as" then isAnyWord else return !(← isAnyWord)
    else isAnyWord

/-- Takes `type` before a specifier, which may not be repeated inside `isTypeOnly`. -/
def specifierType (isTypeOnly : Bool) : Parse Bool := do
  if ← isTypeSpecifier then
    if isTypeOnly then noteHere .misplaced
    eatWord "type"
  else return false

/-! ### Imports -/

/-- One name in the braces of an import. -/
def importSpecifier (isTypeOnly : Bool) : Parse Node := do
  let start ← position
  let isType ← specifierType isTypeOnly
  let isNamed := !(← isString)
  let first ← moduleName .ident
  if ← eatWord "as" then
    let name ← ident
    node (.importNamed isType) start [first, name]
  else if isNamed then node (.importNamed isType) start [.absent, first]
  else failHere (.expected "as" (← peek).kind.describe)

/-- The target of `import a =`. -/
def importTarget : Parse Node := do
  let start ← position
  if ← ahead (do expectWord "require"; isAt "(") then
    let _ ← advance
    expect "("
    let source ← stringLiteral
    expect ")"
    typeNode .externalModule start [source]
  else entityName

/-- `import a = b`, after its name. -/
def importEquals (start : Nat) (isExport isTypeOnly : Bool) (name : Node) : Parse Node := do
  expect "="
  let target ← importTarget
  semicolon
  typeNode (.importEquals isExport isTypeOnly) start [name, target]

/-- What has been read of an import up to the name that it binds by default. -/
structure ImportHead where
  isTypeOnly : Bool := false
  phase : ImportPhase := .evaluation
  /-- The name of the default import, if there is one. -/
  binding : Option Node := none

/-- The name after a word that may also be such a name: `from` alone is no name. -/
def isSecondName : Parse Bool := do
  if !(← isIdent) then return false
  if !(← isWord "from") then return true
  ahead do
    expectWord "from"
    isWord "from"

/-- An import after `type`, which may be the name of the default import. -/
def typeImportHead (first : Node) : Parse ImportHead := do
  if (← isAt "*") || (← isAt "\x7b") then return { isTypeOnly := true }
  else if (← isSecondName) || (← ahead (do expectWord "from"; isAt "=")) then
    return { isTypeOnly := true, binding := some (← ident) }
  else return { binding := some first }

/-- An import after the word of a phase, which may be the name of the default import. -/
def phaseImportHead (phase : ImportPhase) (first : Node) : Parse ImportHead := do
  if (← isAt "*") && phase = .deferred then return { phase := phase }
  else if ← isSecondName then return { phase := phase, binding := some (← ident) }
  else return { binding := some first }

/-- An import up to the name that it binds by default. -/
def importHead : Parse ImportHead := do
  if !(← isIdent) then return {}
  let first ← ident
  match first.form with
  | .ident "type" => if ← hasTypes then typeImportHead first else return { binding := some first }
  | .ident "source" => phaseImportHead .source first
  | .ident "defer" => phaseImportHead .deferred first
  | _ => return { binding := some first }

/-- What an import binds beside its default: all names under one, or some of them.  Only an import
that runs the module can pick names, and one of its source binds nothing else. -/
def importBindings (isTypeOnly : Bool) (phase : ImportPhase) : Parse (List Node) := do
  let start ← position
  if phase != .source && (← eat "*") then
    expectWord "as"
    let name ← ident
    return [← node .importNamespace start [name]]
  else if phase = .evaluation && (← eat "\x7b") then
    listUntil "\x7d" (importSpecifier isTypeOnly)
  else return []

/-- The default import of a name. -/
def importDefault (name : Node) : Node := .mk .importDefault name.span [name]

/-- An import declaration. -/
def importItem : Parse Node := do
  let start ← position
  expectWord "import"
  if ← isString then
    let (source, attributes) ← importSource rec
    node (.importDecl false .evaluation) start [.seq [], source, attributes]
  else
    let head ← importHead
    match head.binding, (← hasTypes) && (← isAt "=") with
    | some name, true => importEquals start false head.isTypeOnly name
    | binding, _ =>
      if binding.isSome && !(← isWord "from") then expect ","
      let named ← importBindings head.isTypeOnly head.phase
      expectWord "from"
      let (source, attributes) ← importSource rec
      let all := (binding.map importDefault).toList ++ named
      node (.importDecl head.isTypeOnly head.phase) start [.seq all, source, attributes]

/-! ### Exports -/

/-- One name in the braces of an export. -/
def exportSpecifier (isTypeOnly : Bool) : Parse Node := do
  let start ← position
  let isType ← specifierType isTypeOnly
  let first ← moduleName .exported
  if ← eatWord "as" then
    let name ← moduleName .ident
    node (.exportSpecifier isType) start [first, name]
  else node (.exportSpecifier isType) start [first, .absent]

/-- The fault of a name that cannot be exported from this module. -/
def exportFault? : Node → Option SyntaxError
  | .mk (.exportSpecifier _) _ (name :: _) =>
    match name.form with
    | .exported text =>
      if TokenKind.keywords.contains text || text = "package" then
        some ⟨.reservedWord text, name.span.getD .empty⟩
      else none
    | _ => some ⟨.misplaced, name.span.getD .empty⟩
  | _ => none

/-- An export list, with its source if it has one. -/
def exportList (start : Nat) (isTypeOnly : Bool) : Parse Node := do
  expect "\x7b"
  let specifiers ← listUntil "\x7d" (exportSpecifier isTypeOnly)
  if ← eatWord "from" then
    let (source, attributes) ← importSource rec
    node (.exportNamed isTypeOnly) start [.seq specifiers, source, attributes]
  else
    match specifiers.findSome? exportFault? with
    | some e => note e.fault e.span
    | none => pure ()
    let _ ← eatSemicolon
    node (.exportNamed isTypeOnly) start [.seq specifiers, .absent, .absent]

/-- An export of everything that another module exports. -/
def exportAll (start : Nat) (isTypeOnly : Bool) : Parse Node := do
  let starStart ← position
  expect "*"
  if ← eatWord "as" then
    let name ← moduleName .ident
    let specifier ← node .exportNamespace starStart [name]
    expectWord "from"
    let (source, attributes) ← importSource rec
    node (.exportNamed isTypeOnly) start [.seq [specifier], source, attributes]
  else
    expectWord "from"
    let (source, attributes) ← importSource rec
    node (.exportAll isTypeOnly) start [source, attributes]

/-- What follows `export default`. -/
def exportDefault (start : Nat) : Parse Node := do
  let declStart ← position
  if (← isWord "function") || (← isAsyncFunction) then
    let isAsync ← eatWord "async"
    let f ← functionWithName rec declStart isAsync
    node .exportDefaultDecl start [f]
  else if ← isWord "class" then
    let c ← classExpression rec declStart false
    node .exportDefaultDecl start [c]
  else if (← hasTypes) && (← isWordBefore "abstract" (isWord "class")) then
    let _ ← advance
    let c ← classExpression rec declStart true
    node .exportDefaultDecl start [c]
  else if (← hasTypes) && (← isWord "interface") then
    let i ← interfaceDeclaration rec declStart false
    node .exportDefaultDecl start [i]
  else
    let e ← insideBrackets rec .assignment
    semicolon
    node .exportDefaultExpr start [e]

/-- A declaration of a type or a namespace right after `export`, where the word that begins it may
end a line. -/
def exportedType : Parse Node := do
  let start ← position
  match (← peek).kind with
  | .name "abstract" =>
    let _ ← advance
    classDeclaration rec start false true
  | .name "enum" => enumDeclaration rec start false
  | .name "interface" => interfaceDeclaration rec start false
  | .name "module" =>
    if ← isOnNewLine then failHere .misplaced else moduleDeclaration rec start false
  | .name "namespace" =>
    let _ ← advance
    namespaceDeclaration rec start false
  | .name "type" => synonymDeclaration rec start false
  | _ => failHere .misplaced

/-- A declaration after `export`. -/
def exportedDeclaration : Parse Node := do
  let start ← position
  let typed ← hasTypes
  if (← isWord "function") || (← isAsyncFunction) then functionDeclaration rec start false
  else if ← isWord "class" then classDeclaration rec start false false
  else if typed && (← ahead (do expectWord "const"; isWord "enum")) then
    enumDeclaration rec start false
  else
    match ← variableKind? with
    | some .var => variableStatement rec start .var false
    | some .const => variableStatement rec start .const false
    | some .lexical => variableStatement rec start .lexical false
    | _ => failHere (.expected "\x7b" (← peek).kind.describe)

/-- An export other than of a declaration of types, after `export`. -/
def plainExport (start : Nat) : Parse Node := do
  let typed ← hasTypes
  if typed && (← eatWord "import") then
    let isTypeOnly ← if ← ahead (do expectWord "type"; isIdent) then eatWord "type"
      else pure false
    let name ← wordIdent
    importEquals start true isTypeOnly name
  else if typed && (← eat "=") then
    let e ← insideBrackets rec .expression
    semicolon
    node .exportAssign start [e]
  else if typed && (← eatWord "as") then
    expectWord "namespace"
    let name ← label
    semicolon
    typeNode .namespaceExport start [name]
  else
    let isTypeOnly ← if typed then eatWord "type" else pure false
    if ← isAt "*" then exportAll rec start isTypeOnly
    else if ← isAt "\x7b" then exportList rec start isTypeOnly
    else if isTypeOnly then failHere (.expected "\x7b" (← peek).kind.describe)
    else if ← eatWord "default" then exportDefault rec start
    else
      let d ← exportedDeclaration rec
      node .exportDecl start [d]

/-- An export declaration. -/
def exportItem : Parse Node := do
  let start ← position
  expectWord "export"
  let declStart ← position
  match ← ambient? rec declStart with
  | some d => node .exportDecl start [d]
  | none =>
    if ← hasTypes then
      let _ ← eatWord "declare"
      match ← leniently (attempt (exportedType rec)) with
      | some d => node .exportDecl start [d]
      | none => plainExport rec start
    else plainExport rec start

/-- A statement that begins with `import`: a call, or what `import.meta` begins.  A semicolon need
not end it. -/
def importStatement : Parse Node := do
  let start ← position
  let e ← insideBrackets rec .expression
  let _ ← eatSemicolon
  node .exprStmt start [e]

/-- Any item of a module or a namespace. -/
def item : Parse Node := do
  if ← isWord "export" then exportItem rec
  else if ← isWord "import" then
    if ← ahead (do expectWord "import"; return (← isAt "(") || (← isAt ".")) then
      importStatement rec
    else importItem rec
  else statement rec

end RouteMigration.Grammar
