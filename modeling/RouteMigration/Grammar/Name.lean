import RouteMigration.Grammar.Cursor

/-!
# Names and keys

## Main Definitions

* `Grammar.identText` — an identifier, which is no reserved word
* `Grammar.wordText` — any word
* `Grammar.propertyKey` — the key of a property or a member
-/

namespace RouteMigration.Grammar

open Parse

/-- Words that cannot be identifiers in a module; reading goes on after them. -/
def refusedNames : List String := "static" :: TokenKind.strictWords

/-- Takes an identifier; `await` is one where declarations only tell what exists elsewhere. -/
def identText : Parse String := do
  let c ← get
  match c.token.kind with
  | .name text =>
    if TokenKind.keywords.contains text then failHere .identExpected
    else if text = "await" && !c.context.inAmbient then failHere (.reservedWord text)
    else
      if refusedNames.contains text && text != "await" || text = "arguments" && c.context.inField
      then noteHere (.reservedWord text)
      let _ ← advance
      return text
  | _ => failHere .identExpected

/-- The word cannot be bound in a module. -/
def isUnbindable (text : String) : Bool := text = "eval" || text = "arguments"

/-- Takes an identifier that is bound. -/
def boundText : Parse String := do
  match (← peek).kind with
  | .name text => if isUnbindable text then noteHere (.reservedWord text)
  | _ => pure ()
  identText

/-- Takes an identifier that a pattern binds; with types, `this` is one too. -/
def patternText : Parse String := do
  if (← hasTypes) && (← eatWord "this") then return "this" else boundText

/-- An identifier that names a declaration. -/
def ident : Parse Node := do
  let start ← position
  let text ← boundText
  node (.ident text) start []

/-- An identifier that is a label. -/
def label : Parse Node := do
  let start ← position
  let text ← identText
  node (.ident text) start []

/-- Takes any word. -/
def wordText : Parse String := do
  match (← peek).kind with
  | .name text =>
    let _ ← advance
    return text
  | _ => failHere .identExpected

/-- Any word, as a key. -/
def word : Parse Node := do
  let start ← position
  let text ← wordText
  node (.word text) start []

/-- Any word that names a declaration. -/
def wordIdent : Parse Node := do
  let start ← position
  let text ← wordText
  node (.ident text) start []

/-- The next token is a word that is not reserved. -/
def isIdent : Parse Bool := do
  match (← peek).kind with
  | .name text => return !TokenKind.isReserved text
  | _ => return false

/-- The next token is a word of any sort. -/
def isAnyWord : Parse Bool := do
  match (← peek).kind with
  | .name _ => return true
  | _ => return false

/-- The next token is a string. -/
def isString : Parse Bool := do
  match (← peek).kind with
  | .str _ _ => return true
  | _ => return false

/-- The next token is this word, and what follows it on its line satisfies `p`. -/
def isWordBefore (text : String) (p : Parse Bool) : Parse Bool := ahead do
  expectWord text
  return !(← isOnNewLine) && (← p)

/-- The next token may follow a modifier on its line. -/
def followsModifier : Parse Bool := do
  let t ← peek
  if t.afterNewline then return false
  match t.kind with
  | .name _ | .privateName _ | .str _ _ | .num _ | .bigInt _ => return true
  | .punct text => return ["[", "\x7b", "*", "..."].contains text
  | _ => return false

/-- The next token is this word as a modifier of what follows it. -/
def isModifier (text : String) : Parse Bool := do
  if !(← hasTypes) then return false
  ahead do
    expectWord text
    followsModifier

/-- Takes this word if it is a modifier of what follows it. -/
def eatModifier (text : String) : Parse Bool := do
  if ← isModifier text then eatWord text else return false

/-- A string. -/
def stringLiteral : Parse Node := do
  let start ← position
  match (← peek).kind with
  | .str value raw =>
    let _ ← advance
    node (.str value (some raw)) start []
  | kind => failHere (.unexpected kind.describe "a string literal")

variable (rec : Goal → Parse Node)

/-- An expression without a comma of which `in` is no end. -/
def plainValue : Parse Node := within (fun c => { c with noIn := false }) (rec .assignment)

/-- A key in brackets. -/
def computedKey : Parse Node := do
  let start ← position
  expect "["
  let e ← plainValue rec
  expect "]"
  node .computedName start [e]

/-- The key of a property: a word, a literal, or an expression in brackets. -/
def propertyKey : Parse Node := do
  let start ← position
  match (← peek).kind with
  | .name text =>
    let _ ← advance
    node (.word text) start []
  | .str value raw =>
    let _ ← advance
    node (.str value (some raw)) start []
  | .num raw =>
    let _ ← advance
    node (.num raw) start []
  | .bigInt raw =>
    let _ ← advance
    node (.bigInt raw) start []
  | .punct "[" => computedKey rec
  | kind =>
    failHere (.unexpected kind.describe
      "identifier, string literal, numeric literal or [ for the computed key")

/-- The key of a class member, which may be private. -/
def memberKey : Parse Node := do
  let start ← position
  match (← peek).kind with
  | .privateName text =>
    if text = "constructor" then noteHere .constructorName
    let _ ← advance
    node (.privateName text) start []
  | _ => propertyKey rec

end RouteMigration.Grammar
