import RouteMigration.Source.Dialect
import RouteMigration.Source.Lexer
import RouteMigration.Tree.Node

/-!
# A place in a source text

The grammar reads a text through a cursor that always holds the next token.  The token is read
in the ordinary way, even where the grammar will ask for a stretch of a template or an element
instead; nothing is lost by that, since a token and the comments before it only count once it is
taken.

## Main Definitions

* `Cursor` — what is left of a text, its next token, and what has been found so far
* `Parse` — a reader that moves a cursor or fails
* `Goal` — the constructs that refer to each other, so that the rules for them can be stated one
  by one over a reader `rec` for all of them
* `Parse.collect`, `Parse.iterate` — repetition, bounded by the length of the text
-/

namespace RouteMigration

/-- What surrounds a place in the grammar. -/
structure Context where
  inFunction : Bool := false
  inAsync : Bool := false
  inGenerator : Bool := false
  /-- In the parameters of a function, where nothing is awaited or yielded. -/
  inParameters : Bool := false
  /-- `new.target` has a meaning: a function that is no arrow function is around. -/
  hasTarget : Bool := false
  /-- `super` has a meaning: a class or an object is around. -/
  hasSuper : Bool := false
  /-- In the value of a field or a static block, where there are no `arguments`. -/
  inField : Bool := false
  mayBreak : Bool := false
  mayContinue : Bool := false
  /-- The labels around. -/
  labels : List String := []
  /-- `in` ends the expression. -/
  noIn : Bool := false
  /-- Between `?` and `:` of a conditional expression. -/
  inBranch : Bool := false
  /-- `extends` ends the type. -/
  noExtends : Bool := false
  /-- In a declaration that only tells what exists elsewhere. -/
  inAmbient : Bool := false

/-- A place in a source text. -/
structure Cursor where
  dialect : Dialect
  /-- The length of the text in bytes. -/
  size : Nat
  /-- No token has been taken yet. -/
  atStart : Bool := true
  /-- Where the last token taken ends. -/
  prevEnd : Nat := 0
  /-- The characters after the last token taken. -/
  rest : List Char
  token : Token
  /-- The characters from the start of the token. -/
  here : List Char
  /-- The characters after the token. -/
  after : List Char
  /-- The comments of the tokens taken, the last first. -/
  comments : Comments := {}
  /-- The starts of lists and objects that end in a spread element and a comma. -/
  spreadCommas : List Nat := []
  /-- Faults that reading went on after, the last first. -/
  faults : List SyntaxError := []
  context : Context := {}

/-- A reader that moves a cursor or fails. -/
abbrev Parse := StateT Cursor (Except SyntaxError)

/-- The constructs that refer to each other. -/
inductive Goal where
  /-- An item of a module or a namespace. -/
  | item
  | statement
  /-- Expressions separated by commas. -/
  | expression
  /-- An expression without a comma. -/
  | assignment
  /-- Operands joined by operators that bind more tightly than the given level. -/
  | binary (level : Nat)
  | unary
  /-- An operand with its members and calls. -/
  | leftSide
  /-- What `new` applies to. -/
  | callee
  /-- A pattern that binds names. -/
  | pattern
  | type
  /-- A type without an infix operator. -/
  | typeOperand
  /-- An element or a fragment. -/
  | element

namespace Cursor

/-- More than the number of characters that are left, and so more often than a list can go on. -/
def bound (c : Cursor) : Nat := c.size + 1 - c.prevEnd

/-- Reads the token after the last one taken. -/
def look (c : Cursor) (ownsLine ownsBlock : Bool) : Cursor :=
  let (token, here, after) := Lexer.token c.bound ownsLine ownsBlock c.atStart c.prevEnd c.rest
  { c with token := token, here := here, after := after }

/-- The start of a text of `size` bytes. -/
def start (dialect : Dialect) (size : Nat) (text : List Char) : Cursor :=
  look { dialect := dialect, size := size, rest := text, token := default, here := text,
         after := text } true true

/-- The start of a text after its first line, of which `width` bytes and `rest` are known. -/
def skipLine (c : Cursor) (width : Nat) (rest : List Char) : Cursor :=
  look { c with atStart := false, prevEnd := width, rest := rest } true true

/-- Keeps the comments before the token: those that lead it and those that trail the token before.
At the end of the text there is no token to lead, unless there is none at all. -/
def keepComments (c : Cursor) : Cursor :=
  let t := c.token
  let trailing := t.trailing.map (c.prevEnd, ·)
  let leading := t.leading.map (t.span.start, ·)
  let comments : Comments :=
    if t.kind = .endOfText then
      if c.atStart then
        { c.comments with leading := leading.reverse ++ c.comments.leading }
      else
        let last := t.leading.map (c.prevEnd, ·)
        { c.comments with trailing := last.reverse ++ (trailing.reverse ++ c.comments.trailing) }
    else
      { leading := leading.reverse ++ c.comments.leading
        trailing := trailing.reverse ++ c.comments.trailing }
  { c with comments := comments }

/-- The place after a token of the given kind that ends at `stop`, before `rest`. -/
def take (c : Cursor) (kind : TokenKind) (stop : Nat) (rest : List Char) : Cursor :=
  look { c.keepComments with atStart := false, prevEnd := stop, rest := rest }
    kind.takesLineComment kind.takesBlockComment

/-- The range that a fault at the next token has: at the end of the text, where the last token
ends. -/
def faultSpan (c : Cursor) : Span :=
  if c.token.kind = .endOfText then ⟨c.prevEnd, c.prevEnd⟩ else c.token.span

end Cursor

namespace Parse

variable {α : Type}

/-- Fails over a range. -/
def failAt (fault : SyntaxFault) (span : Span) : Parse α :=
  throw ⟨fault, span⟩

/-- Fails at the next token; where none could be read, that is why. -/
def failHere (fault : SyntaxFault) : Parse α := do
  let c ← get
  match c.token.kind with
  | .invalid error => throw error
  | _ => throw ⟨fault, c.faultSpan⟩

/-- Goes on after a fault, which still refuses the text. -/
def note (fault : SyntaxFault) (span : Span) : Parse Unit :=
  modify fun c => { c with faults := ⟨fault, span⟩ :: c.faults }

/-- Goes on after a fault at the next token. -/
def noteHere (fault : SyntaxFault) : Parse Unit := do
  note fault (← get).faultSpan

/-- The next token. -/
def peek : Parse Token := return (← get).token

/-- Where the next token starts. -/
def position : Parse Nat := return (← get).token.span.start

/-- Takes the next token. -/
def advance : Parse Token := do
  let c ← get
  match c.token.kind with
  | .invalid error => throw error
  | .endOfText => throw ⟨.endOfText, c.faultSpan⟩
  | kind =>
    set (c.take kind c.token.span.stop c.after)
    return c.token

/-- A node of the given form from `start` to the last token taken. -/
def node (form : Form) (start : Nat) (parts : List Node) : Parse Node := do
  return .mk form (some ⟨start, (← get).prevEnd⟩) parts

/-- The next token is this operator or bracket. -/
def isAt (text : String) : Parse Bool :=
  return (← get).token.kind = .punct text

/-- The next token is this word. -/
def isWord (text : String) : Parse Bool :=
  return (← get).token.kind = .name text

/-- The next token is the first on its line. -/
def isOnNewLine : Parse Bool := return (← get).token.afterNewline

/-- The next token is the end of the text. -/
def isAtEnd : Parse Bool := return (← get).token.kind = .endOfText

/-- Takes this operator or bracket if it is next. -/
def eat (text : String) : Parse Bool := do
  if ← isAt text then
    let _ ← advance
    return true
  else return false

/-- Takes this word if it is next. -/
def eatWord (text : String) : Parse Bool := do
  if ← isWord text then
    let _ ← advance
    return true
  else return false

/-- Takes this operator or bracket, which must be next. -/
def expect (text : String) : Parse Unit := do
  if !(← eat text) then
    failHere (.expected text (← get).token.kind.describe)

/-- Takes this word, which must be next. -/
def expectWord (text : String) : Parse Unit := do
  if !(← eatWord text) then
    failHere (.expected text (← get).token.kind.describe)

/-- Tries a reader; where it fails, nothing has happened. -/
def attempt (p : Parse α) : Parse (Option α) := fun c =>
  match p c with
  | .ok (a, c') => .ok (some a, c')
  | .error _ => .ok (none, c)

/-- Tells what a reader would find, without moving. -/
def ahead (p : Parse Bool) : Parse Bool := fun c =>
  match p c with
  | .ok (b, _) => .ok (b, c)
  | .error _ => .ok (false, c)

/-- Reads without telling of the faults that reading goes on after. -/
def leniently (p : Parse α) : Parse α := do
  let faults := (← get).faults
  let a ← p
  modify fun c => { c with faults := faults }
  return a

/-- Reads in another context. -/
def within (change : Context → Context) (p : Parse α) : Parse α := do
  let saved := (← get).context
  modify fun c => { c with context := change c.context }
  let a ← p
  modify fun c => { c with context := saved }
  return a

/-- Type ascriptions are understood. -/
def hasTypes : Parse Bool := return (← get).dialect.hasTypes

/-- A statement may end here without a semicolon. -/
def mayEnd : Parse Bool := do
  let c ← get
  return c.token.kind = .punct "\x7d" || c.token.kind = .endOfText || c.token.afterNewline

/-- The end of a statement, or the given fault. -/
def semicolonOr (fault : SyntaxFault) : Parse Unit := do
  if !(← eat ";") then
    if !(← mayEnd) then failHere fault

/-- The end of a statement. -/
def semicolon : Parse Unit := semicolonOr .semicolonExpected

/-- The end of a statement, if it is here. -/
def eatSemicolon : Parse Bool := do
  if ← eat ";" then return true else mayEnd

/-- Runs a step until it answers `none`, at most `n` times. -/
def collectUpTo (step : Parse (Option α)) : Nat → Parse (List α)
  | 0 => return []
  | n + 1 => do
    match ← step with
    | none => return []
    | some a => return a :: (← collectUpTo step n)

/-- Runs a step until it answers `none`. -/
def collect (step : Parse (Option α)) : Parse (List α) := do
  collectUpTo step (← get).bound

/-- Repeats a step on a value until it answers `none`, at most `n` times. -/
def iterateUpTo (step : α → Parse (Option α)) : Nat → α → Parse α
  | 0, a => return a
  | n + 1, a => do
    match ← step a with
    | none => return a
    | some b => iterateUpTo step n b

/-- Repeats a step on a value until it answers `none`. -/
def iterate (step : α → Parse (Option α)) (a : α) : Parse α := do
  iterateUpTo step (← get).bound a

/-- Reads elements separated by commas up to a closing bracket, which it takes, and tells whether
a comma stands after the last element. -/
def listWithComma (close : String) (element : Parse α) : Parse (List α × Bool) := do
  let items ← collect do
    if ← isAt close then return none
    let a ← element
    let isLast ← isAt close
    if !isLast then expect ","
    return some (a, !isLast)
  expect close
  return (items.map (·.1), (items.getLast?.map (·.2)).getD false)

/-- Reads elements separated by commas up to a closing bracket, which it takes.  A comma may stand
after the last element. -/
def listUntil (close : String) (element : Parse α) : Parse (List α) :=
  return (← listWithComma close element).1

end Parse

end RouteMigration
