import RouteMigration.Grammar.Item

/-!
# Reading a module

The rules of the grammar refer to each other through a reader for all goals.  Here that reader is
given: the rules with themselves put in, as deep as the text is long.

## Main Definitions

* `Grammar.rule` — the rule of each goal
* `Source` — a module with its comments and the length of its text
* `Source.read` — reads a text
-/

namespace RouteMigration

namespace Grammar

open Parse

/-- The rule of each goal. -/
def rule (rec : Goal → Parse Node) : Goal → Parse Node
  | .item => item rec
  | .statement => statement rec
  | .expression => expression rec
  | .assignment => assignment rec
  | .binary level => binary rec level
  | .unary => unary rec
  | .leftSide => leftSide rec
  | .callee => callee rec
  | .pattern => pattern rec
  | .type => type rec
  | .typeOperand => typeOperand rec
  | .element => element rec

/-- Reads a goal whose rules nest at most `depth` times. -/
def goal : Nat → Goal → Parse Node
  | 0, _ => failHere .tooDeep
  | depth + 1, g => rule (goal depth) g

/-- The items of a module. -/
def items (rec : Goal → Parse Node) : Parse (List Node) :=
  collect do
    if ← isAtEnd then return none else return some (← rec .item)

/-- A property with a default that is part of no pattern. -/
def strayDefaults : Node → List Span :=
  Node.fold fun form span parts =>
    let inner := parts.flatMap (·.2)
    match form with
    | .assignProperty => span.getD .empty :: inner
    | _ => inner

/-- Takes the first line of a text if it names a program to run the text. -/
def hashbang? : Parse (Option String) := do
  let c ← get
  match Lexer.hashbang? c.rest with
  | some (line, rest) =>
    set (c.skipLine (2 + Lexer.byteLength line) rest)
    return some (String.ofList line)
  | none => return none

/-- A whole module.  Its range begins at its first token, or with the line that names a program to
run it. -/
def module (depth : Nat) : Parse Module := do
  let hashbang ← hashbang?
  let start ← if hashbang.isSome then pure 0 else position
  let found ← items (goal depth)
  modify Cursor.keepComments
  match found.flatMap strayDefaults with
  | span :: _ => note .shorthandDefault span
  | [] => pure ()
  return { span := some ⟨start, (← get).prevEnd⟩, hashbang := hashbang, items := found }

end Grammar

/-- A module that was read, with what was read beside it. -/
structure Source where
  module : Module
  comments : Comments
  /-- The length of the text in bytes. -/
  size : Nat
deriving Inhabited

namespace Source

/-- The text without a byte order mark at its start. -/
def withoutMark : List Char → List Char
  | c :: cs => if c.toNat = 0xFEFF then cs else c :: cs
  | [] => []

/-- Reads a text.  Of the faults that reading goes on after, the first refuses the text. -/
def read (dialect : Dialect) (text : String) : Except SyntaxError Source :=
  let chars := withoutMark text.toList
  let size := Lexer.byteLength chars
  match Grammar.module (16 * size + 64) (Cursor.start dialect size chars) with
  | .error e => .error e
  | .ok (m, c) =>
    match c.faults.getLast? with
    | some e => .error e
    | none =>
      .ok { module := m
            comments :=
              { leading := c.comments.leading.reverse, trailing := c.comments.trailing.reverse }
            size := size }

end Source

end RouteMigration
