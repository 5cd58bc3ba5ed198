import RouteMigration.Json.Value
import RouteMigration.Text.Quoted
import RouteMigration.Text.Words

/-!
# Writing JSON

## Main Definitions

* `Json.quote` — a string as JSON text
* `Json.pretty` — a value with a line for each of its parts
-/

namespace RouteMigration.Json

/-- The characters that stand for `c` in a string. -/
def escapeChar (c : Char) : List Char :=
  let n := c.toNat
  if c == '"' then ['\\', '"']
  else if c == '\\' then ['\\', '\\']
  else if c == '\n' then ['\\', 'n']
  else if c == '\r' then ['\\', 'r']
  else if c == '\t' then ['\\', 't']
  else if n == 8 then ['\\', 'b']
  else if n == 12 then ['\\', 'f']
  else if n < 32 then ['\\', 'u', '0', '0'] ++ Text.Quoted.hexPair n
  else [c]

/-- A string as JSON text. -/
def quote (s : String) : String := String.ofList ('"' :: s.toList.flatMap escapeChar ++ ['"'])

/-- A number as JSON text. -/
def Number.text : Number → String
  | natural n => toString n
  | negative n => "-" ++ toString n
  | decimal d => Text.floatText d.toFloat

/-- The line break before a part that is `depth` levels deep. -/
def lineBreak (depth : Nat) : String := "\n" ++ String.ofList (List.replicate (2 * depth) ' ')

/-- Parts on lines of their own, `depth` levels deep, between brackets. -/
def bracketed (opening closing : String) (depth : Nat) (parts : List String) : String :=
  if parts.isEmpty then opening ++ closing
  else opening ++ lineBreak (depth + 1) ++ Text.joinWith ("," ++ lineBreak (depth + 1)) parts ++
    lineBreak depth ++ closing

mutual

/-- A value that is `depth` levels deep, with a line for each of its parts. -/
def prettyAt (depth : Nat) : Json → String
  | null => "null"
  | bool b => if b then "true" else "false"
  | number n => n.text
  | string s => quote s
  | array items => bracketed "[" "]" depth (prettyItems (depth + 1) items)
  | object fields => bracketed "\x7b" "\x7d" depth (prettyFields (depth + 1) fields)

/-- The items of a list. -/
def prettyItems (depth : Nat) : List Json → List String
  | [] => []
  | v :: rest => prettyAt depth v :: prettyItems depth rest

/-- The fields of an object. -/
def prettyFields (depth : Nat) : List (String × Json) → List String
  | [] => []
  | (name, v) :: rest => (quote name ++ ": " ++ prettyAt depth v) :: prettyFields depth rest

end

/-- A value with a line for each of its parts. -/
def pretty (v : Json) : String := prettyAt 0 v

end RouteMigration.Json
