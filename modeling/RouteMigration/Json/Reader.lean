import RouteMigration.Json.Error
import RouteMigration.Json.Value

/-!
# Readers of JSON text

A reader walks over the bytes of a text.  Its faults are of two kinds of place: *here*, after the
bytes that were taken, and *ahead*, after the byte that comes next.

## Main Definitions

* `Json.Input` — what is left of a text, and where it begins
* `Json.Reader` — a step over the input that may fail
* `Json.Reader.text`, `Json.Reader.number` — strings and numbers
* `Json.Reader.value` — a value of bounded depth
* `Json.Reader.run` — reads a whole text
-/

namespace RouteMigration.Json

/-- What is left of a text, and where it begins. -/
structure Input where
  rest : List UInt8
  position : Position := {}
deriving DecidableEq, Repr, Inhabited

namespace Input

/-- The input after its next byte. -/
def tail (i : Input) : Input :=
  match i.rest with
  | [] => i
  | b :: rest => ⟨rest, i.position.after b⟩

/-- The input after its next `n` bytes. -/
def drop : Nat → Input → Input
  | 0, i => i
  | n + 1, i => drop n i.tail

/-- A byte that may stand between the parts of a text. -/
def isBlank (b : UInt8) : Bool := b = 32 || b = 10 || b = 9 || b = 13

/-- How many of the next bytes are blank. -/
def blanks (i : Input) : Nat := (i.rest.takeWhile isBlank).length

end Input

/-- A step over the input that may fail. -/
abbrev Reader := StateT Input (Except Error)

namespace Reader

variable {α : Type}

/-- The byte that comes next, as the character of that number. -/
def peek? : Reader (Option Char) := return (← get).rest.head?.map Char.ofUInt8

/-- Takes the next byte. -/
def advance : Reader Unit := modify Input.tail

/-- Takes the next byte and gives it as the character of that number. -/
def next? : Reader (Option Char) := do
  let c ← peek?
  advance
  return c

/-- Takes the blanks that come next. -/
def skipBlanks : Reader Unit := modify fun i => i.drop i.blanks

/-- The first byte that is not blank; the blanks before it are taken. -/
def peekPart? : Reader (Option Char) := do
  skipBlanks
  peek?

/-- Fails after the bytes that were taken. -/
def failHere (fault : Fault) : Reader α := do
  throw ⟨fault, (← get).position⟩

/-- Fails after the byte that comes next. -/
def failAhead (fault : Fault) : Reader α := do
  throw ⟨fault, (← get).tail.position⟩

/-- More steps than a loop over the input can take, each of which takes a byte. -/
def bound : Reader Nat := return (← get).rest.length + 1

/-- Takes the rest of a word. -/
def word : List Char → Reader Unit
  | [] => return
  | c :: rest => do
    match ← next? with
    | none => failHere .endInValue
    | some d => if d = c then word rest else failHere .wordExpected

/-! ### Numbers -/

/-- Takes the digits that come next. -/
def digits : Reader (List Nat) := do
  let found := ((← get).rest.map Char.ofUInt8).takeWhile Char.isDigit
  modify (·.drop found.length)
  return found.map fun c => c.toNat - 48

/-- Puts digits behind a significand as long as it stays below `2 ^ 64`; also gives how many found
no place. -/
def absorb (significand : Nat) : List Nat → Nat × Nat
  | [] => (significand, 0)
  | d :: rest =>
    let next := significand * 10 + d
    if next < 0x10000000000000000 then absorb next rest else (significand, rest.length + 1)

/-- A decimal that is no double is refused. -/
def finite (d : Decimal) : Reader Number := do
  if d.toFloat.isInf then failHere .numberTooLarge
  return .decimal d

/-- Takes the digits of an exponent as long as it stays below `2 ^ 31`. -/
def exponentTail : Nat → Nat → Reader (Option Nat)
  | 0, exponent => return some exponent
  | n + 1, exponent => do
    match ← peek? with
    | none => return some exponent
    | some c =>
      if c.isDigit then
        advance
        let next := exponent * 10 + (c.toNat - 48)
        if next < 0x80000000 then exponentTail n next else return none
      else return some exponent

/-- Takes the exponent of a decimal, from its mark on. -/
def exponent (d : Decimal) : Reader Number := do
  advance
  let sign ← peek?
  if sign = some '+' || sign = some '-' then advance
  match ← next? with
  | none => failHere .endInValue
  | some c =>
    if !c.isDigit then failHere .invalidNumber
    match ← exponentTail (← bound) (c.toNat - 48) with
    | some e =>
      let shift : Int := if sign = some '-' then -e else e
      finite { d with exponent := d.exponent + shift }
    | none =>
      if d.significand ≠ 0 && sign ≠ some '-' then failHere .numberTooLarge
      let _ ← digits
      return .decimal { d with significand := 0, exponent := 0 }

/-- Takes an exponent if one follows. -/
def exponent? (d : Decimal) : Reader Number := do
  match ← peek? with
  | some 'e' | some 'E' => exponent d
  | _ => finite d

/-- Takes the part of a decimal after its point, from the point on. -/
def fraction (d : Decimal) : Reader Number := do
  advance
  let places ← digits
  if places.isEmpty then
    match ← peek? with
    | none => failHere .endInValue
    | some _ => failAhead .invalidNumber
  let (significand, dropped) := absorb d.significand places
  exponent? { d with
    significand := significand
    exponent := d.exponent - (places.length - dropped : Nat) }

/-- Takes the rest of a number after its whole part. -/
def numberTail (isNegative : Bool) (significand dropped : Nat) : Reader Number := do
  let d : Decimal := ⟨isNegative, significand, dropped⟩
  match ← peek? with
  | some '.' => fraction d
  | some 'e' | some 'E' => exponent d
  | _ =>
    if dropped ≠ 0 then finite d
    else if !isNegative then return .natural significand
    else if 0 < significand && significand ≤ 0x8000000000000000 then return .negative significand
    else return .decimal d

/-- Takes a number, after its sign.  It begins with its only zero or with another digit. -/
def number (isNegative : Bool) : Reader Number := do
  match ← next? with
  | none => failHere .endInValue
  | some '0' =>
    match ← peek? with
    | some c => if c.isDigit then failAhead .invalidNumber else numberTail isNegative 0 0
    | none => numberTail isNegative 0 0
  | some c =>
    if !c.isDigit then failHere .invalidNumber
    let (significand, dropped) := absorb (c.toNat - 48) (← digits)
    numberTail isNegative significand dropped

/-! ### Strings -/

/-- The number that a hexadecimal digit stands for. -/
def hexDigit? (b : UInt8) : Option Nat :=
  let n := b.toNat
  if 48 ≤ n && n ≤ 57 then some (n - 48)
  else if 65 ≤ n && n ≤ 70 then some (n - 55)
  else if 97 ≤ n && n ≤ 102 then some (n - 87)
  else none

/-- Takes four hexadecimal digits. -/
def hexFour : Reader Nat := do
  let four := (← get).rest.take 4
  modify (·.drop four.length)
  if four.length < 4 then failHere .endInString
  match four.mapM hexDigit? with
  | some ds => return ds.foldl (fun n d => 16 * n + d) 0
  | none => failHere .invalidEscape

/-- Takes one byte of the mark before the second half of a character. -/
def halfMark (mark : Char) : Reader Unit := do
  match ← peek? with
  | none => failHere .endInString
  | some c =>
    advance
    if c ≠ mark then failHere .unfinishedEscape

/-- Takes the digits of a `\u` escape, and a second one where the first names half of a
character. -/
def unicodeEscape : Reader Char := do
  let first ← hexFour
  if 0xDC00 ≤ first && first ≤ 0xDFFF then failHere .loneSurrogate
  if first < 0xD800 || 0xDFFF < first then return Char.ofNat first
  halfMark '\\'
  halfMark 'u'
  let second ← hexFour
  if second < 0xDC00 || 0xDFFF < second then failHere .loneSurrogate
  return Char.ofNat ((first - 0xD800) * 0x400 + (second - 0xDC00) + 0x10000)

/-- Takes an escape, after its backslash. -/
def escape : Reader Char := do
  match ← next? with
  | none => failHere .endInString
  | some '"' => return '"'
  | some '\\' => return '\\'
  | some '/' => return '/'
  | some 'b' => return Char.ofNat 8
  | some 'f' => return Char.ofNat 12
  | some 'n' => return '\n'
  | some 'r' => return '\r'
  | some 't' => return '\t'
  | some 'u' => unicodeEscape
  | some _ => failHere .invalidEscape

/-- Takes the bytes of a string and its closing quote, in at most that many steps; those of `done`
come first, in reverse. -/
def textTail : Nat → List UInt8 → Reader (List UInt8)
  | 0, _ => failHere .endInString
  | n + 1, done => do
    match ← next? with
    | none => failHere .endInString
    | some '"' => return done.reverse
    | some '\\' =>
      let c ← escape
      textTail n (c.toString.toUTF8.toList.reverse ++ done)
    | some c =>
      if c.toNat < 32 then failHere .controlCharacter
      textTail n (c.toUInt8 :: done)

/-- Takes a string, after its opening quote. -/
def text : Reader String := do
  let bytes ← textTail (← bound) []
  return (String.fromUTF8? bytes.toByteArray).getD ""

/-! ### Lists and objects -/

/-- Another item of a list follows: anything but `]` at first, and later a comma and an item. -/
def nextItem (isFirst : Bool) : Reader Bool := do
  match ← peekPart? with
  | none => failHere .endInList
  | some ']' => return false
  | some c =>
    if isFirst then return true
    if c ≠ ',' then failAhead .listEndExpected
    advance
    match ← peekPart? with
    | none => failHere .endInValue
    | some ']' => failAhead .trailingComma
    | some _ => return true

/-- Another field of an object follows. -/
def nextField (isFirst : Bool) : Reader Bool := do
  match ← peekPart? with
  | none => failHere .endInObject
  | some '}' => return false
  | some c =>
    if isFirst then
      if c = '"' then return true
      failAhead .keyExpected
    if c ≠ ',' then failAhead .objectEndExpected
    advance
    match ← peekPart? with
    | none => failHere .endInValue
    | some '"' => return true
    | some '}' => failAhead .trailingComma
    | some _ => failAhead .keyExpected

/-- Takes the colon after the name of a field. -/
def colon : Reader Unit := do
  match ← peekPart? with
  | none => failHere .endInObject
  | some ':' => advance
  | some _ => failAhead .colonExpected

/-- The items of a list up to its `]`, at most that many. -/
def items (item : Reader α) : Nat → Bool → Reader (List α)
  | 0, _ => return []
  | n + 1, isFirst => do
    if ← nextItem isFirst then
      let a ← item
      return a :: (← items item n false)
    else return []

/-- The fields of an object up to its `}`, at most that many. -/
def fields (item : Reader α) : Nat → Bool → Reader (List (String × α))
  | 0, _ => return []
  | n + 1, isFirst => do
    if ← nextField isFirst then
      advance
      let name ← text
      colon
      let a ← item
      return (name, a) :: (← fields item n false)
    else return []

/-- A value; `inner` reads the values inside it, unless it may have none. -/
def valueWith (inner : Option (Reader Json)) : Reader Json := do
  match ← peekPart? with
  | none => failHere .endInValue
  | some 'n' => advance; word ['u', 'l', 'l']; return .null
  | some 't' => advance; word ['r', 'u', 'e']; return .bool true
  | some 'f' => advance; word ['a', 'l', 's', 'e']; return .bool false
  | some '-' => advance; return .number (← number true)
  | some '"' => advance; return .string (← text)
  | some '[' =>
    match inner with
    | none => failAhead .tooDeep
    | some inner =>
      advance
      let found ← items inner (← bound) true
      advance
      return .array found
  | some '{' =>
    match inner with
    | none => failAhead .tooDeep
    | some inner =>
      advance
      let found ← fields inner (← bound) true
      advance
      return .object found
  | some c => if c.isDigit then return .number (← number false) else failAhead .valueExpected

/-- A value with at most `depth` brackets around any part of it. -/
def value : Nat → Reader Json
  | 0 => valueWith none
  | depth + 1 => valueWith (some (value depth))

/-- Nothing but blanks is left. -/
def finish : Reader Unit := do
  match ← peekPart? with
  | none => return
  | some _ => failAhead .trailingText

/-- Reads a whole text. -/
def run (reader : Reader α) (text : String) : Except Error α :=
  let whole : Reader α := do
    let a ← reader
    finish
    return a
  StateT.run' whole { rest := text.toUTF8.toList }

end Reader

/-- How many brackets may stand around a part of a text. -/
def depthLimit : Nat := 127

/-- Reads a JSON text. -/
def parse (text : String) : Except Error Json := (Reader.value depthLimit).run text

end RouteMigration.Json
