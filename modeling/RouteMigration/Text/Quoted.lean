/-!
# Quoted text

How a text is written as a string literal that no source text had before.

## Main Definitions

* `Quoted.escape` — one character inside quotes
* `quoted` — a text in the quotes that need fewer escapes
-/

namespace RouteMigration.Text

namespace Quoted

/-- The hexadecimal digit of a number below sixteen. -/
def hexDigit (n : Nat) : Char :=
  if n < 10 then Char.ofNat (48 + n) else Char.ofNat (87 + n)

/-- Two hexadecimal digits. -/
def hexPair (n : Nat) : List Char := [hexDigit (n / 16 % 16), hexDigit (n % 16)]

/-- The text begins with a digit. -/
def startsWithDigit : List Char → Bool
  | c :: _ => c.isDigit
  | [] => false

/-- The characters that stand for `c` between quotes, before `rest`. -/
def escape (quote c : Char) (rest : List Char) : List Char :=
  let n := c.toNat
  if c == quote then ['\\', c]
  else if c == '\\' then ['\\', '\\']
  else if c == '\n' then ['\\', 'n']
  else if c == '\r' then ['\\', 'r']
  else if n == 8 then ['\\', 'b']
  else if n == 12 then ['\\', 'f']
  else if n == 11 then ['\\', 'v']
  else if n == 9 then [c]
  else if n == 0 then
    if startsWithDigit rest then ['\\', 'x', '0', '0'] else ['\\', '0']
  else if n < 0x20 then '\\' :: 'x' :: hexPair n
  else if n == 0x2028 then "\\u2028".toList
  else if n == 0x2029 then "\\u2029".toList
  else if n == 0xFEFF then "\\uFEFF".toList
  else [c]

/-- The characters of a text between quotes. -/
def body (quote : Char) : List Char → List Char
  | [] => []
  | c :: rest => escape quote c rest ++ body quote rest

/-- Single quotes where the text holds more double quotes than single ones. -/
def quoteFor (cs : List Char) : Char :=
  if cs.count '"' > cs.count '\'' then '\'' else '"'

end Quoted

/-- The text as a string literal. -/
def quoted (s : String) : String :=
  let quote := Quoted.quoteFor s.toList
  String.ofList (quote :: Quoted.body quote s.toList ++ [quote])

end RouteMigration.Text
