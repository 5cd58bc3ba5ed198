import RouteMigration.Source.SyntaxError
import RouteMigration.Text.Shown
import RouteMigration.Text.Words

/-!
# Excerpts of a refused source text

A syntax error is shown with the lines it is on.  An error on one line is underlined, and an arrow
leads from its middle to the message; one that goes over several lines has a bracket beside its
first and last line.

## Main Definitions

* `TextLine`, `textLines` — the lines of a text
* `Label` — a range of characters and a message
* `Label.excerpt` — the lines that show it
* `SyntaxError.report` — the report of a syntax error
-/

namespace RouteMigration

/-- A line of a text. -/
structure TextLine where
  /-- How many characters of the text stand before it. -/
  start : Nat
  /-- Its characters, the line break included. -/
  chars : List Char
deriving DecidableEq, Repr, Inhabited

namespace TextLine

/-- The characters that end a line. -/
def isBreak (c : Char) : Bool :=
  let n := c.toNat
  (10 ≤ n && n ≤ 13) || n = 0x85 || n = 0x2028 || n = 0x2029

/-- Cuts a text after each line break; a carriage return and a line feed are one. -/
def split : List Char → List (List Char)
  | [] => []
  | '\r' :: '\n' :: rest => ['\r', '\n'] :: split rest
  | c :: rest =>
    if isBreak c then [c] :: split rest
    else match split rest with
      | [] => [[c]]
      | line :: lines => (c :: line) :: lines

/-- Gives each line the number of characters before it. -/
def placed (start : Nat) : List (List Char) → List TextLine
  | [] => []
  | line :: lines => ⟨start, line⟩ :: placed (start + line.length) lines

/-- The characters of a line without the blanks at its end. -/
def content (l : TextLine) : List Char := (l.chars.reverse.dropWhile Text.isBlank).reverse

/-- How many columns a character takes, where `column` characters stand before it.  A tab leads to
the next column that is divisible by four. -/
def width (c : Char) (column : Nat) : Nat :=
  if c == '\t' then (column / 4 + 1) * 4 - column
  else if Text.isBlank c then 1
  else Text.columns c

/-- The character as it is shown, where `column` characters stand before it. -/
def shownAt (column : Nat) (c : Char) : List Char :=
  if Text.isBlank c then List.replicate (width c column) ' ' else [c]

/-- The line as it is shown. -/
def shown (l : TextLine) : String :=
  String.ofList (l.content.zipIdx.flatMap fun (c, column) => shownAt column c)

/-- A cell under each of the first `count` characters: its first column holds the first character
of `cell`, the others the second. -/
def under (l : TextLine) (count : Nat) (cell : Nat → Char × Char) : String :=
  let content := l.content
  String.ofList <| (List.range count).flatMap fun column =>
    let (first, other) := cell column
    match (content[column]?.map fun c => width c column).getD 1 with
    | 0 => []
    | n + 1 => first :: List.replicate n other

end TextLine

/-- The lines of a text.  A text has at least one. -/
def textLines (text : String) : List TextLine :=
  match TextLine.placed 0 (TextLine.split text.toList) with
  | [] => [⟨0, []⟩]
  | lines => lines

/-- A range of characters and what is said about it. -/
structure Label where
  /-- The number of the first character. -/
  start : Nat
  /-- The number of the character after the last. -/
  stop : Nat
  message : String
deriving DecidableEq, Repr, Inhabited

namespace Label

/-- The number of the line that a character is on. -/
def lineOf (lines : List TextLine) (char : Nat) : Nat :=
  (lines.filter fun l => l.start ≤ char).length - 1

/-- The number of the last line of a label. -/
def lastLine (l : Label) (lines : List TextLine) : Nat :=
  lineOf lines (max (l.stop - 1) l.start)

/-- That many spaces. -/
def spaces (n : Nat) : String := String.ofList (List.replicate n ' ')

/-- What stands beside a line of the text. -/
def lineMargin (gutter line : Nat) : String :=
  let number := toString (line + 1)
  " " ++ spaces (gutter - number.length) ++ number ++ " │ "

/-- What stands beside the rows between the lines of the text. -/
def rowMargin (gutter : Nat) : String := spaces (gutter + 2) ++ "│ "

/-- The rows of a label on one line: the line, the underlining and the message. -/
def onOneLine (l : Label) (gutter number : Nat) (line : TextLine) : List String :=
  let column := max ((l.start + l.stop) / 2) l.start - line.start
  let count := l.stop - line.start + 2
  let isInside (c : Nat) : Bool := l.start ≤ line.start + c && line.start + c < l.stop
  let underline (c : Nat) : Char × Char :=
    if c = column then if isInside c then ('┬', '─') else ('│', ' ')
    else if isInside c then ('─', '─')
    else (' ', ' ')
  let arrow (c : Nat) : Char × Char :=
    if c = column then ('╰', '─') else if column < c then ('─', '─') else (' ', ' ')
  [lineMargin gutter number ++ line.shown,
    rowMargin gutter ++ line.under count underline,
    rowMargin gutter ++ line.under count arrow ++ " " ++ l.message]

/-- The rows of a label over several lines: the first and the last line, with a gap for those
between them, and the message. -/
def onManyLines (l : Label) (gutter first last : Nat) (opening closing : TextLine) :
    List String :=
  let gap := if first + 1 < last then [spaces (gutter + 2) ++ "┆ ┆   "] else []
  let count := closing.chars.length + 2
  [lineMargin gutter first ++ "╭─▶ " ++ opening.shown] ++ gap ++
    [lineMargin gutter last ++ "├─▶ " ++ closing.shown,
      rowMargin gutter ++ "│   " ++ closing.under count (fun _ => (' ', ' ')),
      rowMargin gutter ++ "╰───" ++ closing.under count (fun _ => ('─', '─')) ++ " " ++ l.message]

/-- The rows that show a label in the text of a file. -/
def excerpt (l : Label) (file text : String) : List String :=
  let lines := textLines text
  let first := lineOf lines l.start
  let last := l.lastLine lines
  let opening := lines.getD first default
  let gutter := (toString (last + 1)).length
  let place := file ++ ":" ++ toString (first + 1) ++ ":" ++ toString (l.start - opening.start + 1)
  let rows :=
    if first = last then l.onOneLine gutter first opening
    else l.onManyLines gutter first last opening (lines.getD last default)
  [spaces (gutter + 2) ++ "╭─[" ++ place ++ "]", spaces (gutter + 2) ++ "│"] ++ rows ++
    [String.ofList (List.replicate (gutter + 2) '─') ++ "╯"]

end Label

namespace SyntaxError

/-- The characters of a text that an error is about, and its message. -/
def label (e : SyntaxError) (text : String) : Label :=
  let span := e.span.clamp text.utf8ByteSize
  let start := charOffset text span.start
  ⟨start, max (charOffset text span.stop) start, e.message⟩

/-- The rows that report an error in the text of a file. -/
def report (e : SyntaxError) (file text : String) : List String :=
  ("Error: failed to parse " ++ file) :: (e.label text).excerpt file text

end SyntaxError

end RouteMigration
