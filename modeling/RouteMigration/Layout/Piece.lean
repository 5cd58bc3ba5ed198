import RouteMigration.Source.Comment

/-!
# Pieces of a printed text

A printed text is a list of pieces: words, ends of lines, changes of the indentation, and places
where the comments of a source offset go.  A line is ended only if something stands on it, so
that no blank line is ever printed, and it is indented when the first word is put on it.

## Main Definitions

* `Piece`, `Layout` — the pieces and their lists
* `Page` — what has been printed so far
* `render` — the text of a layout

## Design Notes

A comment is printed where its offset is met first.  It is then spent, so nodes that begin or end
at the same offset do not repeat it.
-/

namespace RouteMigration

/-- A piece of a printed text. -/
inductive Piece where
  /-- A word, put on the line as it is. -/
  | text (s : String)
  /-- The end of the line, if something stands on it. -/
  | line
  /-- The following lines are indented more. -/
  | indent
  /-- The following lines are indented less. -/
  | dedent
  /-- The comments that lead an offset. -/
  | leading (pos : Nat)
  /-- The comments that trail an offset. -/
  | trailing (pos : Nat)
deriving DecidableEq, Repr, Inhabited

/-- Pieces in the order they are printed. -/
abbrev Layout := List Piece

namespace Layout

/-- One word. -/
def text (s : String) : Layout := [.text s]

/-- The layouts with a separator between neighbours. -/
def joined (separator : Layout) : List Layout → Layout
  | [] => []
  | [l] => l
  | l :: rest => l ++ separator ++ joined separator rest

/-- The layouts on one line, separated by commas. -/
def commas (ls : List Layout) : Layout := joined (text ", ") ls

/-- A layout on lines of its own, indented. -/
def nested (l : Layout) : Layout := .line :: .indent :: l ++ [.dedent, .line]

/-- Each layout on a line of its own, separated by commas, between brackets that stand alone when
there is nothing between them. -/
def itemized (opening closing : String) (ls : List Layout) : Layout :=
  if ls.isEmpty then text (opening ++ closing)
  else text opening ++ nested (joined [.text ",", .line] ls) ++ text closing

/-- Each layout on a line of its own, between braces. -/
def braced (ls : List Layout) : Layout :=
  text "\x7b" ++ nested (joined [.line] ls) ++ text "\x7d"

/-- The layout before a layout that is there. -/
def before (sep : String) : Layout → Layout
  | [] => []
  | l => .text sep :: l

/-- A word and a space, where the flag is set. -/
def flag (isSet : Bool) (word : String) : Layout :=
  if isSet then text (word ++ " ") else []

end Layout

/-- What has been printed so far. -/
structure Page where
  /-- The words, the last first. -/
  words : List String := []
  /-- Nothing stands on the last line. -/
  atLineStart : Bool := true
  /-- How often the following lines are indented. -/
  depth : Nat := 0
  /-- The comments that have not been printed. -/
  comments : Comments
deriving Inhabited

namespace Page

/-- The blanks before the first word of a line. -/
def margin (depth : Nat) : String := String.ofList (List.replicate (4 * depth) ' ')

/-- Puts a word on the line. -/
def put (p : Page) (s : String) : Page :=
  if s = "" then p
  else if p.atLineStart then
    { p with words := s :: margin p.depth :: p.words, atLineStart := false }
  else { p with words := s :: p.words }

/-- Ends the line, if something stands on it. -/
def endLine (p : Page) : Page :=
  if p.atLineStart then p else { p with words := "\n" :: p.words, atLineStart := true }

/-- Prints a comment; a block comment leaves a space behind it. -/
def putComment (p : Page) (c : Comment) : Page :=
  if c.isBlock then p.put ("/*" ++ c.text ++ "*/") |>.put " "
  else p.put ("//" ++ c.text) |>.endLine

/-- Prints one piece. -/
def piece (p : Page) : Piece → Page
  | .text s => p.put s
  | .line => p.endLine
  | .indent => { p with depth := p.depth + 1 }
  | .dedent => { p with depth := p.depth - 1 }
  | .leading pos =>
    let (found, rest) := p.comments.takeLeading pos
    found.foldl putComment { p with comments := rest }
  | .trailing pos =>
    let (found, rest) := p.comments.takeTrailing pos
    found.foldl (fun p c => (p.put " ").putComment c) { p with comments := rest }

/-- The text on the page. -/
def toString (p : Page) : String := String.join p.words.reverse

end Page

/-- The text of a layout, with the comments of its source. -/
def render (comments : Comments) (l : Layout) : String :=
  (l.foldl Page.piece { comments := comments }).toString

end RouteMigration
