import RouteMigration.Source.Comment
import RouteMigration.Source.SyntaxError

/-!
# Tokens

## Main Definitions

* `TokenKind` — what a token is
* `Token` — a token with its range and the comments found before it
* `TokenKind.takesLineComment`, `TokenKind.takesBlockComment` — which tokens own a comment that
  follows them on the same line
-/

namespace RouteMigration

/-- What a token is. -/
inductive TokenKind where
  /-- An identifier or keyword. -/
  | name (text : String)
  | privateName (text : String)
  /-- An operator or a bracket. -/
  | punct (text : String)
  | num (raw : String)
  | bigInt (raw : String)
  | str (value raw : String)
  | regex (raw : String)
  /-- The first quote of a template. -/
  | backquote
  /-- The text between elements. -/
  | elementText (raw : String)
  /-- A name in a tag, which may hold dashes. -/
  | tagName (text : String)
  | endOfText
  /-- No token: reading one failed. -/
  | invalid (error : SyntaxError)
deriving DecidableEq, Repr, Inhabited

/-- A token. -/
structure Token where
  kind : TokenKind
  span : Span
  /-- The token is the first one on its line. -/
  afterNewline : Bool
  /-- Comments that belong to the start of the token. -/
  leading : List Comment
  /-- Comments that belong to the end of the token before. -/
  trailing : List Comment
deriving DecidableEq, Repr, Inhabited

namespace TokenKind

/-- How a token is called in messages. -/
def describe : TokenKind → String
  | name text => text
  | privateName text => "#" ++ text
  | punct text => text
  | num raw => "numeric literal (" ++ raw ++ ")"
  | bigInt raw => "bigint literal (" ++ raw ++ ")"
  | str _ raw => "string literal (" ++ raw ++ ")"
  | regex _ => "regexp literal"
  | backquote => "`"
  | elementText _ => "jsx text"
  | tagName text => text
  | endOfText => "<eof>"
  | invalid _ => "<lexing error>"

/-- Words that are never identifiers. -/
def keywords : List String :=
  ["break", "case", "catch", "class", "const", "continue", "debugger", "default", "delete", "do",
    "else", "enum", "export", "extends", "false", "finally", "for", "function", "if", "import",
    "in", "instanceof", "new", "null", "return", "super", "switch", "this", "throw", "true",
    "try", "typeof", "var", "void", "while", "with"]

/-- Words that are not identifiers in a module, though they are in other texts. -/
def strictWords : List String :=
  ["implements", "interface", "let", "package", "private", "protected", "public", "yield",
    "await"]

/-- The word is reserved in a module. -/
def isReserved (text : String) : Bool := keywords.contains text || strictWords.contains text

/-- Operators between two operands. -/
def binaryMarks : List String :=
  ["+", "-", "*", "/", "%", "**", "<", ">", "<=", ">=", "==", "!=", "===", "!==", "<<", ">>",
    ">>>", "&", "|", "^", "&&", "||", "??"]

/-- A line comment after the token on its line belongs to it. -/
def takesLineComment : TokenKind → Bool
  | punct text => !binaryMarks.contains text
  | _ => true

/-- A block comment after the token on its line belongs to it. -/
def takesBlockComment : TokenKind → Bool
  | name text => !(keywords ++ ["let", "await", "yield"]).contains text
  | punct text => text == ";" || text == "\x7b" || text == "\x7d"
  | privateName _ | num _ | bigInt _ | str _ _ | regex _ | elementText _ | tagName _ => true
  | _ => false

end TokenKind

end RouteMigration
