import RouteMigration.Text.Letter
import RouteMigration.Source.Token

/-!
# Reading tokens

The functions here read one token, or one stretch of a template or an element, off the front of a
list of characters.  Which of them applies is decided by the grammar, so that a slash, a quote or
an apostrophe is read as what its place makes of it.

## Main Definitions

* `Lexer.token` — blanks, comments and the token after them
* `Lexer.templateChunk` — a stretch of a template up to `${` or the closing quote
* `Lexer.elementText` — text up to `{` or `<`
* `Lexer.tagNameRest`, `Lexer.attributeText` — names and quoted values in a tag
* `Lexer.regex` — a regular expression

## Design Notes

Offsets count the bytes of the text, so every reader returns how many bytes it took.
-/

namespace RouteMigration.Lexer

/-- The number of bytes of a list of characters. -/
def byteLength (cs : List Char) : Nat := cs.foldl (fun n c => n + c.utf8Size) 0

/-- The number of bytes from the characters `here` up to the characters `after`. -/
def distance (here after : List Char) : Nat :=
  byteLength (here.take (here.length - after.length))

/-- Blanks other than the characters that end a line. -/
def isSpace (c : Char) : Bool :=
  let n := c.toNat
  n == 9 || n == 11 || n == 12 || n == 0x20 || n == 0xA0 || n == 0xFEFF || n == 0x1680 ||
    (0x2000 ≤ n && n ≤ 0x200A) || n == 0x202F || n == 0x205F || n == 0x3000

/-! ### Blanks and comments -/

/-- What stands before a token. -/
structure Trivia where
  /-- The characters from the token on. -/
  rest : List Char
  /-- Where the token starts. -/
  pos : Nat
  /-- A line ends before the token. -/
  newline : Bool
  leading : List Comment := []
  trailing : List Comment := []
  /-- The start of a block comment that is not closed. -/
  unclosed : Option Nat := none

/-- Skips blanks, not comments. -/
def skipBlanks : List Char → Nat → Bool → List Char × Nat × Bool
  | [], pos, nl => ([], pos, nl)
  | c :: cs, pos, nl =>
    if isLineEnd c then skipBlanks cs (pos + c.utf8Size) true
    else if isSpace c then skipBlanks cs (pos + c.utf8Size) nl
    else (c :: cs, pos, nl)

/-- The text of a block comment up to its closing mark, and what follows it. -/
def blockComment : List Char → List Char → Option (List Char × List Char)
  | _, [] => none
  | acc, '*' :: '/' :: rest => some (acc.reverse, rest)
  | acc, c :: rest => blockComment (c :: acc) rest

/-- Skips blanks and comments.  `ownsLine` and `ownsBlock` say whether the token before takes a
comment of that sort that follows it on its line; a block comment before a semicolon always
belongs to the token before. -/
def skipTrivia (ownsLine ownsBlock : Bool) : Nat → Trivia → Trivia
  | 0, t => t
  | fuel + 1, t =>
    match skipBlanks t.rest t.pos t.newline with
    | ('/' :: '/' :: rest, pos, nl) =>
      let text := rest.takeWhile (!isLineEnd ·)
      let comment : Comment := ⟨false, String.ofList text⟩
      let next := { t with
        rest := rest.dropWhile (!isLineEnd ·)
        pos := pos + 2 + byteLength text
        newline := nl }
      if nl || !ownsLine then
        skipTrivia ownsLine ownsBlock fuel { next with leading := t.leading ++ [comment] }
      else
        skipTrivia ownsLine ownsBlock fuel { next with trailing := t.trailing ++ [comment] }
    | ('/' :: '*' :: rest, pos, nl) =>
      match blockComment [] rest with
      | none => { t with rest := [], pos := pos + 2 + byteLength rest, unclosed := some pos }
      | some (text, after) =>
        let comment : Comment := ⟨true, String.ofList text⟩
        let (after, stop, ended) :=
          skipBlanks after (pos + 4 + byteLength text) (nl || text.any isLineEnd)
        let next := { t with rest := after, pos := stop, newline := ended }
        let isOwned := !nl && (ownsBlock || after.head? == some ';')
        if isOwned then
          skipTrivia ownsLine ownsBlock fuel { next with trailing := t.trailing ++ [comment] }
        else
          skipTrivia ownsLine ownsBlock fuel { next with leading := t.leading ++ [comment] }
    | (rest, pos, nl) => { t with rest := rest, pos := pos, newline := nl }

/-! ### Escapes -/

/-- The value of a hexadecimal digit. -/
def hexDigit? (c : Char) : Option Nat :=
  if c.isDigit then some (c.toNat - 48)
  else if 'a' ≤ c && c ≤ 'f' then some (c.toNat - 87)
  else if 'A' ≤ c && c ≤ 'F' then some (c.toNat - 55)
  else none

/-- The hexadecimal digits at the front, at most `limit` of them: their value, their number and
what follows.  A separator may stand before a digit, and nowhere else. -/
def hexRun : Nat → List Char → Option (Nat × Nat × List Char)
  | 0, cs => some (0, 0, cs)
  | _ + 1, [] => some (0, 0, [])
  | limit + 1, '_' :: c :: cs =>
    match hexDigit? c with
    | none => none
    | some d => (hexRun limit cs).map fun (n, k, rest) => (d * 16 ^ k + n, k + 1, rest)
  | limit + 1, c :: cs =>
    match hexDigit? c with
    | none => if c == '_' then none else some (0, 0, c :: cs)
    | some d => (hexRun limit cs).map fun (n, k, rest) => (d * 16 ^ k + n, k + 1, rest)

/-- The character with a number, if it has one. -/
def scalar? (n : Nat) : Option Char :=
  if n.isValidChar then some (Char.ofNat n) else none

/-- The number of exactly `count` hexadecimal digits at the front. -/
def hexValue? (count : Nat) (cs : List Char) : Option (Nat × List Char) :=
  match hexRun count cs with
  | some (n, k, rest) => if k = count then some (n, rest) else none
  | none => none

/-- What follows `\u` in braces: a character, or its text where there is no such character. -/
def bracedEscape? (cs : List Char) : Option (List Char × List Char) := do
  let (n, k, rest) ← hexRun cs.length cs
  if k = 0 then none
  let (chars, rest) := match scalar? n with
    | some c => ([c], rest)
    | none =>
      let taken := (cs.takeWhile (· != '}')).take 5
      ('\\' :: 'u' :: '{' :: taken ++ ['}'], cs.drop taken.length)
  match rest with
  | '}' :: after => some (chars, after)
  | _ => none

/-- What follows `\u`: the character that the escape stands for, or the text of the escape where
it stands for none, as half of a pair does. -/
def unicodeEscape? : List Char → Option (List Char × List Char)
  | '{' :: cs => bracedEscape? cs
  | cs => do
    let (n, rest) ← hexValue? 4 cs
    match scalar? n with
    | some c => some ([c], rest)
    | none => some ('\\' :: 'u' :: cs.take 4, cs.drop 4)

/-- The digit is one of the first eight. -/
def isOctal (c : Char) : Bool := '0' ≤ c && c ≤ '7'

/-- An escape in a string: the characters it stands for and what follows it. -/
def escape? : List Char → Option (List Char × List Char)
  | [] => none
  | 'n' :: cs => some (['\n'], cs)
  | 't' :: cs => some (['\t'], cs)
  | 'r' :: cs => some (['\r'], cs)
  | 'b' :: cs => some ([Char.ofNat 8], cs)
  | 'f' :: cs => some ([Char.ofNat 12], cs)
  | 'v' :: cs => some ([Char.ofNat 11], cs)
  | '\r' :: '\n' :: cs => some ([], cs)
  | 'x' :: cs => (hexValue? 2 cs).map fun (n, rest) => ([Char.ofNat n], rest)
  | 'u' :: cs => unicodeEscape? cs
  | '0' :: cs =>
    if (cs.head?.map isOctal).getD false then none else some ([Char.ofNat 0], cs)
  | c :: cs =>
    if isOctal c then none
    else if isLineEnd c then some ([], cs)
    else some ([c], cs)

/-! ### Literals and names -/

/-- Outcome of reading a token: its kind and the characters after it. -/
abbrev Scanned := TokenKind × List Char

/-- A failure over the range from `start` that ends before `rest`. -/
def failure (fault : SyntaxFault) (start stop : Nat) (rest : List Char) : Scanned :=
  (.invalid ⟨fault, ⟨start, stop⟩⟩, rest)

/-- The body of a string up to its closing quote: value, text and what follows. -/
def stringBody (quote : Char) : Nat → List Char → List Char → List Char →
    Except SyntaxFault (List Char × List Char × List Char)
  | 0, _, _, _ => .error .unterminatedString
  | fuel + 1, value, raw, cs =>
    match cs with
    | [] => .error .unterminatedString
    | '\\' :: rest =>
      match rest, escape? rest with
      | [], _ => .error .unterminatedString
      | _, none => .error .badEscape
      | _, some (chars, after) =>
        let taken := rest.take (rest.length - after.length)
        stringBody quote fuel (chars.reverse ++ value) (taken.reverse ++ '\\' :: raw) after
    | c :: rest =>
      if c == quote then .ok (value.reverse, raw.reverse, rest)
      else if c == '\n' || c == '\r' then .error .unterminatedString
      else stringBody quote fuel (c :: value) (c :: raw) rest

/-- A string that begins with `quote`, which is already taken. -/
def string (fuel : Nat) (quote : Char) (pos : Nat) (cs : List Char) : Scanned :=
  match stringBody quote fuel [] [] cs with
  | .ok (value, raw, rest) =>
    (.str (String.ofList value) (String.ofList (quote :: raw ++ [quote])), rest)
  | .error fault =>
    let line := cs.takeWhile fun c => c != '\n' && c != '\r'
    failure fault pos (pos + 1 + byteLength line) (cs.drop line.length)

/-- The character that an escape in a name stands for, if the name may hold it there. -/
def nameEscape? (isFirst : Bool) (cs : List Char) : Option (Char × List Char) :=
  match unicodeEscape? cs with
  | some ([c], rest) =>
    if (if isFirst then Text.isIdentStart c else Text.isIdentPart c) then some (c, rest) else none
  | _ => none

/-- A name: its text, whether it holds an escape, and what follows it. -/
def nameChars : Nat → List Char → Bool → List Char →
    Except SyntaxFault (List Char × Bool × List Char)
  | 0, acc, esc, cs => .ok (acc.reverse, esc, cs)
  | fuel + 1, acc, esc, cs =>
    match cs with
    | '\\' :: 'u' :: rest =>
      match nameEscape? acc.isEmpty rest with
      | some (c, after) => nameChars fuel (c :: acc) true after
      | none => .error .badEscape
    | '\\' :: _ => .error (.badCharacter '\\')
    | c :: rest =>
      if Text.isIdentPart c then nameChars fuel (c :: acc) esc rest
      else .ok (acc.reverse, esc, cs)
    | [] => .ok (acc.reverse, esc, cs)

/-- A name that starts at the front.  A reserved word holds no escape. -/
def name (fuel pos : Nat) (cs : List Char) : Scanned :=
  match nameChars fuel [] false cs with
  | .ok (chars, isEscaped, rest) =>
    let text := String.ofList chars
    if isEscaped && TokenKind.isReserved text then
      failure (.escapedWord text) pos (pos + distance cs rest) rest
    else (.name text, rest)
  | .error fault => failure fault pos (pos + 1) (cs.drop 1)

/-- Each separator stands before a digit. -/
def goodSeparators : List Char → Bool
  | [] => true
  | ['_'] => false
  | '_' :: '_' :: _ => false
  | _ :: rest => goodSeparators rest

/-- Splits off the digits of a base, with separators. -/
def digits (isDigit : Char → Bool) (cs : List Char) : List Char × List Char :=
  cs.span fun c => isDigit c || c == '_'

/-- A number, which no identifier may follow. -/
def finishNumber (pos : Nat) (text rest : List Char) : Scanned :=
  let stop := pos + byteLength text
  if (rest.head?.map Text.isIdentStart).getD false then failure .identAfterNumber stop stop rest
  else (.num (String.ofList text), rest)

/-- A number in base two, eight or sixteen, after its two marks. -/
def radixNumber (isDigit : Char → Bool) (marks : List Char) (pos : Nat) (cs : List Char) :
    Scanned :=
  let (ds, rest) := digits isDigit cs
  if !ds.any isDigit then failure .digitExpected pos (pos + 2) rest
  else if !goodSeparators ds then failure .numberSeparator pos (pos + 2 + ds.length) rest
  else match rest with
    | 'n' :: rest => (.bigInt (String.ofList (marks ++ ds ++ ['n'])), rest)
    | _ => finishNumber pos (marks ++ ds) rest

/-- The exponent of a decimal number: `none` when its digits are missing. -/
def exponent (cs : List Char) : Option (List Char × List Char) :=
  match cs with
  | e :: rest =>
    if e == 'e' || e == 'E' then
      let (sign, rest) := match rest with
        | '+' :: r => (['+'], r)
        | '-' :: r => (['-'], r)
        | r => ([], r)
      let (ds, rest) := digits Char.isDigit rest
      if !ds.any Char.isDigit || !goodSeparators ds then none else some (e :: sign ++ ds, rest)
    else some ([], cs)
  | [] => some ([], [])

/-- A decimal number. -/
def decimal (pos : Nat) (cs : List Char) : Scanned :=
  let (whole, rest) := digits Char.isDigit cs
  let isLegacy := whole.length > 1 && whole.head? == some '0'
  if isLegacy then failure .legacyOctal pos (pos + whole.length) rest
  else if !goodSeparators whole then failure .numberSeparator pos (pos + whole.length) rest
  else match rest with
    | 'n' :: more =>
      if whole.isEmpty then failure .digitExpected pos (pos + 1) rest
      else (.bigInt (String.ofList (whole ++ ['n'])), more)
    | _ =>
      let (fraction, rest) := match rest with
        | '.' :: more =>
          let (ds, after) := digits Char.isDigit more
          ('.' :: ds, after)
        | _ => ([], rest)
      if !goodSeparators (fraction.drop 1) then
        failure .numberSeparator pos (pos + whole.length + fraction.length) rest
      else match exponent rest with
        | none => failure .digitExpected pos (pos + whole.length + fraction.length) rest
        | some (ex, rest) => finishNumber pos (whole ++ fraction ++ ex) rest

/-- A number that starts at the front. -/
def number (pos : Nat) (cs : List Char) : Scanned :=
  match cs with
  | '0' :: x :: rest =>
    if x == 'x' || x == 'X' then
      radixNumber (fun c => (hexDigit? c).isSome) ['0', x] pos rest
    else if x == 'o' || x == 'O' then
      radixNumber isOctal ['0', x] pos rest
    else if x == 'b' || x == 'B' then
      radixNumber (fun c => c == '0' || c == '1') ['0', x] pos rest
    else decimal pos cs
  | _ => decimal pos cs

/-! ### Operators -/

/-- Operators and brackets, longer ones before those they begin with.  What begins with `>` is
always read as one `>`, since it may close a list of types. -/
def marks : List String :=
  ["...", "===", "!==", "**=", "<<=", "&&=", "||=", "??=",
    "=>", "==", "!=", "<=", "&&", "||", "??", "++", "--", "+=", "-=", "*=", "/=", "%=", "&=",
    "|=", "^=", "<<", "**",
    "\x7b", "\x7d", "(", ")", "[", "]", ";", ",", "<", ">", "+", "-", "*", "/", "%", "&", "|", "^",
    "!", "~", "?", ":", "=", ".", "@"]

/-- Operators that begin with `>`, longer ones before those they begin with. -/
def greaterMarks : List String := [">>>=", ">>>", ">>=", ">>", ">=", ">"]

/-- The first mark of a list that the text begins with. -/
def firstMark (list : List String) (cs : List Char) : Option Scanned :=
  list.findSome? fun m => (m.toList.isPrefixOf? cs).map fun rest => (.punct m, rest)

/-- The token that starts at the front, where no blank stands; `fuel` exceeds the number of
characters. -/
def bare (fuel pos : Nat) (cs : List Char) : Scanned :=
  match cs with
  | [] => (.endOfText, [])
  | '"' :: rest => string fuel '"' pos rest
  | '\'' :: rest => string fuel '\'' pos rest
  | '`' :: rest => (.backquote, rest)
  | '#' :: rest =>
    match rest with
    | c :: _ =>
      if Text.isIdentStart c || c == '\\' then
        match name fuel (pos + 1) rest with
        | (.name text, after) => (.privateName text, after)
        | other => other
      else failure (.badCharacter '#') pos (pos + 1) rest
    | [] => failure (.badCharacter '#') pos (pos + 1) rest
  | '<' :: '!' :: '-' :: '-' :: rest => failure .markupComment pos (pos + 4) rest
  | '?' :: '.' :: c :: rest =>
    if c.isDigit then (.punct "?", '.' :: c :: rest) else (.punct "?.", c :: rest)
  | '?' :: '.' :: [] => (.punct "?.", [])
  | '.' :: c :: rest =>
    if c.isDigit then number pos cs
    else match firstMark marks cs with
      | some found => found
      | none => (.punct ".", c :: rest)
  | c :: rest =>
    if Text.isIdentStart c || c == '\\' then name fuel pos cs
    else if c.isDigit then number pos cs
    else match firstMark marks cs with
      | some found => found
      | none => failure (.badCharacter c) pos (pos + c.utf8Size) rest

/-- The number of bytes of a token that starts before `here` and ends before `after`.  Most tokens
are written as they tell; a name may hold escapes. -/
def width (kind : TokenKind) (here after : List Char) : Nat :=
  match kind with
  | .name text =>
    if text.toList.isPrefixOf here then byteLength text.toList else distance here after
  | .punct raw | .num raw | .bigInt raw | .str _ raw => byteLength raw.toList
  | _ => distance here after

/-- The token after blanks and comments, and the characters from its start and from its end.
`ownsLine` and `ownsBlock` are about the token before it, and `fuel` exceeds the number of
characters. -/
def token (fuel : Nat) (ownsLine ownsBlock atStart : Bool) (pos : Nat) (cs : List Char) :
    Token × List Char × List Char :=
  let t := skipTrivia ownsLine ownsBlock fuel { rest := cs, pos := pos, newline := atStart }
  match t.unclosed with
  | some start =>
    let error : SyntaxError := ⟨.unterminatedComment, ⟨start, t.pos⟩⟩
    (⟨.invalid error, ⟨start, t.pos⟩, t.newline, [], []⟩, [], [])
  | none =>
    let (kind, after) := match t.newline, t.rest with
      | true, '-' :: '-' :: '>' :: rest => failure .markupComment t.pos (t.pos + 3) rest
      | _, _ => bare fuel t.pos t.rest
    let span : Span := ⟨t.pos, t.pos + width kind t.rest after⟩
    (⟨kind, span, t.newline, t.leading, t.trailing⟩, t.rest, after)

/-! ### Stretches that the grammar asks for -/

/-- How a stretch of a template ends. -/
inductive ChunkEnd where
  /-- At `${`. -/
  | hole
  /-- At the closing quote. -/
  | close
deriving DecidableEq

/-- A stretch of a template: its value, if every escape has one, its text and its end. -/
structure Chunk where
  cooked : Option (List Char)
  raw : List Char
  ending : ChunkEnd
  rest : List Char

/-- Puts characters before a value that is kept reversed. -/
def pushChars (chars : List Char) (cooked : Option (List Char)) : Option (List Char) :=
  cooked.map (chars.reverse ++ ·)

/-- Reads a stretch of a template; `none` when the text ends in it. -/
def templateChunkFrom : Nat → Option (List Char) → List Char → List Char → Option Chunk
  | 0, _, _, _ => none
  | fuel + 1, cooked, raw, cs =>
    match cs with
    | [] => none
    | '`' :: rest => some ⟨cooked.map List.reverse, raw.reverse, .close, rest⟩
    | '$' :: '{' :: rest => some ⟨cooked.map List.reverse, raw.reverse, .hole, rest⟩
    | '\r' :: '\n' :: rest =>
      templateChunkFrom fuel (pushChars ['\n'] cooked) ('\n' :: '\r' :: raw) rest
    | '\r' :: rest => templateChunkFrom fuel (pushChars ['\n'] cooked) ('\r' :: raw) rest
    | '\\' :: rest =>
      match escape? rest with
      | some (chars, after) =>
        let taken := rest.take (rest.length - after.length)
        templateChunkFrom fuel (pushChars chars cooked) (taken.reverse ++ '\\' :: raw) after
      | none =>
        match rest with
        | [] => none
        | c :: after => templateChunkFrom fuel none (c :: '\\' :: raw) after
    | c :: rest => templateChunkFrom fuel (pushChars [c] cooked) (c :: raw) rest

/-- A stretch of a template up to `${` or the closing quote. -/
def templateChunk (cs : List Char) : Option Chunk :=
  templateChunkFrom (cs.length + 1) (some []) [] cs

/-- The text with every line ended by `\n` alone. -/
def unixLines : List Char → List Char
  | [] => []
  | '\r' :: '\n' :: rest => '\n' :: unixLines rest
  | c :: rest => (if c == '\r' then '\n' else c) :: unixLines rest

/-- The text up to the next `{` or `<`, and what follows it. -/
def elementText (cs : List Char) : List Char × List Char :=
  cs.span fun c => c != '{' && c != '<'

/-- The rest of a name in a tag, which may hold dashes. -/
def tagNameRest (cs : List Char) : List Char × List Char :=
  cs.span fun c => Text.isIdentPart c || c == '-'

/-- A quoted value in a tag, in which nothing is escaped: its text with the quotes. -/
def attributeText (cs : List Char) : Option (List Char × List Char) :=
  match cs with
  | [] => none
  | quote :: rest =>
    match rest.span (· != quote) with
    | (body, q :: after) => some (quote :: body ++ [q], after)
    | (_, []) => none

/-- The body of a regular expression up to its closing slash, which does not count in brackets. -/
def regexBody : Bool → List Char → List Char → Option (List Char × List Char)
  | _, _, [] => none
  | inClass, acc, '\\' :: c :: rest =>
    if isLineEnd c then none else regexBody inClass (c :: '\\' :: acc) rest
  | inClass, acc, c :: rest =>
    if isLineEnd c then none
    else if c == '[' then regexBody true (c :: acc) rest
    else if c == ']' then regexBody false (c :: acc) rest
    else if c == '/' && !inClass then some (acc.reverse, rest)
    else regexBody inClass (c :: acc) rest

/-- The flags are known and none is given twice. -/
def goodFlags (flags : List Char) : Bool :=
  flags.all ("dgimsuvy".toList.contains ·) && decide flags.Nodup

/-- A regular expression that begins with a slash: its text, whether its flags are good, and what
follows. -/
def regex (cs : List Char) : Option (List Char × Bool × List Char) :=
  match cs with
  | '/' :: rest =>
    (regexBody false [] rest).map fun (body, after) =>
      let (flags, after) := after.span Text.isIdentPart
      ('/' :: body ++ '/' :: flags, goodFlags flags, after)
  | _ => none

/-- The first line of a text that names a program to run it, without its mark, and the rest. -/
def hashbang? : List Char → Option (List Char × List Char)
  | '#' :: '!' :: rest => some (rest.span (!isLineEnd ·))
  | _ => none

end RouteMigration.Lexer
