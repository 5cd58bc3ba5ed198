/-!
# Words of a text

Splitting a text into words at white space, and cutting a text at chosen characters.

## Main Definitions

* `isBlank` — the characters with the Unicode property White_Space
* `splitAt` — the pieces of a text between the characters a predicate picks
* `words` — the maximal runs of characters that are not blank
* `collapse` — the words joined by single spaces

## Design Notes

Everything works on `List Char`; the `String` functions at the end only convert.  Cutting never
drops a piece: `splitAt` of a text with `n` cuts has `n + 1` pieces, empty ones included.
-/

namespace RouteMigration.Text

/-- The characters with the Unicode property White_Space. -/
def isBlank (c : Char) : Bool :=
  let n := c.toNat
  (9 ≤ n && n ≤ 13) || n == 0x20 || n == 0x85 || n == 0xA0 || n == 0x1680 ||
    (0x2000 ≤ n && n ≤ 0x200A) || n == 0x2028 || n == 0x2029 || n == 0x202F ||
    n == 0x205F || n == 0x3000

/-- The pieces of a text between the characters that `cut` picks. -/
def splitAt (cut : Char → Bool) : List Char → List (List Char)
  | [] => [[]]
  | c :: cs =>
    if cut c then [] :: splitAt cut cs
    else match splitAt cut cs with
      | [] => [[c]]
      | piece :: rest => (c :: piece) :: rest

/-- The maximal runs of characters that are not blank. -/
def words (cs : List Char) : List (List Char) :=
  (splitAt isBlank cs).filter (fun w => !w.isEmpty)

/-- Joins the pieces, with `separator` between neighbours. -/
def joinWith (separator : String) : List String → String
  | [] => ""
  | [s] => s
  | s :: rest => s ++ separator ++ joinWith separator rest

/-- Trims a text and turns each run of blanks into one space. -/
def collapse (s : String) : String :=
  joinWith " " ((words s.toList).map String.ofList)

/-- The pieces of a string between the characters that `cut` picks. -/
def pieces (cut : Char → Bool) (s : String) : List String :=
  (splitAt cut s.toList).map String.ofList

/-- What is left of a text that begins with `front`. -/
def dropFront? (front s : String) : Option String :=
  (front.toList.isPrefixOf? s.toList).map String.ofList

/-- What is left of a text that ends with `back`. -/
def dropBack? (back s : String) : Option String :=
  (back.toList.isSuffixOf? s.toList).map String.ofList

/-- Cuts a text at its last `c` into what stands before and after it. -/
def splitLast? (c : Char) (s : String) : Option (String × String) :=
  let reversed := s.toList.reverse
  let after := reversed.takeWhile (· != c)
  match reversed.dropWhile (· != c) with
  | [] => none
  | _ :: before => some (String.ofList before.reverse, String.ofList after.reverse)

/-- Puts a `_` before a text that begins with a digit. -/
def guardDigit : List Char → List Char
  | [] => []
  | c :: cs => if c.isDigit then '_' :: c :: cs else c :: cs

/-- Pads a text with spaces on the right to at least `width` characters. -/
def padRight (width : Nat) (s : String) : String :=
  s ++ String.ofList (List.replicate (width - s.length) ' ')

end RouteMigration.Text
