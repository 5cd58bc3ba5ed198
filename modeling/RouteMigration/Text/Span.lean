/-!
# Source ranges

A span is a half-open range of byte offsets into a source text.

## Main Definitions

* `Span.relative` — a range of absolute positions seen from where its file starts
* `Span.clamp` — the part of a span inside a text of a given length
* `charOffset` — how many characters begin before a byte offset
-/

namespace RouteMigration

/-- A half-open range of byte offsets. -/
structure Span where
  /-- Offset of the first byte. -/
  start : Nat
  /-- Offset just past the last byte. -/
  stop : Nat
deriving DecidableEq, Repr, Inhabited

namespace Span

/-- The range of nothing, at the start of a text. -/
def empty : Span := ⟨0, 0⟩

/-- The absolute range from `lo` to `hi` seen from a file that starts at `fileStart`.  Positions
before the file count as its start, and an inverted range is empty. -/
def relative (lo hi fileStart : Nat) : Span :=
  ⟨lo - fileStart, max (hi - fileStart) (lo - fileStart)⟩

/-- The part of a span inside a text of `len` bytes. -/
def clamp (s : Span) (len : Nat) : Span :=
  ⟨min s.start len, min s.stop len⟩

end Span

/-- How many of the characters, the first of which stands at `pos`, begin before `offset`. -/
def charsBefore (pos offset : Nat) : List Char → Nat
  | [] => 0
  | c :: cs => if pos < offset then charsBefore (pos + c.utf8Size) offset cs + 1 else 0

/-- How many characters of `text` begin before the byte `offset`. -/
def charOffset (text : String) (offset : Nat) : Nat :=
  charsBefore 0 offset text.toList

end RouteMigration
