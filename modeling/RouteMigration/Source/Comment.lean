/-!
# Comments

A comment belongs either to the token after it, as a leading comment of the offset where that
token starts, or to the token before it, as a trailing comment of the offset where that one ends.
-/

namespace RouteMigration

/-- The text of a comment, without its marks. -/
structure Comment where
  isBlock : Bool
  text : String
deriving DecidableEq, Repr, Inhabited

/-- The characters that end a line. -/
def isLineEnd (c : Char) : Bool :=
  c == '\n' || c == '\r' || c.toNat == 0x2028 || c.toNat == 0x2029

/-- A line ends in the comment or right after it. -/
def Comment.endsLine (c : Comment) : Bool := !c.isBlock || c.text.toList.any isLineEnd

/-- The comments of a source text by the offset they belong to, in source order. -/
structure Comments where
  leading : List (Nat × Comment) := []
  trailing : List (Nat × Comment) := []
deriving DecidableEq, Repr, Inhabited

namespace Comments

/-- No comments. -/
def empty : Comments := {}

/-- Some comment leads the offset. -/
def hasLeading (cs : Comments) (pos : Nat) : Bool := cs.leading.any (·.1 == pos)

/-- The comments that lead the offset, and the others. -/
def takeLeading (cs : Comments) (pos : Nat) : List Comment × Comments :=
  ((cs.leading.filter (·.1 == pos)).map (·.2),
    { cs with leading := cs.leading.filter (·.1 != pos) })

/-- The comments that trail the offset, and the others. -/
def takeTrailing (cs : Comments) (pos : Nat) : List Comment × Comments :=
  ((cs.trailing.filter (·.1 == pos)).map (·.2),
    { cs with trailing := cs.trailing.filter (·.1 != pos) })

end Comments

end RouteMigration
