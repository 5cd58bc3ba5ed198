/-!
# Sets of names

A finite set of names, kept in ascending order without repetition, so that two sets with the same
members are the same value and are listed the same way.
-/

namespace RouteMigration

/-- A finite set of names, listed in ascending order. -/
structure NameSet where
  /-- The members in ascending order. -/
  toList : List String
deriving DecidableEq, Repr, Inhabited

namespace NameSet

/-- The set without members. -/
def empty : NameSet := ⟨[]⟩

/-- Puts `name` in its place in an ascending list, once. -/
def insertInto (name : String) : List String → List String
  | [] => [name]
  | x :: xs =>
    if name < x then name :: x :: xs
    else if name = x then x :: xs
    else x :: insertInto name xs

/-- The set with one more member. -/
def insert (name : String) (s : NameSet) : NameSet := ⟨insertInto name s.toList⟩

/-- The set of the names in a list. -/
def ofList (names : List String) : NameSet := names.foldl (fun s n => s.insert n) empty

/-- `name` is a member. -/
def contains (s : NameSet) (name : String) : Bool := s.toList.contains name

/-- The members of both sets. -/
def union (s t : NameSet) : NameSet := t.toList.foldl (fun s n => s.insert n) s

/-- The members that satisfy `p`. -/
def filter (p : String → Bool) (s : NameSet) : NameSet := ⟨s.toList.filter p⟩

/-- The set has no members. -/
def isEmpty (s : NameSet) : Bool := s.toList.isEmpty

end NameSet

end RouteMigration
