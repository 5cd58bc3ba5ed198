import RouteMigration.Module.Shape
import RouteMigration.Text.NameSet

/-!
# References to names

Which names a module refers to, and whether a reference stands in the value of a `className`
attribute.

## Main Definitions

* `Reference` — a name that is referred to
* `Reference.roleOf` — what a form says about names
* `Reference.ofNode` — the references in a tree
* `Reference.ofItems` — the references in a module to names that it may declare itself
* `ReferenceCount` — how often a name is referred to, by place
* `ReferenceAnalysis` — the counts of some names, collected in one walk over a module

## Design Notes

A declarator of a name in question, at the top of the module and not exported, declares the name
and is no reference to it.  Any other binding of the name counts as a reference, since it hides
the declared one.  Types refer to nothing.
-/

namespace RouteMigration

/-- A name that is referred to. -/
structure Reference where
  name : String
  /-- The reference stands in the value of a `className` attribute. -/
  inClassName : Bool
deriving DecidableEq, Repr, Inhabited

namespace Reference

/-- The attribute is `className={...}`. -/
def isClassNameAttr : List Node → Bool
  | [.word _ name, .container _ _] => name == "className"
  | _ => false

/-- What a form says about names. -/
inductive Role where
  /-- Nothing in it has a value: it is a type, or not there at all. -/
  | hidden
  /-- The value of a name is read. -/
  | read (name : String)
  /-- A name is bound, names an element, is exported, or is a property `{ name }`: no string could
  take its place. -/
  | fixed (name : String)
  /-- An attribute decides what its value stands in. -/
  | attr
  /-- Only the parts refer to names. -/
  | inner
deriving DecidableEq, Repr, Inhabited

/-- The role of a form. -/
def roleOf : Form → Role
  | .type _ | .absent => .hidden
  | .ref name => .read name
  | .shorthand name | .tag name | .exported name | .binding name _ => .fixed name
  | .attr => .attr
  | _ => .inner

/-- One step of the search. -/
def step (form : Form) (_ : Option Span) (parts : List (Node × (Bool → List Reference)))
    (inClassName : Bool) : List Reference :=
  match roleOf form with
  | .hidden => []
  | .read name => [⟨name, inClassName⟩]
  | .fixed name => [⟨name, false⟩]
  | .attr =>
    let inside := isClassNameAttr (parts.map (·.1))
    parts.flatMap fun p => p.2 inside
  | .inner => parts.flatMap fun p => p.2 inClassName

/-- The references in a tree, which stands in the value of a `className` attribute or not. -/
def ofNode (n : Node) (inClassName : Bool) : List Reference := Node.fold step n inClassName

/-- The declarator binds one of the names. -/
def declares (names : NameSet) (d : Node) : Bool :=
  match Shape.boundName? d with
  | some name => names.contains name
  | none => false

/-- The references in a declarator at the top of a module. -/
def ofDeclarator (names : NameSet) (d : Node) : List Reference :=
  if declares names d then ((Shape.value? d).map (ofNode · false)).getD [] else ofNode d false

/-- The references in an item, where the names may be declared at the top of the module. -/
def ofItem (names : NameSet) (item : Node) : List Reference :=
  match Shape.declarators? item with
  | some ds => ds.flatMap (ofDeclarator names)
  | none => ofNode item false

/-- The references in a module, where the names may be declared at its top. -/
def ofItems (names : NameSet) (items : List Node) : List Reference :=
  items.flatMap (ofItem names)

end Reference

/-- How often a name is referred to. -/
structure ReferenceCount where
  /-- In values of `className` attributes. -/
  className : Nat := 0
  /-- Anywhere else. -/
  other : Nat := 0
deriving DecidableEq, Repr, Inhabited

namespace ReferenceCount

/-- The count of a name in a list of references. -/
def ofReferences (name : String) (references : List Reference) : ReferenceCount where
  className := references.count ⟨name, true⟩
  other := references.count ⟨name, false⟩

/-- The count of a name, which is one of those in question. -/
def of (items : List Node) (names : NameSet) (name : String) : ReferenceCount :=
  if names.contains name then ofReferences name (Reference.ofItems names items) else {}

/-- The count with one more reference. -/
def add (c : ReferenceCount) (inClassName : Bool) : ReferenceCount :=
  if inClassName then { c with className := c.className + 1 } else { c with other := c.other + 1 }

/-- The name is referred to at all. -/
def isSeen (c : ReferenceCount) : Bool := c.className + c.other > 0

/-- Nothing outside `className` attributes refers to the name. -/
def isClassNameOnly (c : ReferenceCount) : Bool := c.other == 0

end ReferenceCount

namespace Reference

/-- Counts a reference in the entry of its name, which is made if there is none. -/
def countInto (r : Reference) : List (String × ReferenceCount) → List (String × ReferenceCount)
  | [] => [(r.name, ReferenceCount.add {} r.inClassName)]
  | entry :: rest =>
    if r.name = entry.1 then (entry.1, entry.2.add r.inClassName) :: rest
    else entry :: countInto r rest

/-- The names of the entries after a reference was counted. -/
theorem mem_countInto (r : Reference) (name : String) (entries : List (String × ReferenceCount)) :
    name ∈ (r.countInto entries).map (·.1) ↔ name = r.name ∨ name ∈ entries.map (·.1) := by
  induction entries with
  | nil => simp [countInto]
  | cons entry rest ih =>
    rw [countInto]
    split
    next h => simp [h]
    next =>
      rw [List.map_cons, List.mem_cons, ih, List.map_cons, List.mem_cons]
      exact or_left_comm

theorem nodup_countInto (r : Reference) {entries : List (String × ReferenceCount)}
    (h : (entries.map (·.1)).Nodup) : ((r.countInto entries).map (·.1)).Nodup := by
  induction entries with
  | nil => simp [countInto]
  | cons entry rest ih =>
    obtain ⟨hfresh, hrest⟩ := List.nodup_cons.mp h
    rw [countInto]
    split
    next => exact h
    next hne =>
      refine List.nodup_cons.mpr ⟨fun hmem => ?_, ih hrest⟩
      rcases (r.mem_countInto entry.1 rest).mp hmem with heq | hin
      · exact hne heq.symm
      · exact hfresh hin

end Reference

/-- The counts of names, with an entry for each name that has been met. -/
structure ReferenceAnalysis where
  entries : List (String × ReferenceCount) := []
  /-- A name has at most one entry. -/
  nodup : (entries.map (·.1)).Nodup := by exact List.nodup_nil

namespace ReferenceAnalysis

/-- Counts a reference, if it is to one of the names. -/
def record (names : NameSet) (a : ReferenceAnalysis) (r : Reference) : ReferenceAnalysis :=
  if names.contains r.name then ⟨r.countInto a.entries, r.nodup_countInto a.nodup⟩ else a

/-- The analysis of a module, where the names may be declared at its top. -/
def ofItems (names : NameSet) (items : List Node) : ReferenceAnalysis :=
  (Reference.ofItems names items).foldl (record names) {}

/-- The entry of a name. -/
def lookup? (a : ReferenceAnalysis) (name : String) : Option ReferenceCount :=
  (a.entries.find? (·.1 = name)).map (·.2)

/-- The count of a name, which is zero where there is no entry. -/
def count (a : ReferenceAnalysis) (name : String) : ReferenceCount := (a.lookup? name).getD {}

end ReferenceAnalysis

end RouteMigration
