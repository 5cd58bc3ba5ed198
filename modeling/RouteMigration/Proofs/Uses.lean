import Mathlib.Data.List.Basic
import RouteMigration.Migration.Shell

/-!
# Uses of names

Where a module uses a name that it binds or imports: in an expression, as a property `{ name }`, or
in an export list.  Patterns and declarations bind names and do not use them, and types use nothing
that exists when the module runs.

## Main Definitions

* `Use` — a name, with the sort of place it is used in
* `uses`, `moduleUses` — the uses in a tree and in a module

## Main Statements

* `uses_mk` — the uses of a node are its own and those of the parts that are looked into
* `mentionsChildren_of_mem_uses` — a tree that uses the children of a layout mentions them

## Design Notes

The list of an export *from* another module names what that module exports, so it is no use of a
name here.
-/

namespace RouteMigration.Migration

/-- A use of a name. -/
inductive Use where
  /-- Its value is read in an expression. -/
  | read (name : String)
  /-- It is the property `{ name }`. -/
  | property (name : String)
  /-- It is exported by a list. -/
  | exported (name : String)
deriving DecidableEq, Repr

namespace Use

/-- The name that is used. -/
def name : Use → String
  | read name | property name | exported name => name

end Use

/-- The use that a form is itself. -/
def ownUses : Form → List Use
  | .ref name => [.read name]
  | .shorthand name => [.property name]
  | .exported name => [.exported name]
  | _ => []

/-- The parts of a node that may hold uses; a name has no parts. -/
def usingParts {α : Type} (view : α → Node) (form : Form) (parts : List α) : List α :=
  match form, parts with
  | .type _, _ | .importNamed _, _ => []
  | .ref _, _ | .shorthand _, _ | .tag _, _ | .ident _, _ | .exported _, _ => []
  | .call, callee :: _ :: args => callee :: args
  | .exportNamed _, specifiers :: source :: attributes =>
    if (view source).form = .absent then specifiers :: attributes else attributes
  | _, parts => parts

/-- One step of `uses`. -/
def usesStep (form : Form) (_ : Option Span) (parts : List (Node × List Use)) : List Use :=
  ownUses form ++ (usingParts (·.1) form parts).flatMap (·.2)

/-- The uses of names in a tree. -/
def uses : Node → List Use := Node.fold usesStep

/-- The uses of names in a module. -/
def moduleUses (items : List Node) : List Use := items.flatMap uses

/-! ### One node -/

theorem usingParts_map {α β : Type} (view : β → Node) (g : α → β) (f : Form) (ps : List α) :
    usingParts view f (ps.map g) = (usingParts (fun p => view (g p)) f ps).map g := by
  cases f with
  | call =>
    rcases ps with _ | ⟨callee, _ | ⟨types, args⟩⟩
    · rfl
    · rfl
    · rfl
  | exportNamed isTypeOnly =>
    rcases ps with _ | ⟨specifiers, _ | ⟨source, attributes⟩⟩
    · rfl
    · rfl
    · show (if (view (g source)).form = .absent then g specifiers :: attributes.map g
        else attributes.map g) = (if (view (g source)).form = .absent then
          specifiers :: attributes else attributes).map g
      split <;> rfl
  | _ => rfl

theorem mem_of_mem_usingParts {α : Type} {view : α → Node} {f : Form} {ps : List α} {p : α}
    (h : p ∈ usingParts view f ps) : p ∈ ps := by
  unfold usingParts at h
  split at h
  case h_8 =>
    rcases List.mem_cons.mp h with rfl | h
    · exact List.mem_cons_self
    · exact List.mem_cons_of_mem _ (List.mem_cons_of_mem _ h)
  case h_9 =>
    split at h
    · rcases List.mem_cons.mp h with rfl | h
      · exact List.mem_cons_self
      · exact List.mem_cons_of_mem _ (List.mem_cons_of_mem _ h)
    · exact List.mem_cons_of_mem _ (List.mem_cons_of_mem _ h)
  case h_10 => exact h
  all_goals cases h

/-- **One node.**  Its uses are its own and those of its parts. -/
theorem uses_mk (f : Form) (s : Option Span) (ps : List Node) :
    uses (.mk f s ps) = ownUses f ++ (usingParts id f ps).flatMap uses := by
  rw [uses, Node.fold_mk]
  unfold usesStep
  rw [usingParts_map, List.flatMap_map]
  rfl

/-- Which parts are looked into depends only on which of them are there. -/
theorem usingParts_congr {α : Type} {view view' : α → Node} {ps : List α}
    (h : ∀ p ∈ ps, (view p).form = .absent ↔ (view' p).form = .absent) (f : Form) :
    usingParts view f ps = usingParts view' f ps := by
  cases f with
  | call => rcases ps with _ | ⟨callee, _ | ⟨types, args⟩⟩ <;> rfl
  | exportNamed isTypeOnly =>
    rcases ps with _ | ⟨specifiers, _ | ⟨source, attributes⟩⟩
    · rfl
    · rfl
    · have hsource := h source (by simp)
      unfold usingParts
      simp only [hsource]
  | _ => rfl

/-- Walking over the parts changes their uses only. -/
theorem uses_mk_map {walk : Node → Node} (f : Form) (s : Option Span) (ps : List Node)
    (hwalk : ∀ p ∈ ps, (walk p).form = .absent ↔ p.form = .absent) :
    uses (.mk f s (ps.map walk)) =
      ownUses f ++ (usingParts id f ps).flatMap fun p => uses (walk p) := by
  rw [uses_mk, usingParts_map, List.flatMap_map]
  show _ ++ (usingParts walk f ps).flatMap _ = _
  rw [usingParts_congr hwalk f]
  rfl

/-! ### The children of a layout -/

/-- A part that mentions the children is mentioned by the whole. -/
theorem mentionsChildren_of_part {f : Form} {s : Option Span} {ps : List Node} {p : Node}
    (hp : p ∈ usingParts id f ps) (h : ShellCount.mentionsChildren p = true) :
    ShellCount.mentionsChildren (.mk f s ps) = true := by
  have hany : (ps.map fun p => (p, ShellCount.mentionsChildren p)).any (·.2) = true := by
    rw [List.any_map, List.any_eq_true]
    exact ⟨p, mem_of_mem_usingParts hp, h⟩
  have hstep : ShellCount.mentionsStep f s
      (ps.map fun p => (p, ShellCount.mentionsChildren p)) = true := by
    unfold ShellCount.mentionsStep
    split
    case h_7 => rw [hany, Bool.or_true]
    case h_8 => exact hany
    all_goals cases hp
  rw [ShellCount.mentionsChildren, Node.fold_mk]
  exact hstep

/-- A tree that uses the children mentions them. -/
theorem mentionsChildren_of_mem_uses {n : Node} {u : Use} (h : u ∈ uses n)
    (hname : u.name = "children") : ShellCount.mentionsChildren n = true := by
  induction n using Node.induct with
  | mk f s ps ih =>
    rw [uses_mk] at h
    rcases List.mem_append.mp h with hown | hpart
    · rw [ShellCount.mentionsChildren, Node.fold_mk]
      unfold ownUses at hown
      split at hown
      case h_4 => cases hown
      all_goals
        obtain rfl := List.mem_singleton.mp hown
        exact beq_iff_eq.mpr hname
    · obtain ⟨p, hp, hu⟩ := List.mem_flatMap.mp hpart
      exact mentionsChildren_of_part hp (ih p (mem_of_mem_usingParts hp) hu)

end RouteMigration.Migration
