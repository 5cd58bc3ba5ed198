import Mathlib.Algebra.BigOperators.Ring.List
import Mathlib.Algebra.Ring.Nat
import RouteMigration.Proofs.Bare

/-!
# Nodes of a tree

Counting in a tree: its nodes in a list, and the weights of all of them together.  A walk that
changes a tree is weighed part by part, and what it gives is read off the list of nodes.

## Main Definitions

* `nodes` — the nodes of a tree outside of its types
* `Within` — what stands in a tree, in its types too
* `childrenOf` — the children of an element or fragment
* `elementCount` — how many elements of a name there are
* `total` — the weights of the nodes of a tree, together

## Main Statements

* `total_mk` — the weight of a tree is that of its root and those of its parts
* `countP_eq_total` — counting nodes is weighing them

## Design Notes

Types are left out, as every walk leaves them alone.  So are the elements in them, of which there
can be some: the key of a member of an object type may be any expression.  `Within` is for these.
-/

namespace RouteMigration.Migration

variable {f : Form} {s : Option Span} {ps : List Node} {n m : Node} {name : String}

/-! ### The list of nodes -/

/-- One step of `nodes`. -/
def nodesStep (form : Form) (span : Option Span) (parts : List (Node × List Node)) : List Node :=
  match form with
  | .type _ => []
  | _ => .mk form span (parts.map (·.1)) :: parts.flatMap (·.2)

/-- The nodes of a tree, from the root down; types are left out. -/
def nodes : Node → List Node := Node.fold nodesStep

/-- A node stands in a tree, in one of its types or outside of them. -/
inductive Within (m : Node) : Node → Prop
  | root : Within m m
  | part {f : Form} {s : Option Span} {ps : List Node} {p : Node} (hp : p ∈ ps) (h : Within m p) :
      Within m (.mk f s ps)

/-- The children of an element or fragment. -/
def childrenOf : Node → List Node
  | .mk .fragment _ children => children
  | .mk .element _ [_, .mk .seq _ children, _] => children
  | _ => []

/-- How many elements of a name a tree has. -/
def elementCount (name : String) (n : Node) : Nat := (nodes n).countP (Shape.isElement name)

theorem nodes_type (t : TypeForm) (s : Option Span) (ps : List Node) :
    nodes (.mk (.type t) s ps) = [] := by
  rw [nodes, Node.fold_mk, nodesStep]

theorem nodes_mk (htype : ∀ t, f ≠ .type t) (s : Option Span) (ps : List Node) :
    nodes (.mk f s ps) = .mk f s ps :: ps.flatMap nodes := by
  rw [nodes, Node.fold_mk]
  unfold nodesStep
  split
  · exact absurd rfl (htype _)
  · rw [Node.map_fst_walk, List.flatMap_map]

theorem mem_nodes_mk (htype : ∀ t, f ≠ .type t) :
    m ∈ nodes (.mk f s ps) ↔ m = .mk f s ps ∨ ∃ p ∈ ps, m ∈ nodes p := by
  rw [nodes_mk htype, List.mem_cons, List.mem_flatMap]

theorem within_of_mem_nodes (h : m ∈ nodes n) : Within m n := by
  induction n using Node.induct with
  | mk f s ps ih =>
    by_cases htype : ∃ t, f = .type t
    · obtain ⟨t, rfl⟩ := htype
      rw [nodes_type] at h
      cases h
    · rcases (mem_nodes_mk (not_exists.mp htype)).mp h with rfl | ⟨p, hp, hm⟩
      · exact .root
      · exact .part hp (ih p hp hm)

theorem forall_nodes_part {q : Node → Prop} (htype : ∀ t, f ≠ .type t)
    (h : ∀ m ∈ nodes (.mk f s ps), q m) : ∀ p ∈ ps, ∀ m ∈ nodes p, q m :=
  fun p hp m hm => h m ((mem_nodes_mk htype).mpr (Or.inr ⟨p, hp, hm⟩))

theorem mem_nodes_self (hname : Shape.isElement name n = true) : n ∈ nodes n := by
  obtain ⟨s, os, b, ts, tps, types, attrs, children, closing, rfl⟩ := isElement_iff.mp hname
  exact (mem_nodes_mk (by simp)).mpr (Or.inl rfl)

/-- The elements in what is no element itself are those in its parts. -/
theorem mem_nodes_parts (hname : Shape.isElement name m = true) (hf : f ≠ .element)
    (htype : ∀ t, f ≠ .type t) : m ∈ nodes (.mk f s ps) ↔ ∃ p ∈ ps, m ∈ nodes p := by
  rw [mem_nodes_mk htype, or_iff_right]
  rintro rfl
  obtain ⟨_, _, _, _, _, _, _, _, _, heq⟩ := isElement_iff.mp hname
  exact hf (Node.mk.inj heq).1

/-! ### Weights -/

/-- The weights of the nodes of a tree, together. -/
def total (w : Node → Nat) (n : Node) : Nat := ((nodes n).map w).sum

theorem total_type (w : Node → Nat) (t : TypeForm) (s : Option Span) (ps : List Node) :
    total w (.mk (.type t) s ps) = 0 := by
  rw [total, nodes_type]
  rfl

/-- The weight of a tree is that of its root and those of its parts. -/
theorem total_mk (htype : ∀ t, f ≠ .type t) (w : Node → Nat) (s : Option Span) (ps : List Node) :
    total w (.mk f s ps) = w (.mk f s ps) + (ps.map (total w)).sum := by
  rw [total, nodes_mk htype, List.map_cons, List.sum_cons, List.map_flatMap, List.flatMap_def,
    List.sum_flatten, List.map_map]
  rfl

theorem total_add (w w' : Node → Nat) (n : Node) :
    total (fun m => w m + w' m) n = total w n + total w' n :=
  List.sum_map_add

theorem total_mul (w : Node → Nat) (k : Nat) (n : Node) :
    total (fun m => w m * k) n = total w n * k :=
  List.sum_map_mul_right ..

theorem total_zero (n : Node) : total (fun _ => 0) n = 0 := by
  simp [total]

/-- Counting nodes is weighing them. -/
theorem countP_eq_total (p : Node → Bool) (n : Node) :
    (nodes n).countP p = total (fun m => if p m then 1 else 0) n := by
  rw [total]
  induction nodes n with
  | nil => rfl
  | cons m ms ih => simp [List.countP_cons, ih, Nat.add_comm]

end RouteMigration.Migration
