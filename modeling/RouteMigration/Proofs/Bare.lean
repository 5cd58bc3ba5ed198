import RouteMigration.Proofs.Bindings

/-!
# Trees without ranges

A step of a migration makes nodes without a range and moves others, so whether it has changed a
module is a question about trees from which all ranges are taken.

## Main Definitions

* `bare` — a tree without ranges

## Main Statements

* `bare_mk_inj` — trees are the same up to ranges if their roots and their parts are
* `map_bare_map_iff` — a list of trees is the same after a walk if each of them is
* `tag?_map` — a walk that leaves tags keeps the name of an element
-/

namespace RouteMigration

/-- One step of `bare`. -/
def bareStep (form : Form) (_ : Option Span) (parts : List (Node × Node)) : Node :=
  .mk form none (parts.map (·.2))

/-- A tree without ranges. -/
def bare : Node → Node := Node.fold bareStep

variable {f f' : Form} {s s' : Option Span} {ps ps' : List Node} {n n' : Node}

theorem bare_mk (f : Form) (s : Option Span) (ps : List Node) :
    bare (.mk f s ps) = .mk f none (ps.map bare) := by
  rw [bare, Node.fold_mk, bareStep, Node.map_snd_walk]

theorem bare_mk_inj :
    bare (.mk f s ps) = bare (.mk f' s' ps') ↔ f = f' ∧ ps.map bare = ps'.map bare := by
  rw [bare_mk, bare_mk, Node.mk.injEq, eq_self_iff_true, true_and]

theorem form_eq_of_bare (h : bare n = bare n') : n.form = n'.form := by
  obtain ⟨f, s, ps⟩ := n
  obtain ⟨f', s', ps'⟩ := n'
  exact (bare_mk_inj.mp h).1

theorem length_eq_of_bare (h : ps.map bare = ps'.map bare) : ps.length = ps'.length := by
  simpa using congrArg List.length h

/-- A walk leaves a list up to ranges if it leaves each tree in it. -/
theorem map_bare_map_iff {walk : Node → Node} :
    (ps.map walk).map bare = ps.map bare ↔ ∀ p ∈ ps, bare (walk p) = bare p := by
  rw [List.map_map]
  exact List.map_inj_left

/-- Taking the ranges away is a walk that keeps all forms. -/
theorem keeps_bare (kept : Form → Kept) : Keeps kept bare where
  whole := fun s ps _ => ⟨none, bare_mk _ s ps⟩
  root := by
    intro f s ps _
    rw [bare_mk]
    rfl
  nothing := by
    intro f s ps hf
    rw [bare_mk]
    exact hf

/-! ### Attributes -/

theorem attrName?_eq_some {a : Node} {name : String} :
    Shape.attrName? a = some name ↔ ∃ s ws value, a = .attr s (.word ws name) value := by
  constructor
  · intro h
    unfold Shape.attrName? at h
    split at h
    · cases h
      exact ⟨_, _, _, rfl⟩
    · cases h
  · rintro ⟨s, ws, value, rfl⟩
    rfl

/-- A walk that keeps attributes and keys keeps the names of attributes. -/
theorem attrName?_walk {kept : Form → Kept} {walk : Node → Node} (hwalk : Keeps kept walk)
    (hattr : kept .attr = .whole) (hword : ∀ name, kept (.word name) = .whole) (a : Node) :
    Shape.attrName? (walk a) = Shape.attrName? a := by
  refine Option.ext fun name => ?_
  rw [attrName?_eq_some, attrName?_eq_some]
  constructor
  · rintro ⟨s, ws, value, heq⟩
    obtain ⟨s', ps, rfl, hps⟩ := hwalk.of_eq hattr heq
    obtain ⟨word, rest, rfl, hname, hrest⟩ := List.map_eq_cons_iff.mp hps
    obtain ⟨value', rfl, -⟩ := List.map_eq_singleton_iff.mp hrest
    obtain ⟨ws', qs, rfl, hqs⟩ := hwalk.of_eq (hword name) hname
    obtain rfl := List.map_eq_nil_iff.mp hqs
    exact ⟨s', ws', value', rfl⟩
  · rintro ⟨s, ws, value, rfl⟩
    obtain ⟨s', hmk⟩ := hwalk.whole s [.word ws name, value] hattr
    obtain ⟨ws', hname⟩ := hwalk.whole ws [] (hword name)
    refine ⟨s', ws', walk value, ?_⟩
    rw [hmk, List.map_cons, List.map_singleton, hname, List.map_nil]

theorem attrName?_eq_of_bare {a a' : Node} (h : bare a = bare a') :
    Shape.attrName? a = Shape.attrName? a' := by
  have hbare := attrName?_walk (keeps_bare fun _ => .whole) rfl fun _ => rfl
  rw [← hbare, h, hbare]

/-! ### Tags -/

theorem tag?_eq_some {name : String} :
    Shape.tag? n = some name ↔ ∃ s os isSelfClosing ts tps types attrs children closing,
      n = .element s (.opening os isSelfClosing (.mk (.tag name) ts tps) types attrs) children
        closing := by
  constructor
  · intro h
    unfold Shape.tag? at h
    split at h
    · cases h
      exact ⟨_, _, _, _, _, _, _, _, _, rfl⟩
    · cases h
  · rintro ⟨s, os, isSelfClosing, ts, tps, types, attrs, children, closing, rfl⟩
    rfl

theorem isElement_iff {name : String} : Shape.isElement name n = true ↔
    ∃ s os isSelfClosing ts tps types attrs children closing,
      n = .element s (.opening os isSelfClosing (.mk (.tag name) ts tps) types attrs) children
        closing := by
  rw [Shape.isElement, beq_iff_eq, tag?_eq_some]

/-- An element has one name. -/
theorem isElement_eq_false {name name' : String} (hne : name ≠ name')
    (h : Shape.isElement name n = true) : Shape.isElement name' n = false := by
  rw [Shape.isElement, beq_iff_eq.mp h]
  simpa using hne

/-- The forms that an element has its name from. -/
def isOfTag : Form → Bool
  | .seq | .opening _ | .tag _ => true
  | _ => false

/-- **Names of elements.**  An element keeps its name when its parts are walked over, as long as
the walk leaves tags. -/
theorem tag?_map {special : Form → Bool} {walk : Node → Node} (hwalk : Rebuilds special walk)
    (hspecial : ∀ f, isOfTag f = true → special f = false) (f : Form) (s : Option Span)
    (ps : List Node) : Shape.tag? (.mk f s (ps.map walk)) = Shape.tag? (.mk f s ps) := by
  refine Option.ext fun name => ?_
  rw [tag?_eq_some, tag?_eq_some]
  constructor
  · rintro ⟨_, os, isSelfClosing, ts, tps, types, attrs, children, closing, heq⟩
    obtain ⟨rfl, rfl, hps⟩ := Node.mk.inj heq
    obtain ⟨opening, rest, rfl, hopening, hrest⟩ := List.map_eq_cons_iff.mp hps
    obtain ⟨seq, rest, rfl, hseq, hrest⟩ := List.map_eq_cons_iff.mp hrest
    obtain ⟨closing, rfl, -⟩ := List.map_eq_singleton_iff.mp hrest
    obtain ⟨cs, rfl, -⟩ := hwalk.of_eq (hspecial _ rfl) hseq
    obtain ⟨os, rfl, hos⟩ := hwalk.of_eq (hspecial _ rfl) hopening
    obtain ⟨tag, rest, rfl, htag, hrest⟩ := List.map_eq_cons_iff.mp hos
    obtain ⟨types, rest, rfl, -, hrest⟩ := List.map_eq_cons_iff.mp hrest
    obtain ⟨attrs, rfl, hattrs⟩ := List.map_eq_singleton_iff.mp hrest
    obtain ⟨tps, rfl, -⟩ := hwalk.of_eq (hspecial _ rfl) htag
    obtain ⟨attrs, rfl, -⟩ := hwalk.of_eq (hspecial _ rfl) hattrs
    exact ⟨_, _, _, _, _, _, _, _, _, rfl⟩
  · rintro ⟨s, os, isSelfClosing, ts, tps, types, attrs, children, closing, heq⟩
    obtain ⟨rfl, rfl, rfl⟩ := Node.mk.inj heq
    have hopening := hspecial (.opening isSelfClosing) rfl
    have htag := hspecial (.tag name) rfl
    have hseq := hspecial .seq rfl
    simp only [List.map_cons, List.map_nil, hwalk.plain _ _ hopening, hwalk.plain _ _ htag,
      hwalk.plain _ _ hseq]
    exact ⟨_, _, _, _, _, _, _, _, _, rfl⟩

end RouteMigration
