import Mathlib.Data.List.Basic
import RouteMigration.Migration.Register

/-!
# Bindings at the top of a module

The steps of a migration change expressions all over a module, but the places where its names are
bound, and how, are decided by a small part of each item.  The sketch of an item is that part.

## Main Definitions

* `lexicalNames` — the names that an item binds by `const`, `let` or `class`
* `sketchOf`, `sketch` — what of an item, and of a module, the registration looks at

* `Keeps` — a walk over trees that leaves nodes of certain forms as they are
* `Rebuilds` — a walk that changes nodes of certain forms only

## Main Statements

* `lexicalNames_walk` — a walk that keeps declarations and patterns keeps the names they bind
* `sketchOf_walk` — a walk that changes expressions only keeps the sketch of every tree
* `metadata?_walk` — such a walk changes metadata as it changes the properties of objects
* `soleValue?_sketchOf`, `metadata?_sketchOf` — the value and the metadata of an item can be read
  off its sketch
-/

namespace RouteMigration

/-! ### Bound names -/

/-- The parts of a pattern that names are bound in; a key or a default binds nothing. -/
def bindingParts {α : Type} (form : Form) (parts : List α) : List α :=
  match form with
  | .keyValuePattern => parts.drop 1
  | .bindingProperty | .assignPattern | .restPattern | .arrayPattern _ | .objectPattern _ =>
    parts.take 1
  | .seq => parts
  | _ => []

/-- One step of `patternNames`. -/
def patternNamesStep (form : Form) (_ : Option Span) (parts : List (Node × List String)) :
    List String :=
  match form with
  | .binding name _ => [name]
  | _ => (bindingParts form parts).flatMap (·.2)

/-- The names that a pattern binds. -/
def patternNames : Node → List String := Node.fold patternNamesStep

theorem bindingParts_map {α β : Type} (g : α → β) (f : Form) (ps : List α) :
    bindingParts f (ps.map g) = (bindingParts f ps).map g := by
  unfold bindingParts
  split
  · rw [List.map_drop]
  all_goals simp [List.map_take]

theorem patternNames_mk (f : Form) (s : Option Span) (ps : List Node) :
    patternNames (.mk f s ps) =
      match f with
      | .binding name _ => [name]
      | _ => (bindingParts f ps).flatMap patternNames := by
  rw [patternNames, Node.fold_mk]
  unfold patternNamesStep
  split
  · rfl
  · rw [bindingParts_map, List.flatMap_map]

/-- The names that a declarator binds. -/
def declaratorNames : Node → List String
  | .declarator _ _ pattern _ => patternNames pattern
  | _ => []

/-- The names that an item binds by `const` or `let`, exported or not. -/
def variableNames (item : Node) : List String :=
  match Shape.declaration item with
  | .varDecl _ kind _ ds =>
    if kind = .lexical || kind = .const then ds.flatMap declaratorNames else []
  | _ => []

/-- What an item declares, exported in any way or not. -/
def declared : Node → Node
  | .exportDefaultDecl _ d => d
  | item => Shape.declaration item

/-- The name that an identifier gives to a declaration. -/
def identNames (n : Node) : List String :=
  match n.form with
  | .ident name => [name]
  | _ => []

/-- The name that a declaration gives to a class. -/
def declaredClass : Node → List String
  | .mk (.classDecl _) _ (name :: _) | .mk .classExpr _ (name :: _) => identNames name
  | _ => []

/-- The name that an item binds by `class`, exported or not. -/
def classNames (item : Node) : List String := declaredClass (declared item)

/-- The names that an item binds and that cannot be read before it has run. -/
def lexicalNames (item : Node) : List String := variableNames item ++ classNames item

/-! ### Walks -/

/-- How much of a node a walk over trees leaves as it is. -/
inductive Kept where
  /-- Its form; its parts are walked over. -/
  | whole
  /-- Its form alone. -/
  | root
  /-- Nothing but that. -/
  | nothing
deriving DecidableEq, Repr

/-- A walk that leaves of every node what `kept` says, by its form, and makes no node look like one
of which it leaves more. -/
structure Keeps (kept : Form → Kept) (walk : Node → Node) : Prop where
  whole : ∀ {f : Form} (s : Option Span) (ps : List Node), kept f = .whole →
    ∃ s', walk (.mk f s ps) = .mk f s' (ps.map walk)
  root : ∀ {f : Form} (s : Option Span) (ps : List Node), kept f = .root →
    (walk (.mk f s ps)).form = f
  nothing : ∀ {f : Form} (s : Option Span) (ps : List Node), kept f = .nothing →
    kept (walk (.mk f s ps)).form = .nothing

namespace Keeps

variable {kept : Form → Kept} {walk : Node → Node}

/-- As much is left of a node after the walk as before. -/
theorem kept_form (hwalk : Keeps kept walk) (n : Node) : kept (walk n).form = kept n.form := by
  obtain ⟨f, s, ps⟩ := n
  cases hf : kept f with
  | whole =>
    obtain ⟨s', hmk⟩ := hwalk.whole s ps hf
    rw [hmk]
    rfl
  | root => rw [hwalk.root s ps hf, Node.form]
  | nothing => rw [hwalk.nothing s ps hf, Node.form, hf]

/-- What a tree has after the walk, it had before. -/
theorem of_eq (hwalk : Keeps kept walk) {n : Node} {f : Form} {s' : Option Span} {ps' : List Node}
    (hf : kept f = .whole) (h : walk n = .mk f s' ps') :
    ∃ s ps, n = .mk f s ps ∧ ps.map walk = ps' := by
  obtain ⟨g, s, ps⟩ := n
  have hkept := hwalk.kept_form (.mk g s ps)
  rw [h, Node.form, Node.form] at hkept
  obtain ⟨s'', hmk⟩ := hwalk.whole s ps (hkept.symm.trans hf)
  rw [hmk] at h
  obtain ⟨rfl, -, rfl⟩ := Node.mk.inj h
  exact ⟨s, ps, rfl, rfl⟩

/-- A tree with one part had one part before. -/
theorem of_eq_single (hwalk : Keeps kept walk) {n : Node} {f : Form} {s' : Option Span} {p' : Node}
    (hf : kept f = .whole) (h : walk n = .mk f s' [p']) :
    ∃ s p, n = .mk f s [p] ∧ walk p = p' := by
  obtain ⟨s, ps, rfl, hps⟩ := hwalk.of_eq hf h
  obtain ⟨p, rfl⟩ := List.length_eq_one_iff.mp (by simpa using congrArg List.length hps)
  exact ⟨s, p, rfl, by simpa using hps⟩

theorem form_eq (hwalk : Keeps kept walk) {n : Node} (h : kept n.form ≠ .nothing) :
    (walk n).form = n.form := by
  obtain ⟨f, s, ps⟩ := n
  cases hf : kept f with
  | whole =>
    obtain ⟨s', hmk⟩ := hwalk.whole s ps hf
    rw [hmk]
    rfl
  | root => exact hwalk.root s ps hf
  | nothing => exact absurd hf h

/-- A form of which something is kept is one that the tree had before. -/
theorem form_ne (hwalk : Keeps kept walk) {n : Node} {f : Form} (hf : kept f ≠ .nothing)
    (h : n.form ≠ f) : (walk n).form ≠ f := by
  intro hform
  have hkept := hwalk.kept_form n
  rw [hform] at hkept
  exact h ((hwalk.form_eq (hkept ▸ hf)).symm.trans hform)

end Keeps

/-- A walk that treats nodes of special forms in its own way, without making them look like others,
and rebuilds every other node from its parts. -/
structure Rebuilds (special : Form → Bool) (walk : Node → Node) : Prop where
  plain : ∀ {f : Form} (s : Option Span) (ps : List Node), special f = false →
    walk (.mk f s ps) = .mk f s (ps.map walk)
  special : ∀ {f : Form} (s : Option Span) (ps : List Node), special f = true →
    special (walk (.mk f s ps)).form = true

namespace Rebuilds

variable {special special' : Form → Bool} {walk : Node → Node}

theorem fold {step : Form → Option Span → List (Node × Node) → Node}
    (hplain : ∀ f s parts, special f = false → step f s parts = .mk f s (parts.map (·.2)))
    (hspecial : ∀ f s parts, special f = true → special (step f s parts).form = true) :
    Rebuilds special (Node.fold step) where
  plain := by
    intro f s ps hf
    rw [Node.fold_mk, hplain f s _ hf, Node.map_snd_walk]
  special := by
    intro f s ps hf
    rw [Node.fold_mk]
    exact hspecial f s _ hf

/-- More forms may be taken as special. -/
theorem mono (h : Rebuilds special walk) (hsub : ∀ f, special f = true → special' f = true) :
    Rebuilds special' walk where
  plain := by
    intro f s ps hf
    refine h.plain s ps (Bool.eq_false_iff.mpr fun hspecial => ?_)
    rw [hsub f hspecial] at hf
    cases hf
  special := by
    intro f s ps hf
    cases hspecial : special f with
    | false =>
      rw [h.plain s ps hspecial]
      exact hf
    | true => exact hsub _ (h.special s ps hspecial)

/-- What a tree is after the walk, it was before, unless that is something special. -/
theorem of_eq (h : Rebuilds special walk) {n : Node} {f : Form} {s : Option Span}
    {ps' : List Node} (hf : special f = false) (heq : walk n = .mk f s ps') :
    ∃ ps, n = .mk f s ps ∧ ps.map walk = ps' := by
  obtain ⟨g, s', ps⟩ := n
  cases hg : special g with
  | false =>
    rw [h.plain s' ps hg] at heq
    obtain ⟨rfl, rfl, rfl⟩ := Node.mk.inj heq
    exact ⟨ps, rfl, rfl⟩
  | true =>
    have hform := h.special s' ps hg
    rw [heq] at hform
    exact absurd hform (by simp [Node.form, hf])

/-- What has one part after the walk had one part before it. -/
theorem of_eq_single (h : Rebuilds special walk) {n p' : Node} {f : Form} {s : Option Span}
    (hf : special f = false) (heq : walk n = .mk f s [p']) :
    ∃ p, n = .mk f s [p] ∧ walk p = p' := by
  obtain ⟨ps, rfl, hps⟩ := h.of_eq hf heq
  obtain ⟨p, rfl, hp⟩ := List.map_eq_singleton_iff.mp hps
  exact ⟨p, rfl, hp⟩

/-- What has two parts after the walk had two parts before it. -/
theorem of_eq_pair (h : Rebuilds special walk) {n p' q' : Node} {f : Form} {s : Option Span}
    (hf : special f = false) (heq : walk n = .mk f s [p', q']) :
    ∃ p q, n = .mk f s [p, q] ∧ walk p = p' ∧ walk q = q' := by
  obtain ⟨ps, rfl, hps⟩ := h.of_eq hf heq
  obtain ⟨p, rest, rfl, hp, hrest⟩ := List.map_eq_cons_iff.mp hps
  obtain ⟨q, rfl, hq⟩ := List.map_eq_singleton_iff.mp hrest
  exact ⟨p, q, rfl, hp, hq⟩

/-- A form that is not special is one that the tree had before. -/
theorem form_eq_iff (h : Rebuilds special walk) {f : Form} (hf : special f = false) (n : Node) :
    (walk n).form = f ↔ n.form = f := by
  obtain ⟨g, s, ps⟩ := n
  cases hg : special g with
  | false => rw [h.plain s ps hg, Node.form, Node.form]
  | true =>
    have hne : ∀ g', special g' = true → g' ≠ f := by
      rintro g' hg' rfl
      rw [hf] at hg'
      cases hg'
    exact iff_of_false (hne _ (h.special s ps hg)) (hne g hg)

/-- Such a walk keeps what is not special. -/
theorem keeps (h : Rebuilds special walk) {kept : Form → Kept}
    (hkept : ∀ f, special f = true → kept f = .nothing) : Keeps kept walk := by
  have hplain : ∀ f, kept f ≠ .nothing → special f = false :=
    fun f hf => Bool.eq_false_iff.mpr fun hspecial => hf (hkept f hspecial)
  constructor
  · intro f s ps hf
    exact ⟨s, h.plain s ps (hplain f (by simp [hf]))⟩
  · intro f s ps hf
    rw [h.plain s ps (hplain f (by simp [hf]))]
    rfl
  · intro f s ps hf
    cases hspecial : special f with
    | false =>
      rw [h.plain s ps hspecial]
      exact hf
    | true => exact hkept _ (h.special s ps hspecial)

end Rebuilds

/-! ### Walks that keep names -/

/-- What has to be kept of a node so that the names that are bound stay the same. -/
def keptForNames : Form → Kept
  | .exportDecl | .exportDefaultDecl | .varDecl _ _ | .declarator _ | .classDecl _ | .classExpr
  | .arrayPattern _ | .objectPattern _ | .assignPattern | .restPattern | .keyValuePattern
  | .bindingProperty | .seq => .whole
  | .binding _ _ | .ident _ => .root
  | _ => .nothing

theorem bindingParts_of_ne_whole {f : Form} (h : keptForNames f ≠ .whole) (ps : List Node) :
    bindingParts f ps = [] := by
  unfold bindingParts
  split
  case h_8 => rfl
  all_goals exact absurd rfl h

theorem mem_of_mem_bindingParts {f : Form} {ps : List Node} {p : Node}
    (h : p ∈ bindingParts f ps) : p ∈ ps := by
  unfold bindingParts at h
  split at h
  case h_1 => exact List.mem_of_mem_drop h
  case h_7 => exact h
  case h_8 => exact absurd h (by simp)
  all_goals exact List.mem_of_mem_take h

theorem patternNames_of_nothing {n : Node} (h : keptForNames n.form = .nothing) :
    patternNames n = [] := by
  obtain ⟨f, s, ps⟩ := n
  obtain h : keptForNames f = .nothing := h
  rw [patternNames_mk, bindingParts_of_ne_whole (by simp [h])]
  split
  · exact absurd h (by simp [keptForNames])
  · rfl

/-- The declarator has a pattern and a value, which may be absent. -/
def IsDeclarator (d : Node) : Prop :=
  ∃ s isDefinite pattern value, d = .declarator s isDefinite pattern value

section KeepsNames

variable {walk : Node → Node}

theorem patternNames_walk (hwalk : Keeps keptForNames walk) (n : Node) :
    patternNames (walk n) = patternNames n := by
  induction n using Node.induct with
  | mk f s ps ih =>
    cases hf : keptForNames f with
    | whole =>
      obtain ⟨s', hmk⟩ := hwalk.whole s ps hf
      rw [hmk, patternNames_mk, patternNames_mk]
      split
      · rfl
      · rw [bindingParts_map, List.flatMap_map]
        exact List.flatMap_congr fun p hp => ih p (mem_of_mem_bindingParts hp)
    | root =>
      -- only the form is kept, and a form of this kind has no parts that bind
      have hform := hwalk.root s ps hf
      generalize walk (.mk f s ps) = n at hform ⊢
      obtain ⟨g, s', ps'⟩ := n
      obtain rfl : g = f := hform
      rw [patternNames_mk, patternNames_mk]
      split
      · rfl
      · rw [bindingParts_of_ne_whole (by simp [hf]), bindingParts_of_ne_whole (by simp [hf])]
    | nothing =>
      rw [patternNames_of_nothing (hwalk.nothing s ps hf),
        patternNames_of_nothing (n := .mk f s ps) hf]

theorem not_isDeclarator_walk (hwalk : Keeps keptForNames walk) {d : Node}
    (h : ¬IsDeclarator d) : ¬IsDeclarator (walk d) := by
  rintro ⟨s, isDefinite, pattern, value, heq⟩
  obtain ⟨s', ps, rfl, hps⟩ := hwalk.of_eq rfl heq
  obtain ⟨p, v, rfl⟩ := List.length_eq_two.mp (by simpa using congrArg List.length hps)
  exact h ⟨s', isDefinite, p, v, rfl⟩

theorem declaratorNames_walk (hwalk : Keeps keptForNames walk) (d : Node) :
    declaratorNames (walk d) = declaratorNames d := by
  by_cases hd : IsDeclarator d
  · obtain ⟨s, isDefinite, pattern, value, rfl⟩ := hd
    obtain ⟨s', hmk⟩ := hwalk.whole (f := .declarator isDefinite) s [pattern, value] rfl
    rw [hmk]
    exact patternNames_walk hwalk pattern
  · have hnil : ∀ n : Node, ¬IsDeclarator n → declaratorNames n = [] := by
      intro n hn
      unfold declaratorNames
      split
      · exact absurd ⟨_, _, _, _, rfl⟩ hn
      · rfl
    rw [hnil d hd, hnil _ (not_isDeclarator_walk hwalk hd)]

theorem declaration_walk (hwalk : Keeps keptForNames walk) (item : Node) :
    Shape.declaration (walk item) = walk (Shape.declaration item) := by
  by_cases hitem : ∃ s d, item = .exportDecl s d
  · obtain ⟨s, d, rfl⟩ := hitem
    obtain ⟨s', hmk⟩ := hwalk.whole (f := .exportDecl) s [d] rfl
    rw [hmk]
    rfl
  · have hne : ∀ n : Node, (¬∃ s d, n = .exportDecl s d) → Shape.declaration n = n := by
      intro n hn
      unfold Shape.declaration
      split
      · exact absurd ⟨_, _, rfl⟩ hn
      · rfl
    rw [hne item hitem, hne]
    rintro ⟨s, d, heq⟩
    obtain ⟨s', d', rfl, -⟩ := hwalk.of_eq_single rfl heq
    exact hitem ⟨s', d', rfl⟩

theorem declared_walk (hwalk : Keeps keptForNames walk) (item : Node) :
    declared (walk item) = walk (declared item) := by
  by_cases hitem : ∃ s d, item = .exportDefaultDecl s d
  · obtain ⟨s, d, rfl⟩ := hitem
    obtain ⟨s', hmk⟩ := hwalk.whole (f := .exportDefaultDecl) s [d] rfl
    rw [hmk]
    rfl
  · have hne : ∀ n : Node, (¬∃ s d, n = .exportDefaultDecl s d) →
        declared n = Shape.declaration n := by
      intro n hn
      unfold declared
      split
      · exact absurd ⟨_, _, rfl⟩ hn
      · rfl
    rw [hne item hitem, hne, declaration_walk hwalk]
    rintro ⟨s, d, heq⟩
    obtain ⟨s', d', rfl, -⟩ := hwalk.of_eq_single rfl heq
    exact hitem ⟨s', d', rfl⟩

theorem variableNames_walk (hwalk : Keeps keptForNames walk) (item : Node) :
    variableNames (walk item) = variableNames item := by
  unfold variableNames
  rw [declaration_walk hwalk]
  obtain ⟨f, s, ps⟩ := Shape.declaration item
  by_cases hf : ∃ kind isDeclare, f = .varDecl kind isDeclare
  · obtain ⟨kind, isDeclare, rfl⟩ := hf
    obtain ⟨s', hmk⟩ := hwalk.whole (f := .varDecl kind isDeclare) s ps rfl
    rw [hmk]
    simp only [List.flatMap_map, declaratorNames_walk hwalk]
  · split
    · next heq =>
      obtain ⟨s', ps', heq', -⟩ := hwalk.of_eq rfl heq
      exact absurd ⟨_, _, congrArg Node.form heq'⟩ hf
    · split
      · next heq => exact absurd ⟨_, _, congrArg Node.form heq⟩ hf
      · rfl

theorem identNames_walk (hwalk : Keeps keptForNames walk) (n : Node) :
    identNames (walk n) = identNames n := by
  unfold identNames
  by_cases hn : ∃ name, n.form = .ident name
  · obtain ⟨f, s, ps⟩ := n
    obtain ⟨name, rfl⟩ : ∃ name, f = .ident name := hn
    rw [hwalk.root s ps rfl]
    rfl
  · simp only [not_exists] at hn
    split
    · next name heq => exact absurd heq (hwalk.form_ne (by simp [keptForNames]) (hn name))
    · rfl

theorem declaredClass_of_ne {d : Node} (hexpr : d.form ≠ .classExpr)
    (hdecl : ∀ isDeclare, d.form ≠ .classDecl isDeclare) : declaredClass d = [] := by
  unfold declaredClass
  split
  · exact absurd rfl (hdecl _)
  · exact absurd rfl hexpr
  · rfl

theorem declaredClass_walk (hwalk : Keeps keptForNames walk) (d : Node) :
    declaredClass (walk d) = declaredClass d := by
  obtain ⟨f, s, ps⟩ := d
  by_cases hexpr : f = .classExpr
  · subst hexpr
    obtain ⟨s', hmk⟩ := hwalk.whole (f := .classExpr) s ps rfl
    rw [hmk]
    cases ps with
    | nil => rfl
    | cons name rest => exact identNames_walk hwalk name
  by_cases hdecl : ∃ isDeclare, f = .classDecl isDeclare
  · obtain ⟨isDeclare, rfl⟩ := hdecl
    obtain ⟨s', hmk⟩ := hwalk.whole (f := .classDecl isDeclare) s ps rfl
    rw [hmk]
    cases ps with
    | nil => rfl
    | cons name rest => exact identNames_walk hwalk name
  · simp only [not_exists] at hdecl
    rw [declaredClass_of_ne (d := .mk f s ps) hexpr hdecl]
    exact declaredClass_of_ne (hwalk.form_ne (by simp [keptForNames]) hexpr) fun isDeclare =>
      hwalk.form_ne (by simp [keptForNames]) (hdecl isDeclare)

/-- **Walks that keep names.**  An item binds the same names after the walk. -/
theorem lexicalNames_walk (hwalk : Keeps keptForNames walk) (item : Node) :
    lexicalNames (walk item) = lexicalNames item := by
  rw [lexicalNames, lexicalNames, variableNames_walk hwalk, classNames, classNames,
    declared_walk hwalk, declaredClass_walk hwalk]

end KeepsNames

/-! ### Sketches -/

/-- What the sketch of a node has of it. -/
def keptOf : Form → Kept
  | .paren | .asType | .satisfies | .asConst => .whole
  | .absent | .object | .arrow _ | .functionExpr => .root
  | f => keptForNames f

/-- What stands in a sketch for all that it leaves out. -/
def blank : Node := .mk .null none []

/-- One step of `sketchOf`. -/
def sketchStep (form : Form) (_ : Option Span) (parts : List (Node × Node)) : Node :=
  match keptOf form with
  | .whole => .mk form none (parts.map (·.2))
  | .root => .mk form none []
  | .nothing => blank

/-- The part of a tree that says which names are bound, and to what sort of value. -/
def sketchOf : Node → Node := Node.fold sketchStep

theorem sketchOf_mk (f : Form) (s : Option Span) (ps : List Node) :
    sketchOf (.mk f s ps) =
      match keptOf f with
      | .whole => .mk f none (ps.map sketchOf)
      | .root => .mk f none []
      | .nothing => blank := by
  rw [sketchOf, Node.fold_mk, sketchStep, Node.map_snd_walk]

theorem sketchOf_of_whole {f : Form} (h : keptOf f = .whole) (s : Option Span) (ps : List Node) :
    sketchOf (.mk f s ps) = .mk f none (ps.map sketchOf) := by
  rw [sketchOf_mk, h]

theorem sketchOf_of_root {n : Node} (h : keptOf n.form = .root) :
    sketchOf n = .mk n.form none [] := by
  obtain ⟨f, s, ps⟩ := n
  obtain h : keptOf f = .root := h
  rw [sketchOf_mk, h]
  rfl

theorem sketchOf_of_nothing {n : Node} (h : keptOf n.form = .nothing) : sketchOf n = blank := by
  obtain ⟨f, s, ps⟩ := n
  obtain h : keptOf f = .nothing := h
  rw [sketchOf_mk, h]

/-- **Walks over expressions.**  The sketch of a tree is the same after the walk. -/
theorem sketchOf_walk {walk : Node → Node} (hwalk : Keeps keptOf walk) (n : Node) :
    sketchOf (walk n) = sketchOf n := by
  induction n using Node.induct with
  | mk f s ps ih =>
    cases hf : keptOf f with
    | whole =>
      obtain ⟨s', hmk⟩ := hwalk.whole s ps hf
      rw [hmk, sketchOf_mk, sketchOf_mk, hf, List.map_map]
      exact congrArg _ (List.map_congr_left ih)
    | root =>
      have hform := hwalk.root s ps hf
      rw [sketchOf_of_root (by rw [hform, hf]), hform, sketchOf_mk, hf]
    | nothing =>
      rw [sketchOf_of_nothing (hwalk.nothing s ps hf), sketchOf_mk, hf]

/-- Drawing a sketch is a walk of this sort itself. -/
theorem keeps_sketchOf : Keeps keptOf sketchOf where
  whole := fun s ps hf => ⟨none, sketchOf_of_whole hf s ps⟩
  root := by
    intro f s ps hf
    rw [sketchOf_mk, hf]
    rfl
  nothing := by
    intro f s ps hf
    rw [sketchOf_mk, hf]
    rfl

/-- A sketch has the form of the tree, or leaves the tree out. -/
theorem form_sketchOf (n : Node) :
    (sketchOf n).form = n.form ∨ keptOf n.form = .nothing ∧ sketchOf n = blank := by
  obtain ⟨f, s, ps⟩ := n
  rw [sketchOf_mk]
  cases hf : keptOf f with
  | whole => exact Or.inl rfl
  | root => exact Or.inl rfl
  | nothing => exact Or.inr ⟨hf, rfl⟩

theorem keptOf_of_names {f : Form} (h : keptForNames f ≠ .nothing) : keptOf f = keptForNames f := by
  unfold keptOf
  split
  case h_9 => rfl
  all_goals exact absurd rfl h

/-- A walk that keeps what a sketch has keeps names. -/
theorem Keeps.names {walk : Node → Node} (hwalk : Keeps keptOf walk) : Keeps keptForNames walk where
  whole := by
    intro f s ps hf
    exact hwalk.whole s ps (by rw [keptOf_of_names (by simp [hf]), hf])
  root := by
    intro f s ps hf
    exact hwalk.root s ps (by rw [keptOf_of_names (by simp [hf]), hf])
  nothing := by
    intro f s ps hf
    -- what has a name after the walk has it in the sketch, and had it before
    by_contra hnames
    have hkept := hwalk.kept_form (.mk f s ps)
    rw [keptOf_of_names hnames, Node.form] at hkept
    rw [hwalk.form_eq (n := .mk f s ps) (fun hnothing => hnames (hkept.trans hnothing))] at hnames
    exact hnames hf

theorem keepsNames_sketchOf : Keeps keptForNames sketchOf := keeps_sketchOf.names

/-! ### Declarators -/

theorem declarators?_of_ne {n : Node} (h : ∀ kind isDeclare, n.form ≠ .varDecl kind isDeclare) :
    Shape.declarators? n = none := by
  unfold Shape.declarators?
  split
  · exact absurd rfl (h _ _)
  · rfl

theorem declarators?_walk {walk : Node → Node} (hwalk : Keeps keptForNames walk) (d : Node) :
    Shape.declarators? (walk d) = (Shape.declarators? d).map (·.map walk) := by
  by_cases hform : ∃ kind isDeclare, d.form = .varDecl kind isDeclare
  · obtain ⟨f, s, ps⟩ := d
    obtain ⟨kind, isDeclare, rfl⟩ : ∃ kind isDeclare, f = .varDecl kind isDeclare := hform
    obtain ⟨s', hmk⟩ := hwalk.whole (f := .varDecl kind isDeclare) s ps rfl
    rw [hmk]
    cases kind <;> rfl
  · simp only [not_exists] at hform
    rw [declarators?_of_ne hform, declarators?_of_ne]
    · rfl
    · exact fun kind isDeclare => hwalk.form_ne (by simp [keptForNames]) (hform kind isDeclare)

theorem declarators?_sketchOf (d : Node) :
    Shape.declarators? (sketchOf d) = (Shape.declarators? d).map (·.map sketchOf) :=
  declarators?_walk keepsNames_sketchOf d

/-- The sketch of a declarator, as far as it has the two parts of one. -/
theorem sketchOf_declarator (s : Option Span) (isDefinite : Bool) (pattern value : Node) :
    sketchOf (.declarator s isDefinite pattern value) =
      .declarator none isDefinite (sketchOf pattern) (sketchOf value) :=
  sketchOf_of_whole rfl s [pattern, value]

theorem boundName?_of_not {d : Node} (h : ¬IsDeclarator d) : Shape.boundName? d = none := by
  unfold Shape.boundName?
  split
  · exact absurd ⟨_, _, _, _, rfl⟩ h
  · rfl

theorem value?_of_not {d : Node} (h : ¬IsDeclarator d) : Shape.value? d = none := by
  unfold Shape.value?
  split
  · rfl
  · exact absurd ⟨_, _, _, _, rfl⟩ h
  · rfl

theorem boundName?_declarator (s : Option Span) (isDefinite : Bool) (pattern value : Node) :
    Shape.boundName? (.declarator s isDefinite pattern value) =
      match pattern.form with
      | .binding name _ => some name
      | _ => none := by
  obtain ⟨f, ps, parts⟩ := pattern
  cases f <;> rfl

theorem value?_declarator (s : Option Span) (isDefinite : Bool) (pattern value : Node) :
    Shape.value? (.declarator s isDefinite pattern value) =
      if value.form = .absent then none else some value := by
  obtain ⟨f, vs, parts⟩ := value
  cases f <;> rfl

/-- A declarator binds the same name after the walk. -/
theorem boundName?_walk {walk : Node → Node} (hwalk : Keeps keptForNames walk) (d : Node) :
    Shape.boundName? (walk d) = Shape.boundName? d := by
  by_cases hd : IsDeclarator d
  · obtain ⟨s, isDefinite, pattern, value, rfl⟩ := hd
    obtain ⟨s', hmk⟩ := hwalk.whole (f := .declarator isDefinite) s [pattern, value] rfl
    rw [hmk, List.map_cons, List.map_singleton, boundName?_declarator, boundName?_declarator]
    by_cases hbinding : ∃ name isOptional, pattern.form = .binding name isOptional
    · obtain ⟨name, isOptional, hform⟩ := hbinding
      rw [hwalk.form_eq (by simp [hform, keptForNames])]
    · simp only [not_exists] at hbinding
      split
      · next heq => exact absurd heq (hwalk.form_ne (by simp [keptForNames]) (hbinding _ _))
      · rfl
  · rw [boundName?_of_not hd, boundName?_of_not (not_isDeclarator_walk hwalk hd)]

theorem boundName?_sketchOf (d : Node) : Shape.boundName? (sketchOf d) = Shape.boundName? d :=
  boundName?_walk keepsNames_sketchOf d

/-- A value that is there is there after the walk. -/
theorem value?_walk {walk : Node → Node} (hwalk : Keeps keptOf walk) (d : Node) :
    Shape.value? (walk d) = (Shape.value? d).map walk := by
  by_cases hd : IsDeclarator d
  · obtain ⟨s, isDefinite, pattern, value, rfl⟩ := hd
    obtain ⟨s', hmk⟩ := hwalk.whole (f := .declarator isDefinite) s [pattern, value] rfl
    rw [hmk, List.map_cons, List.map_singleton, value?_declarator, value?_declarator]
    by_cases habsent : value.form = .absent
    · rw [if_pos habsent, if_pos]
      · rfl
      · rw [hwalk.form_eq (by simp [habsent, keptOf]), habsent]
    · rw [if_neg habsent, if_neg (hwalk.form_ne (by simp [keptOf]) habsent)]
      rfl
  · rw [value?_of_not hd, value?_of_not (not_isDeclarator_walk hwalk.names hd)]
    rfl

/-! ### Values -/

/-- What is in parentheses or under a type. -/
def wrapped? {α : Type} (form : Form) (parts : List α) : Option α :=
  match form, parts with
  | .paren, [e] | .asConst, [e] => some e
  | .asType, [e, _] | .satisfies, [e, _] => some e
  | _, _ => none

theorem wrapped?_map {α β : Type} (g : α → β) (f : Form) (ps : List α) :
    wrapped? f (ps.map g) = (wrapped? f ps).map g := by
  rcases ps with _ | ⟨a, _ | ⟨b, _ | ⟨c, ps⟩⟩⟩ <;> cases f <;> rfl

theorem unwrapStep_eq (f : Form) (s : Option Span) (parts : List (Node × Node)) :
    Shape.unwrapStep f s parts =
      match wrapped? f parts with
      | some e => e.2
      | none => .mk f s (parts.map (·.1)) := by
  rcases parts with _ | ⟨a, _ | ⟨b, _ | ⟨c, parts⟩⟩⟩ <;> cases f <;> rfl

theorem unwrapped_mk (f : Form) (s : Option Span) (ps : List Node) :
    Shape.unwrapped (.mk f s ps) =
      match wrapped? f ps with
      | some e => Shape.unwrapped e
      | none => .mk f s ps := by
  rw [Shape.unwrapped, Node.fold_mk, unwrapStep_eq, wrapped?_map, Node.map_fst_walk]
  cases wrapped? f ps <;> rfl

theorem mem_of_wrapped? {f : Form} {ps : List Node} {e : Node} (h : wrapped? f ps = some e) :
    e ∈ ps := by
  unfold wrapped? at h
  split at h
  case h_5 => exact absurd h (by simp)
  all_goals simp_all

theorem keptOf_of_wrapped? {f : Form} {ps : List Node} {e : Node} (h : wrapped? f ps = some e) :
    keptOf f = .whole := by
  unfold wrapped? at h
  split at h
  case h_5 => exact absurd h (by simp)
  all_goals rfl

/-- A walk that keeps parentheses and types changes what is in them, not what is around it. -/
theorem unwrapped_walk {kept : Form → Kept} {walk : Node → Node} (hwalk : Keeps kept walk)
    (hkept : ∀ {f : Form} {ps : List Node} {e : Node}, wrapped? f ps = some e → kept f = .whole)
    (v : Node) : Shape.unwrapped (walk v) = walk (Shape.unwrapped v) := by
  induction v using Node.induct with
  | mk f s ps ih =>
    rw [unwrapped_mk]
    cases he : wrapped? f ps with
    | some e =>
      obtain ⟨s', hmk⟩ := hwalk.whole s ps (hkept he)
      rw [hmk, unwrapped_mk, wrapped?_map, he]
      exact ih e (mem_of_wrapped? he)
    | none =>
      dsimp only
      by_cases hf : kept f = .whole
      · obtain ⟨s', hmk⟩ := hwalk.whole s ps hf
        rw [hmk, unwrapped_mk, wrapped?_map, he]
        rfl
      · have hform := hwalk.kept_form (.mk f s ps)
        generalize walk (.mk f s ps) = n at hform ⊢
        obtain ⟨g, s', ps'⟩ := n
        rw [unwrapped_mk]
        cases he' : wrapped? g ps' with
        | none => rfl
        | some e' => exact absurd (hform.symm.trans (hkept he')) hf

theorem unwrapped_sketchOf (v : Node) :
    Shape.unwrapped (sketchOf v) = sketchOf (Shape.unwrapped v) :=
  unwrapped_walk keeps_sketchOf keptOf_of_wrapped? v

theorem isLazy_sketchOf (v : Node) : Migration.isLazy (sketchOf v) = Migration.isLazy v := by
  unfold Migration.isLazy
  rw [unwrapped_sketchOf]
  rcases form_sketchOf (Shape.unwrapped v) with hform | ⟨hnothing, hblank⟩
  · rw [hform]
  · rw [hblank]
    split
    · exact absurd ‹_› (by simp [blank, Node.form])
    · exact absurd ‹_› (by simp [blank, Node.form])
    · split
      · next heq => exact absurd hnothing (by simp [heq, keptOf])
      · next heq => exact absurd hnothing (by simp [heq, keptOf])
      · rfl

theorem objectProperties?_sketchOf (v : Node) :
    Shape.objectProperties? (sketchOf v) = (Shape.objectProperties? v).map fun _ => [] := by
  unfold Shape.objectProperties?
  rw [unwrapped_sketchOf]
  obtain ⟨f, s, ps⟩ := Shape.unwrapped v
  by_cases hf : f = .object
  · subst hf
    rw [sketchOf_of_root rfl]
    rfl
  · have hne : (sketchOf (.mk f s ps)).form ≠ .object :=
      keeps_sketchOf.form_ne (by simp [keptOf]) hf
    split
    · next heq => exact absurd (by rw [heq]; rfl) hne
    · split
      · next heq => exact absurd (congrArg Node.form heq) hf
      · rfl

theorem soleValue?_sketchOf (name : String) (item : Node) :
    Migration.soleValue? name (sketchOf item) = (Migration.soleValue? name item).map sketchOf := by
  unfold Migration.soleValue?
  rw [declaration_walk keepsNames_sketchOf, declarators?_sketchOf]
  match Shape.declarators? (Shape.declaration item) with
  | none => rfl
  | some [] => rfl
  | some (d :: d' :: ds) => rfl
  | some [d] =>
    simp only [Option.map_some, List.map_cons, List.map_nil, boundName?_sketchOf,
      value?_walk keeps_sketchOf]
    split <;> rfl

/-! ### Metadata -/

section KeepsMetadata

variable {walk : Node → Node} {change : List Node → List Node}

/-- A walk that keeps what a sketch has changes metadata as it changes the properties of objects. -/
theorem metadataOf?_walk (hwalk : Keeps keptOf walk)
    (hchange : ∀ v, Shape.objectProperties? (walk v) = (Shape.objectProperties? v).map change)
    (d : Node) : Shape.metadataOf? (walk d) = (Shape.metadataOf? d).map change := by
  unfold Shape.metadataOf?
  rw [boundName?_walk hwalk.names, value?_walk hwalk]
  split
  · cases Shape.value? d with
    | none => rfl
    | some v => exact hchange v
  · rfl

theorem findMetadata?_walk (hwalk : Keeps keptOf walk)
    (hchange : ∀ v, Shape.objectProperties? (walk v) = (Shape.objectProperties? v).map change)
    (ds : List Node) (i : Nat) : Shape.findMetadata? i (ds.map walk) =
      (Shape.findMetadata? i ds).map fun m => (m.1, change m.2) := by
  induction ds generalizing i with
  | nil => rfl
  | cons d ds ih =>
    rw [List.map_cons, Shape.findMetadata?, Shape.findMetadata?, metadataOf?_walk hwalk hchange]
    cases Shape.metadataOf? d with
    | none => exact ih (i + 1)
    | some properties => rfl

/-- The item is an exported variable statement. -/
def IsExportedVariable (item : Node) : Prop :=
  ∃ s vs kind isDeclare ds, item = .exportDecl s (.varDecl vs kind isDeclare ds)

theorem not_isExportedVariable_walk (hwalk : Keeps keptForNames walk) {item : Node}
    (h : ¬IsExportedVariable item) : ¬IsExportedVariable (walk item) := by
  rintro ⟨s, vs, kind, isDeclare, ds, heq⟩
  obtain ⟨s', d', rfl, hd'⟩ := hwalk.of_eq_single rfl heq
  obtain ⟨vs', ds', rfl, -⟩ := hwalk.of_eq rfl hd'
  exact h ⟨s', vs', kind, isDeclare, ds', rfl⟩

theorem metadata?_of_not {item : Node} (h : ¬IsExportedVariable item) :
    Shape.metadata? item = none := by
  unfold Shape.metadata?
  split
  · exact absurd ⟨_, _, _, _, _, rfl⟩ h
  · rfl

/-- **Metadata after a walk** stands where it stood. -/
theorem metadata?_walk (hwalk : Keeps keptOf walk)
    (hchange : ∀ v, Shape.objectProperties? (walk v) = (Shape.objectProperties? v).map change)
    (item : Node) :
    Shape.metadata? (walk item) = (Shape.metadata? item).map fun m => (m.1, change m.2) := by
  by_cases hitem : IsExportedVariable item
  · obtain ⟨s, vs, kind, isDeclare, ds, rfl⟩ := hitem
    obtain ⟨s', hexport⟩ :=
      hwalk.whole (f := .exportDecl) s [.varDecl vs kind isDeclare ds] rfl
    obtain ⟨vs', hvar⟩ := hwalk.whole (f := .varDecl kind isDeclare) vs ds rfl
    rw [hexport, List.map_singleton, hvar, Shape.metadata?, Shape.metadata?]
    split
    · exact findMetadata?_walk hwalk hchange ds 0
    · rfl
  · rw [metadata?_of_not hitem, metadata?_of_not (not_isExportedVariable_walk hwalk.names hitem)]
    rfl

end KeepsMetadata

theorem metadataOf?_sketchOf (d : Node) :
    Shape.metadataOf? (sketchOf d) = (Shape.metadataOf? d).map fun _ => [] :=
  metadataOf?_walk keeps_sketchOf objectProperties?_sketchOf d

theorem metadata?_sketchOf (item : Node) :
    Shape.metadata? (sketchOf item) = (Shape.metadata? item).map fun m => (m.1, []) :=
  metadata?_walk keeps_sketchOf objectProperties?_sketchOf item

theorem sketchOf_exportedVariable (s vs : Option Span) (kind : VarKind) (isDeclare : Bool)
    (ds : List Node) :
    sketchOf (.exportDecl s (.varDecl vs kind isDeclare ds)) =
      .exportDecl none (.varDecl none kind isDeclare (ds.map sketchOf)) := by
  rw [sketchOf_of_whole rfl, List.map_singleton, sketchOf_of_whole rfl]

theorem removeAt_map (g : Node → Node) (i : Nat) (ds : List Node) :
    Migration.removeAt i (ds.map g) = (Migration.removeAt i ds).map g := by
  simp [Migration.removeAt, List.map_take, List.map_drop]

theorem dropDeclarator_sketchOf (i : Nat) (item : Node) :
    Migration.dropDeclarator i (sketchOf item) =
      (Migration.dropDeclarator i item).map sketchOf := by
  by_cases hitem : IsExportedVariable item
  · obtain ⟨s, vs, kind, isDeclare, ds, rfl⟩ := hitem
    rw [sketchOf_exportedVariable, Migration.dropDeclarator, Migration.dropDeclarator,
      removeAt_map]
    cases Migration.removeAt i ds with
    | nil => rfl
    | cons d rest =>
      exact congrArg (fun n => [n]) (sketchOf_exportedVariable s vs kind isDeclare _).symm
  · have hnil : ∀ n : Node, ¬IsExportedVariable n → Migration.dropDeclarator i n = [] := by
      intro n hn
      unfold Migration.dropDeclarator
      split
      · exact absurd ⟨_, _, _, _, _, rfl⟩ hn
      · rfl
    rw [hnil item hitem, hnil _ (not_isExportedVariable_walk keepsNames_sketchOf hitem)]
    rfl

end RouteMigration
