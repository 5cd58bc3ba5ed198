import RouteMigration.Grammar.Cursor
import RouteMigration.Proofs.ShellCounts

/-!
# Trees with their tags

The grammar builds trees of every form in many places, but elements in one only.  So what holds of
the tags of an element has to be proved there, and that it holds of all the elements in a tree is
carried through the other places: a node that is no element has its tags when its parts have.

## Main Definitions

* `Node.IsTagged` — every element in a tree has its tags, in its types too
* `AreTagged` — so has every tree in a value
* `Parse.YieldsTagged` — so has every tree that a reader finds

## Main Statements

* `areTagged_mk_iff` — the tags in a node that is no element
* `Parse.yieldsAt_bind`, `Parse.yieldsTagged_collect`, ... — readers made of others

## Design Notes

A reader is followed through its steps by `yieldsAt_bind` and what goes with it.  These rewrite the
claim about a reader into claims about what its steps find, and what a step finds has its tags by
the lemma for that step.  The lemmas are for `grind`, which does both; so the lemma for a rule of
the grammar names the rule, and nothing in it changes with the rule.
-/

namespace RouteMigration

open Migration

/-! ### Trees -/

/-- Every element in the tree has its tags, those in types too. -/
def Node.IsTagged (n : Node) : Prop := ∀ m, Within m n → hasTags m = true

theorem Node.isTagged_mk_iff {f : Form} {s : Option Span} {ps : List Node} :
    (Node.mk f s ps).IsTagged ↔ hasTags (.mk f s ps) = true ∧ ∀ p ∈ ps, p.IsTagged := by
  constructor
  · exact fun h => ⟨h _ .root, fun p hp m hm => h m (.part hp hm)⟩
  · rintro ⟨hroot, hparts⟩ m hm
    cases hm with
    | root => exact hroot
    | part hp hm => exact hparts _ hp m hm

/-- What types leave out has its tags too. -/
theorem Node.IsTagged.hasTags_of_mem_nodes {n m : Node} (h : n.IsTagged) (hm : m ∈ nodes n) :
    hasTags m = true :=
  h m (within_of_mem_nodes hm)

/-! ### Values -/

/-- Values that may hold trees. -/
class HoldsTrees (α : Type) where
  /-- Every tree in the value has its tags. -/
  areTagged : α → Prop

section Values

variable {α β : Type} [HoldsTrees α] [HoldsTrees β]

/-- Every tree in the value has its tags. -/
def AreTagged (a : α) : Prop := HoldsTrees.areTagged a

instance : HoldsTrees Bool := ⟨fun _ => True⟩
instance : HoldsTrees Node := ⟨Node.IsTagged⟩
instance : HoldsTrees (List α) := ⟨fun l => ∀ a ∈ l, AreTagged a⟩
instance : HoldsTrees (Option α) := ⟨fun o => ∀ a ∈ o, AreTagged a⟩
instance : HoldsTrees (α × β) := ⟨fun p => AreTagged p.1 ∧ AreTagged p.2⟩
instance {ε : Type} : HoldsTrees (Except ε α) := ⟨fun r => ∀ a, r = .ok a → AreTagged a⟩

@[grind .] theorem areTagged_bool (b : Bool) : AreTagged b := trivial

@[grind =] theorem areTagged_nil : AreTagged ([] : List α) ↔ True :=
  iff_true_intro fun _ h => nomatch h

@[grind =] theorem areTagged_cons {a : α} {l : List α} :
    AreTagged (a :: l) ↔ AreTagged a ∧ AreTagged l :=
  List.forall_mem_cons

@[grind =] theorem areTagged_none : AreTagged (none : Option α) ↔ True :=
  iff_true_intro fun _ h => nomatch h

@[grind =] theorem areTagged_some {a : α} : AreTagged (some a) ↔ AreTagged a :=
  ⟨fun h => h a rfl, fun h _ heq => Option.some.inj heq ▸ h⟩

@[grind =] theorem areTagged_pair {a : α} {b : β} :
    AreTagged (a, b) ↔ AreTagged a ∧ AreTagged b :=
  Iff.rfl

@[grind ←] theorem areTagged_map {f : α → β} {l : List α} (h : AreTagged l)
    (hf : ∀ a, AreTagged a → AreTagged (f a)) : AreTagged (l.map f) :=
  List.forall_mem_map.mpr fun a ha => hf a (h a ha)

@[grind ←] theorem areTagged_map_fst {l : List (α × β)} (h : AreTagged l) :
    AreTagged (l.map (·.1)) :=
  areTagged_map h fun _ ha => ha.1

@[grind ←] theorem areTagged_take {l : List α} (h : AreTagged l) (n : Nat) :
    AreTagged (l.take n) :=
  fun a ha => h a (List.mem_of_mem_take ha)

@[grind ←] theorem areTagged_append {l l' : List α} (h : AreTagged l) (h' : AreTagged l') :
    AreTagged (l ++ l') :=
  fun a ha => (List.mem_append.mp ha).elim (h a) (h' a)

@[grind ←] theorem areTagged_toList {o : Option α} (h : AreTagged o) : AreTagged o.toList :=
  fun a ha => h a (Option.mem_toList.mp ha)

@[grind ←] theorem areTagged_optionMap {f : α → β} {o : Option α} (h : AreTagged o)
    (hf : ∀ a, AreTagged a → AreTagged (f a)) : AreTagged (o.map f) := by
  cases o with
  | none => exact areTagged_none.mpr trivial
  | some a => exact areTagged_some.mpr (hf a (areTagged_some.mp h))

@[grind ←] theorem areTagged_getD {o : Option α} {a : α} (h : AreTagged o) (ha : AreTagged a) :
    AreTagged (o.getD a) := by
  cases o with
  | none => exact ha
  | some b => exact areTagged_some.mp h

@[grind norm] theorem areTagged_ite {b : Prop} [Decidable b] {x y : α} :
    AreTagged (if b then x else y) ↔ (b → AreTagged x) ∧ (¬b → AreTagged y) := by
  split <;> simp_all

@[grind ←] theorem areTagged_or {o o' : Option α} (h : AreTagged o) (h' : AreTagged o') :
    AreTagged (o.or o') := by
  cases o with
  | none => exact h'
  | some a => exact h

/-- A node that is no element has its tags if its parts have. -/
theorem areTagged_mk_iff {f : Form} (hf : f ≠ .element) {s : Option Span} {ps : List Node} :
    AreTagged (Node.mk f s ps) ↔ AreTagged ps := by
  have hroot : hasTags (.mk f s ps) = true := by
    unfold hasTags
    split
    · next heq => exact absurd (Node.mk.inj heq).1 hf
    · rfl
  exact Node.isTagged_mk_iff.trans (and_iff_right hroot)

@[grind ←] theorem areTagged_mk {f : Form} (hf : f ≠ .element) {s : Option Span} {ps : List Node}
    (h : AreTagged ps) : AreTagged (Node.mk f s ps) :=
  (areTagged_mk_iff hf).mpr h

@[grind →] theorem areTagged_parts {f : Form} {s : Option Span} {ps : List Node}
    (h : AreTagged (Node.mk f s ps)) : AreTagged ps :=
  (Node.isTagged_mk_iff.mp h).2

@[grind .] theorem areTagged_absent : AreTagged Node.absent :=
  areTagged_mk (by simp) (areTagged_nil.mpr trivial)

/-- Where a walk from the leaves up finds trees with their tags at each node, it does in the whole
tree. -/
theorem areTagged_fold {step : Form → Option Span → List (Node × α) → α}
    (hstep : ∀ f s ps, AreTagged (Node.mk f s (ps.map (·.1))) → AreTagged ps →
      AreTagged (step f s ps)) (n : Node) (hn : AreTagged n) : AreTagged (n.fold step) := by
  induction n using Node.induct with
  | mk f s ps ih =>
    rw [Node.fold_mk]
    refine hstep f s _ ?_ ?_
    · rwa [Node.map_fst_walk]
    · intro r hr
      obtain ⟨p, hp, rfl⟩ := List.mem_map.mp hr
      exact ⟨areTagged_parts hn p hp, ih p hp (areTagged_parts hn p hp)⟩

section Faults

variable {ε : Type} {e : ε} {a : α} {r : Except ε α} {f : α → Except ε β}

@[grind =] theorem areTagged_ok : AreTagged (.ok a : Except ε α) ↔ AreTagged a :=
  ⟨fun h => h a rfl, fun h _ heq => Except.ok.inj heq ▸ h⟩

@[grind =] theorem areTagged_error : AreTagged (.error e : Except ε α) ↔ True :=
  iff_true_intro fun _ h => nomatch h

@[grind norm] theorem areTagged_throw : AreTagged (throw e : Except ε α) ↔ True := areTagged_error

@[grind norm] theorem areTagged_pure : AreTagged (pure a : Except ε α) ↔ AreTagged a := areTagged_ok

omit [HoldsTrees α] in
@[grind norm] theorem areTagged_bind : AreTagged (r >>= f) ↔ ∀ a, r = .ok a → AreTagged (f a) := by
  cases r with
  | error e => simp [bind, Except.bind, areTagged_error]
  | ok a => simp [bind, Except.bind]

omit [HoldsTrees α] in
@[grind ←] theorem areTagged_mapM {l : List α} (h : ∀ a ∈ l, AreTagged (f a)) :
    AreTagged (l.mapM f) := by
  induction l with
  | nil => simp [areTagged_pure, areTagged_nil]
  | cons a l ih =>
    rw [List.mapM_cons]
    grind

end Faults

end Values

/-! ### Readers -/

namespace Parse

variable {α β : Type}

/-- The reader finds the value at a place and goes on to another. -/
def Finds (p : Parse α) (c : Cursor) (a : α) (c' : Cursor) : Prop := p c = .ok (a, c')

variable [HoldsTrees α] [HoldsTrees β]

/-- Every tree that the reader finds at the place has its tags. -/
def YieldsAt (p : Parse α) (c : Cursor) : Prop := ∀ a c', p.Finds c a c' → AreTagged a

/-- Every tree that the reader finds has its tags. -/
def YieldsTagged (p : Parse α) : Prop := ∀ c, p.YieldsAt c

variable {p : Parse α} {f : α → Parse β} {c c' : Cursor} {a : α}

@[grind →] theorem Finds.areTagged (h : p.Finds c a c') (hp : p.YieldsTagged) : AreTagged a :=
  hp c a c' h

@[grind ←] theorem YieldsTagged.at (h : p.YieldsTagged) : p.YieldsAt c := h c

/-! At a place, a reader is followed step by step. -/

omit [HoldsTrees α] [HoldsTrees β] in
theorem finds_bind {b : β} : (p >>= f).Finds c b c' ↔
    ∃ a c'', p.Finds c a c'' ∧ (f a).Finds c'' b c' := by
  have hstep : (p >>= f) c = p c >>= fun r => f r.1 r.2 := rfl
  unfold Finds
  rw [hstep]
  rcases p c with e | ⟨a, c''⟩ <;> simp [bind, Except.bind]

omit [HoldsTrees α] in
theorem finds_ite {b : Prop} [Decidable b] {q : Parse α} :
    (if b then p else q).Finds c a c' ↔ b ∧ p.Finds c a c' ∨ ¬b ∧ q.Finds c a c' := by
  split <;> simp_all

omit [HoldsTrees α] in
/-- **One step after another.**  What the first step finds is given to the second one. -/
@[grind norm] theorem yieldsAt_bind :
    (p >>= f).YieldsAt c ↔ ∀ a c', p.Finds c a c' → (f a).YieldsAt c' := by
  constructor
  · exact fun h a c' ha b c'' hb => h b c'' (finds_bind.mpr ⟨a, c', ha, hb⟩)
  · intro h b c'' hb
    obtain ⟨a, c', ha, hb⟩ := finds_bind.mp hb
    exact h a c' ha b c'' hb

@[grind norm] theorem yieldsAt_pure : (pure a : Parse α).YieldsAt c ↔ AreTagged a := by
  constructor
  · exact fun h => h a c rfl
  · intro ha a' c' h
    cases h
    exact ha

@[grind norm] theorem yieldsAt_throw (e : SyntaxError) : (throw e : Parse α).YieldsAt c ↔ True :=
  iff_true_intro fun _ _ h => nomatch h

@[grind norm] theorem yieldsAt_ite {b : Prop} [Decidable b] {p q : Parse α} :
    (if b then p else q).YieldsAt c ↔ (b → p.YieldsAt c) ∧ (¬b → q.YieldsAt c) := by
  split <;> simp_all

omit [HoldsTrees α] in
@[grind norm] theorem finds_pure {b : α} : (pure a : Parse α).Finds c b c' ↔ b = a ∧ c' = c := by
  constructor
  · intro h
    cases h
    exact ⟨rfl, rfl⟩
  · rintro ⟨rfl, rfl⟩
    rfl

@[grind norm] theorem finds_node {f : Form} {start : Nat} {ps : List Node} {n : Node} :
    (node f start ps).Finds c n c' ↔ n = .mk f (some ⟨start, c.prevEnd⟩) ps ∧ c' = c := by
  constructor
  · intro h
    cases h
    exact ⟨rfl, rfl⟩
  · rintro ⟨rfl, rfl⟩
    rfl

@[grind norm] theorem yieldsAt_node {f : Form} {start : Nat} {ps : List Node} :
    (node f start ps).YieldsAt c ↔ AreTagged (Node.mk f (some ⟨start, c.prevEnd⟩) ps) := by
  simp [YieldsAt, finds_node]

/-! Where a case split has to come first, the same is said of all places. -/

omit [HoldsTrees α] in
@[grind ←] theorem yieldsTagged_bind (h : ∀ c, (p >>= f).YieldsAt c) : (p >>= f).YieldsTagged := h

@[grind ←] theorem yieldsTagged_pure (h : AreTagged a) : (pure a : Parse α).YieldsTagged :=
  fun _ => yieldsAt_pure.mpr h

@[grind .] theorem yieldsTagged_throw (e : SyntaxError) : (throw e : Parse α).YieldsTagged :=
  fun _ => (yieldsAt_throw e).mpr trivial

@[grind ←] theorem yieldsTagged_node {f : Form} {start : Nat} {ps : List Node} (hf : f ≠ .element)
    (h : AreTagged ps) : (node f start ps).YieldsTagged :=
  fun _ => yieldsAt_node.mpr (areTagged_mk hf h)

omit [HoldsTrees α] in
/-- One step, where what comes after it is followed by hand. -/
theorem yieldsTagged_step (h : ∀ a, (∃ c c', p.Finds c a c') → (f a).YieldsTagged) :
    (p >>= f).YieldsTagged :=
  fun c => yieldsAt_bind.mpr fun a c' ha => h a ⟨c, c', ha⟩ c'

/-! ### Readers made of others -/

@[grind .] theorem yieldsTagged_failAt (fault : SyntaxFault) (span : Span) :
    (failAt fault span : Parse α).YieldsTagged :=
  yieldsTagged_throw _

@[grind .] theorem yieldsTagged_failHere (fault : SyntaxFault) :
    (failHere fault : Parse α).YieldsTagged := by
  unfold failHere
  grind

@[grind ←] theorem yieldsTagged_attempt (hp : p.YieldsTagged) : (attempt p).YieldsTagged := by
  intro c a c' h
  unfold Finds attempt at h
  split at h
  · next b c'' hb =>
    cases h
    exact areTagged_some.mpr (hp _ _ _ hb)
  · cases h
    exact areTagged_none.mpr trivial

@[grind ←] theorem yieldsTagged_leniently (hp : p.YieldsTagged) :
    (leniently p).YieldsTagged := by
  unfold leniently
  grind

@[grind ←] theorem yieldsTagged_within (hp : p.YieldsTagged) (change : Context → Context) :
    (within change p).YieldsTagged := by
  unfold within
  grind

theorem yieldsTagged_collectUpTo {step : Parse (Option α)} (hstep : step.YieldsTagged) (n : Nat) :
    (collectUpTo step n).YieldsTagged := by
  induction n with
  | zero =>
    unfold collectUpTo
    grind
  | succ n ih =>
    unfold collectUpTo
    grind

@[grind ←] theorem yieldsTagged_collect {step : Parse (Option α)} (hstep : step.YieldsTagged) :
    (collect step).YieldsTagged := by
  unfold collect
  grind [yieldsTagged_collectUpTo]

omit [HoldsTrees α] in
/-- What the step preserves holds of what the repetition finds. -/
theorem Finds.of_iterate {P : α → Prop} {step : α → Parse (Option α)} {b : α}
    (hstep : ∀ a c b c', P a → (step a).Finds c (some b) c' → P b) (ha : P a)
    (h : (iterate step a).Finds c b c') : P b := by
  have hrun : ∀ n a c, P a → (iterateUpTo step n a).Finds c b c' → P b := by
    intro n
    induction n with
    | zero =>
      intro a c ha h
      exact (finds_pure.mp h).1 ▸ ha
    | succ n ih =>
      intro a c ha h
      obtain ⟨next, c₁, hnext, h⟩ := finds_bind.mp h
      cases next with
      | none => exact (finds_pure.mp h).1 ▸ ha
      | some a₁ => exact ih a₁ c₁ (hstep a c a₁ c₁ ha hnext) h
  obtain ⟨start, c₁, -, h⟩ := finds_bind.mp h
  exact hrun _ a c₁ ha h

@[grind ←] theorem yieldsTagged_iterate {step : α → Parse (Option α)}
    (hstep : ∀ a, AreTagged a → (step a).YieldsTagged) (ha : AreTagged a) :
    (iterate step a).YieldsTagged := by
  intro c b c' h
  refine Finds.of_iterate (fun a c b c' ha hb => ?_) ha h
  exact areTagged_some.mp (hstep a ha c _ c' hb)

@[grind ←] theorem yieldsTagged_listWithComma (hp : p.YieldsTagged) (close : String) :
    (listWithComma close p).YieldsTagged := by
  unfold listWithComma
  grind

@[grind ←] theorem yieldsTagged_listUntil (hp : p.YieldsTagged) (close : String) :
    (listUntil close p).YieldsTagged := by
  unfold listUntil
  grind

end Parse

end RouteMigration
