import Mathlib.Data.List.TakeWhile
import RouteMigration.Proofs.Bindings

/-!
# Where the registration stands

`place` works with positions.  Here the same is said with lists: what stands behind the
registration is what stands late in the module, less the component if that is moved up, and less
everything up to the component if the registration is moved down.

## Main Definitions

* `late` — the items from the metadata on
* `behind` — those of them that end up behind the registration
* `Placed`, `Taken` — all that the step that registers a route does to the items

## Main Statements

* `insertAt_place` — the registration in place, with `behind` after it
* `behind_congr` — which names are bound behind the registration can be read off the sketch of the
  module
* `registerRoute_cases` — what the step does, item by item
-/

namespace RouteMigration.Migration

variable {name : String} {items : List Node}

/-! ### The items behind a registration -/

/-- The items from the metadata on, without the metadata itself; all of them where no metadata is
taken. -/
def late (kind : ModuleKind) (items : List Node) : List Node :=
  match if kind.hasHead then takeMetadata? items else none with
  | some taken => taken.items.drop taken.index
  | none => items

/-- The late items that stand behind the registration of a name.  The first item that gives a value
to the name and declares nothing else goes before it: alone if the value is a function, and with
all that stands before it if not. -/
def behind (name : String) (late : List Node) : List Node :=
  match findValue? name 0 late with
  | none => late
  | some (position, value) =>
    if isLazy value then removeAt position late else late.drop (position + 1)

/-- The first item that gives a value to a name, with what stands before and after it. -/
theorem findValue?_cases (name : String) (items : List Node) :
    (∀ item ∈ items, soleValue? name item = none) ∨
      ∃ before item after value, items = before ++ item :: after ∧
        (∀ item ∈ before, soleValue? name item = none) ∧ soleValue? name item = some value := by
  induction items with
  | nil => exact Or.inl (by simp)
  | cons item rest ih =>
    cases hitem : soleValue? name item with
    | some value => exact Or.inr ⟨[], item, rest, value, rfl, by simp, hitem⟩
    | none =>
      rcases ih with hnone | ⟨before, found, after, value, rfl, hbefore, hfound⟩
      · exact Or.inl (List.forall_mem_cons.mpr ⟨hitem, hnone⟩)
      · exact Or.inr ⟨item :: before, found, after, value, rfl,
          List.forall_mem_cons.mpr ⟨hitem, hbefore⟩, hfound⟩

theorem findValue?_of_none (h : ∀ item ∈ items, soleValue? name item = none) (i : Nat) :
    findValue? name i items = none := by
  induction items generalizing i with
  | nil => rfl
  | cons item rest ih =>
    obtain ⟨hitem, hrest⟩ := List.forall_mem_cons.mp h
    rw [findValue?, hitem]
    exact ih hrest (i + 1)

theorem findValue?_append_cons {before after : List Node} {item value : Node}
    (hbefore : ∀ item ∈ before, soleValue? name item = none)
    (hitem : soleValue? name item = some value) (i : Nat) :
    findValue? name i (before ++ item :: after) = some (i + before.length, value) := by
  induction before generalizing i with
  | nil =>
    rw [List.nil_append, findValue?, hitem]
    rfl
  | cons first before ih =>
    obtain ⟨hfirst, hbefore⟩ := List.forall_mem_cons.mp hbefore
    rw [List.cons_append, findValue?, hfirst]
    rw [ih hbefore (i + 1), List.length_cons, Nat.add_assoc, Nat.add_comm 1]

theorem removeAt_append_cons (before after : List Node) (item : Node) :
    removeAt before.length (before ++ item :: after) = before ++ after := by
  simp [removeAt]

theorem behind_of_none (h : ∀ item ∈ items, soleValue? name item = none) :
    behind name items = items := by
  rw [behind, findValue?_of_none h]

theorem behind_append_cons {before after : List Node} {item value : Node}
    (hbefore : ∀ item ∈ before, soleValue? name item = none)
    (hitem : soleValue? name item = some value) :
    behind name (before ++ item :: after) = if isLazy value then before ++ after else after := by
  rw [behind, findValue?_append_cons hbefore hitem]
  simp only [Nat.zero_add, removeAt_append_cons]
  simp

theorem insertAt_append {front : List Node} {i : Nat} (h : front.length = i) (new : Node)
    (rest : List Node) : insertAt i new (front ++ rest) = front ++ new :: rest := by
  subst h
  simp [insertAt]

/-- How a new item is put between others for a name.  Up to the place there is `front`; of what
follows, the first item that gives a value to the name and declares nothing else goes before the new
item, alone or with all that stands before it. -/
inductive Placed (name : String) (new : Node) (front : List Node) : List Node → List Node → Prop
  /-- No such item follows. -/
  | here {rest : List Node} (hrest : ∀ item ∈ rest, soleValue? name item = none) :
    Placed name new front rest (front ++ new :: rest)
  /-- It is moved up. -/
  | movedUp {pre post : List Node} {item value : Node}
    (hpre : ∀ item ∈ pre, soleValue? name item = none) (hitem : soleValue? name item = some value)
    (hlazy : isLazy value = true) :
    Placed name new front (pre ++ item :: post) (front ++ item :: new :: (pre ++ post))
  /-- The new item is moved down. -/
  | movedDown {pre post : List Node} {item value : Node}
    (hpre : ∀ item ∈ pre, soleValue? name item = none) (hitem : soleValue? name item = some value)
    (hlazy : ¬isLazy value = true) :
    Placed name new front (pre ++ item :: post) (front ++ pre ++ item :: new :: post)

/-- **The place of the registration.**  `place` and `insertAt` together put a new item in its
place. -/
theorem placed_insertAt (index : Nat) (name : String) (items : List Node) (new : Node) :
    Placed name new (items.take index) (items.drop index)
      (insertAt (place index name items).2 new (place index name items).1) := by
  rcases findValue?_cases name (items.drop index) with hnone | ⟨pre, item, post, value, hdrop, hpre,
    hitem⟩
  · rw [place, findValue?_of_none hnone]
    exact .here hnone
  · rw [place, hdrop, findValue?_append_cons hpre hitem]
    have hlength : (items.take index).length = index := by
      have := congrArg List.length hdrop
      simp only [List.length_drop, List.length_append, List.length_cons] at this
      rw [List.length_take]
      omega
    have hitems : items = (items.take index ++ pre) ++ item :: post := by
      rw [List.append_assoc, ← hdrop, List.take_append_drop]
    have hposition : (items.take index ++ pre).length = index + pre.length := by
      rw [List.length_append, hlength]
    dsimp only
    generalize items.take index = front at hlength hitems hposition
    by_cases hlazy : isLazy value = true
    · have hget : items[index + pre.length]? = some item := by
        rw [hitems, ← hposition]
        simp
      have hremove : removeAt (index + pre.length) items = front ++ (pre ++ post) := by
        rw [hitems, ← hposition, removeAt_append_cons, List.append_assoc]
      have hinsert : insertAt (index + 1) new (front ++ item :: (pre ++ post)) =
          front ++ item :: new :: (pre ++ post) := by
        have hfront : (front ++ [item]).length = index + 1 := by simp [hlength]
        simpa using insertAt_append hfront new (pre ++ post)
      rw [if_pos hlazy, hget]
      dsimp only
      rw [hremove, insertAt_append hlength, hinsert]
      exact .movedUp hpre hitem hlazy
    · have hinsert : insertAt (index + pre.length + 1) new items =
          front ++ pre ++ item :: new :: post := by
        have hfront : (front ++ pre ++ [item]).length = index + pre.length + 1 := by
          simp [hlength, Nat.add_assoc]
        rw [hitems]
        simpa using insertAt_append hfront new post
      rw [if_neg hlazy]
      dsimp only
      rw [hinsert]
      exact .movedDown hpre hitem hlazy

/-- Nothing is lost and nothing else comes in. -/
theorem Placed.perm {new : Node} {front rest result : List Node}
    (h : Placed name new front rest result) : result.Perm (new :: (front ++ rest)) := by
  cases h with
  | here => exact List.perm_middle
  | @movedUp pre post item value =>
    have hback : (item :: (pre ++ post)).Perm (pre ++ item :: post) := List.perm_middle.symm
    refine (List.Perm.append_left front (List.Perm.swap new item _)).trans ?_
    exact List.perm_middle.trans ((hback.append_left front).cons new)
  | @movedDown pre post item value =>
    rw [← List.append_assoc front]
    exact (List.Perm.append_left _ (List.Perm.swap new item post)).trans List.perm_middle

/-- **The registration in place.**  Behind it stands what `behind` says. -/
theorem insertAt_place (index : Nat) (name : String) (items : List Node) (new : Node) :
    ∃ before, insertAt (place index name items).2 new (place index name items).1 =
      before ++ new :: behind name (items.drop index) := by
  have hplaced := placed_insertAt index name items new
  generalize items.take index = front at hplaced
  generalize items.drop index = rest at hplaced ⊢
  generalize insertAt (place index name items).2 new (place index name items).1 = result
    at hplaced ⊢
  cases hplaced with
  | here hrest =>
    rw [behind_of_none hrest]
    exact ⟨front, rfl⟩
  | @movedUp pre post item value hpre hitem hlazy =>
    rw [behind_append_cons hpre hitem, if_pos hlazy]
    exact ⟨front ++ [item], by simp⟩
  | @movedDown pre post item value hpre hitem hlazy =>
    rw [behind_append_cons hpre hitem, if_neg hlazy]
    exact ⟨front ++ pre ++ [item], by simp⟩

/-! ### The items from the metadata on -/

/-- The first item with metadata, with what stands before and after it. -/
theorem takeMetadata?_cases (items : List Node) :
    (∀ item ∈ items, Shape.metadata? item = none) ∨
      ∃ before item after i properties, items = before ++ item :: after ∧
        (∀ item ∈ before, Shape.metadata? item = none) ∧
        Shape.metadata? item = some (i, properties) := by
  induction items with
  | nil => exact Or.inl (by simp)
  | cons item rest ih =>
    cases hitem : Shape.metadata? item with
    | some m => exact Or.inr ⟨[], item, rest, m.1, m.2, rfl, by simp, hitem⟩
    | none =>
      rcases ih with hnone | ⟨before, found, after, i, properties, rfl, hbefore, hfound⟩
      · exact Or.inl (List.forall_mem_cons.mpr ⟨hitem, hnone⟩)
      · exact Or.inr ⟨item :: before, found, after, i, properties, rfl,
          List.forall_mem_cons.mpr ⟨hitem, hbefore⟩, hfound⟩

theorem takeMetadata?_of_none (h : ∀ item ∈ items, Shape.metadata? item = none) :
    takeMetadata? items = none := by
  induction items with
  | nil => rfl
  | cons item rest ih =>
    obtain ⟨hitem, hrest⟩ := List.forall_mem_cons.mp h
    rw [takeMetadata?, hitem, ih hrest]
    rfl

theorem takeMetadata?_append_cons {before after : List Node} {item : Node} {i : Nat}
    {properties : List Node} (hbefore : ∀ item ∈ before, Shape.metadata? item = none)
    (hitem : Shape.metadata? item = some (i, properties)) :
    takeMetadata? (before ++ item :: after) = some ⟨before.length,
      MetaTag.ofProperties properties, before ++ (dropDeclarator i item ++ after)⟩ := by
  induction before with
  | nil => simp [takeMetadata?, hitem]
  | cons first before ih =>
    obtain ⟨hfirst, hbefore⟩ := List.forall_mem_cons.mp hbefore
    rw [List.cons_append, takeMetadata?, hfirst, ih hbefore]
    rfl

theorem late_of_not_hasHead {kind : ModuleKind} (h : kind.hasHead = false) (items : List Node) :
    late kind items = items := by
  simp [late, h]

theorem late_of_none {kind : ModuleKind} (h : ∀ item ∈ items, Shape.metadata? item = none) :
    late kind items = items := by
  rw [late, takeMetadata?_of_none h, ite_self]

theorem late_append_cons {kind : ModuleKind} (hkind : kind.hasHead = true)
    {before after : List Node} {item : Node} {i : Nat} {properties : List Node}
    (hbefore : ∀ item ∈ before, Shape.metadata? item = none)
    (hitem : Shape.metadata? item = some (i, properties)) :
    late kind (before ++ item :: after) = dropDeclarator i item ++ after := by
  rw [late, if_pos hkind, takeMetadata?_append_cons hbefore hitem]
  simp

/-! ### Sketches of modules -/

/-- The item binds nothing that the registration looks at. -/
def isInert (item : Node) : Bool := keptOf item.form = .nothing

/-- The sketches of the items that bind something. -/
def sketch (items : List Node) : List Node := (items.filter (!isInert ·)).map sketchOf

theorem sketch_append (items items' : List Node) :
    sketch (items ++ items') = sketch items ++ sketch items' := by
  simp [sketch]

theorem sketch_cons_of_inert {item : Node} (h : isInert item = true) (items : List Node) :
    sketch (item :: items) = sketch items := by
  simp [sketch, h]

theorem sketch_cons {item : Node} (h : isInert item = false) (items : List Node) :
    sketch (item :: items) = sketchOf item :: sketch items := by
  simp [sketch, h]

/-- What an inert item has is what a blank has, which is nothing. -/
theorem sketchOf_of_inert {item : Node} (h : isInert item = true) : sketchOf item = blank :=
  sketchOf_of_nothing (by simpa [isInert] using h)

theorem soleValue?_of_inert {item : Node} (h : isInert item = true) :
    soleValue? name item = none := by
  have hblank := soleValue?_sketchOf name item
  rw [sketchOf_of_inert h] at hblank
  exact Option.map_eq_none_iff.mp hblank.symm

theorem metadata?_of_inert {item : Node} (h : isInert item = true) :
    Shape.metadata? item = none := by
  have hblank := metadata?_sketchOf item
  rw [sketchOf_of_inert h] at hblank
  exact Option.map_eq_none_iff.mp hblank.symm

theorem lexicalNames_of_inert {item : Node} (h : isInert item = true) : lexicalNames item = [] := by
  rw [← lexicalNames_walk keepsNames_sketchOf, sketchOf_of_inert h]
  rfl

theorem mem_sketch {items : List Node} {n : Node} :
    n ∈ sketch items ↔ ∃ item ∈ items, isInert item = false ∧ sketchOf item = n := by
  simp [sketch, and_assoc]

/-- A module binds the names that its sketch binds. -/
theorem forall_lexicalNames_sketch (name : String) (items : List Node) :
    (∀ item ∈ sketch items, name ∉ lexicalNames item) ↔
      ∀ item ∈ items, name ∉ lexicalNames item := by
  constructor
  · intro h item hitem
    cases hinert : isInert item with
    | true => simp [lexicalNames_of_inert hinert]
    | false =>
      rw [← lexicalNames_walk keepsNames_sketchOf]
      exact h _ (mem_sketch.mpr ⟨item, hitem, hinert, rfl⟩)
  · intro h n hn
    obtain ⟨item, hitem, -, rfl⟩ := mem_sketch.mp hn
    rw [lexicalNames_walk keepsNames_sketchOf]
    exact h item hitem

theorem sketch_behind (name : String) (items : List Node) :
    sketch (behind name items) = behind name (sketch items) := by
  have hsketch : ∀ items : List Node, (∀ item ∈ items, soleValue? name item = none) →
      ∀ n ∈ sketch items, soleValue? name n = none := by
    intro items hnone n hn
    obtain ⟨item, hitem, -, rfl⟩ := mem_sketch.mp hn
    rw [soleValue?_sketchOf, hnone item hitem]
    rfl
  rcases findValue?_cases name items with hnone | ⟨before, item, after, value, rfl, hbefore, hitem⟩
  · rw [behind_of_none hnone, behind_of_none (hsketch items hnone)]
  · have hinert : isInert item = false := by
      by_contra h
      rw [soleValue?_of_inert (by simpa using h)] at hitem
      exact absurd hitem (by simp)
    have hvalue : soleValue? name (sketchOf item) = some (sketchOf value) := by
      rw [soleValue?_sketchOf, hitem]
      rfl
    rw [behind_append_cons hbefore hitem, sketch_append, sketch_cons hinert,
      behind_append_cons (hsketch before hbefore) hvalue, isLazy_sketchOf]
    split
    · rw [sketch_append]
    · rfl

theorem isInert_dropDeclarator {i : Nat} {item n : Node} (h : n ∈ dropDeclarator i item) :
    isInert n = false := by
  unfold dropDeclarator at h
  split at h
  · split at h
    · exact absurd h (by simp)
    · obtain rfl := List.mem_singleton.mp h
      rfl
  · exact absurd h (by simp)

theorem sketch_dropDeclarator (i : Nat) (item : Node) :
    sketch (dropDeclarator i item) = dropDeclarator i (sketchOf item) := by
  have hkept : (dropDeclarator i item).filter (!isInert ·) = dropDeclarator i item :=
    List.filter_eq_self.mpr fun n hn => by simp [isInert_dropDeclarator hn]
  rw [sketch, hkept, dropDeclarator_sketchOf]

theorem sketch_late (kind : ModuleKind) (items : List Node) :
    sketch (late kind items) = late kind (sketch items) := by
  by_cases hkind : kind.hasHead = true
  · have hsketch : ∀ items : List Node, (∀ item ∈ items, Shape.metadata? item = none) →
        ∀ n ∈ sketch items, Shape.metadata? n = none := by
      intro items hnone n hn
      obtain ⟨item, hitem, -, rfl⟩ := mem_sketch.mp hn
      rw [metadata?_sketchOf, hnone item hitem]
      rfl
    rcases takeMetadata?_cases items with hnone | ⟨before, item, after, i, properties, rfl,
      hbefore, hitem⟩
    · rw [late_of_none hnone, late_of_none (hsketch items hnone)]
    · have hinert : isInert item = false := by
        by_contra h
        rw [metadata?_of_inert (by simpa using h)] at hitem
        exact absurd hitem (by simp)
      have hmetadata : Shape.metadata? (sketchOf item) = some (i, []) := by
        rw [metadata?_sketchOf, hitem]
        rfl
      rw [late_append_cons hkind hbefore hitem, sketch_append, sketch_append, sketch_cons hinert,
        late_append_cons hkind (hsketch before hbefore) hmetadata, sketch_dropDeclarator]
  · rw [late_of_not_hasHead (by simpa using hkind), late_of_not_hasHead (by simpa using hkind)]

/-- **The sketch decides.**  Modules of the same sketch bind a name behind its registration, or do
not, alike. -/
theorem behind_congr {items items' : List Node} (h : sketch items = sketch items')
    (kind : ModuleKind) (name : String) :
    (∀ item ∈ behind name (late kind items), name ∉ lexicalNames item) ↔
      ∀ item ∈ behind name (late kind items'), name ∉ lexicalNames item := by
  rw [← forall_lexicalNames_sketch name (behind name (late kind items)),
    ← forall_lexicalNames_sketch name (behind name (late kind items')), sketch_behind,
    sketch_behind, sketch_late, sketch_late, h]

/-! ### The step -/

theorem take_length_takeWhile {α : Type} (p : α → Bool) (l : List α) :
    l.take (l.takeWhile p).length = l.takeWhile p :=
  (List.prefix_iff_eq_take.mp (List.takeWhile_prefix p)).symm

theorem isInert_of_directive {item : Node} (h : (Shape.directive? item).isSome = true) :
    isInert item = true := by
  unfold Shape.directive? at h
  split at h
  · rfl
  · exact absurd h (by simp)

theorem isInert_of_isImport {item : Node} (h : Shape.isImport item = true) :
    isInert item = true := by
  unfold Shape.isImport Shape.importSource? at h
  split at h
  · rfl
  · exact absurd h (by simp)

theorem directive_of_mem_prologue {item : Node} (h : item ∈ items.take (Shape.prologue items)) :
    (Shape.directive? item).isSome = true := by
  rw [Shape.prologue, take_length_takeWhile] at h
  exact List.mem_takeWhile_imp (p := fun i => (Shape.directive? i).isSome) h

/-- The directives and imports that a module begins with bind nothing. -/
theorem isInert_of_mem_leading {item : Node} (h : item ∈ items.take (Shape.leading items)) :
    isInert item = true := by
  rw [Shape.leading, List.take_add, take_length_takeWhile, List.mem_append] at h
  rcases h with h | h
  · exact isInert_of_directive (directive_of_mem_prologue h)
  · exact isInert_of_isImport (List.mem_takeWhile_imp h)

theorem sketch_of_inert {items : List Node} (h : ∀ item ∈ items, isInert item = true) :
    sketch items = [] := by
  rw [sketch, List.filter_eq_nil_iff.mpr fun item hitem => by simp [h item hitem]]
  rfl

theorem sketch_drop_leading (items : List Node) :
    sketch (items.drop (Shape.leading items)) = sketch items := by
  conv_rhs => rw [← List.take_append_drop (Shape.leading items) items]
  rw [sketch_append, sketch_of_inert fun item hitem => isInert_of_mem_leading hitem,
    List.nil_append]

/-- Where the registration goes in a module, as far as the metadata decides: at the place of the
statement that exports it, which is taken out, or else after the leading directives and imports. -/
inductive Taken (kind : ModuleKind) (items : List Node) : Nat → List Node → Prop
  | leading (hnone : kind.hasHead = true → ∀ item ∈ items, Shape.metadata? item = none) :
    Taken kind items (Shape.leading items) items
  | metadata {before after properties : List Node} {item : Node} {i : Nat}
    (hkind : kind.hasHead = true) (hitems : items = before ++ item :: after)
    (hbefore : ∀ item ∈ before, Shape.metadata? item = none)
    (hitem : Shape.metadata? item = some (i, properties)) :
    Taken kind items before.length (before ++ (dropDeclarator i item ++ after))

/-- An item is taken out only if it exports metadata. -/
theorem Taken.mem {kind : ModuleKind} {index : Nat} {taken : List Node}
    (h : Taken kind items index taken) {item : Node} (hitem : item ∈ items)
    (hmetadata : Shape.metadata? item = none) : item ∈ taken := by
  cases h with
  | leading => exact hitem
  | @metadata before after properties found i hkind hitems hbefore hfound =>
    rw [hitems, List.mem_append, List.mem_cons] at hitem
    rcases hitem with hitem | rfl | hitem
    · exact List.mem_append_left _ hitem
    · rw [hmetadata] at hfound
      cases hfound
    · exact List.mem_append_right _ (List.mem_append_right _ hitem)

/-- What is there afterwards was there before, or is left of the metadata statement. -/
theorem Taken.of_mem {kind : ModuleKind} {index : Nat} {taken : List Node}
    (h : Taken kind items index taken) {item : Node} (hitem : item ∈ taken) :
    item ∈ items ∨ ∃ i found, found ∈ items ∧ item ∈ dropDeclarator i found := by
  cases h with
  | leading => exact Or.inl hitem
  | @metadata before after properties found i hkind hitems hbefore hfound =>
    rw [hitems]
    simp only [List.mem_append, List.mem_cons] at hitem ⊢
    rcases hitem with hitem | hitem | hitem
    · exact Or.inl (Or.inl hitem)
    · exact Or.inr ⟨i, found, Or.inr (Or.inl rfl), hitem⟩
    · exact Or.inl (Or.inr (Or.inr hitem))

theorem taken_takeMetadata? (kind : ModuleKind) (items : List Node) :
    let taken := (if kind.hasHead then takeMetadata? items else none).getD
      ⟨Shape.leading items, [], items⟩
    Taken kind items taken.index taken.items := by
  by_cases hkind : kind.hasHead = true
  · rw [if_pos hkind]
    rcases takeMetadata?_cases items with hnone | ⟨before, item, after, i, properties, hitems,
      hbefore, hitem⟩
    · rw [takeMetadata?_of_none hnone]
      exact .leading fun _ => hnone
    · have htaken : takeMetadata? items = some ⟨before.length, MetaTag.ofProperties properties,
          before ++ (dropDeclarator i item ++ after)⟩ := by
        rw [hitems]
        exact takeMetadata?_append_cons hbefore hitem
      rw [htaken]
      exact .metadata hkind hitems hbefore hitem
  · rw [if_neg hkind]
    exact .leading fun h => absurd h hkind

/-- **All that the step does.**  The metadata is taken out and the registration put in its place.
For an API route nothing is moved. -/
theorem registerRoute_cases (items : List Node) (s : State) :
    ∃ (r : Registration) (index : Nat) (taken : List Node),
      Taken s.options.kind items index taken ∧
      r.component = s.options.kind.slot?.map (·, s.component) ∧
      if s.options.kind = .api then
        (registerRoute items s).items = taken.take index ++ r.item :: taken.drop index
      else
        Placed s.component r.item (taken.take index) (taken.drop index)
          (registerRoute items s).items := by
  have htaken := taken_takeMetadata? s.options.kind items
  unfold registerRoute
  dsimp only at htaken ⊢
  generalize hmetadata : (if s.options.kind.hasHead then takeMetadata? items else none) = metadata
    at htaken ⊢
  generalize metadata.getD ⟨Shape.leading items, [], items⟩ = taken at htaken ⊢
  refine ⟨registration { s with metadataFound := metadata.isSome } taken.tags, taken.index,
    taken.items, htaken, rfl, ?_⟩
  by_cases hapi : s.options.kind = .api
  · rw [if_pos hapi, if_pos hapi]
    rfl
  · rw [if_neg hapi, if_neg hapi]
    exact placed_insertAt _ _ _ _

/-- The items after the step are those that were not taken out, and the registration. -/
theorem exists_perm_registerRoute (items : List Node) (s : State) :
    ∃ (r : Registration) (index : Nat) (taken : List Node),
      Taken s.options.kind items index taken ∧
      r.component = s.options.kind.slot?.map (·, s.component) ∧
      (registerRoute items s).items.Perm (r.item :: taken) := by
  obtain ⟨r, index, taken, htaken, hr, hplaced⟩ := registerRoute_cases items s
  refine ⟨r, index, taken, htaken, hr, ?_⟩
  have hsplit := List.take_append_drop index taken
  split at hplaced
  · rw [hplaced]
    conv_rhs => rw [← hsplit]
    exact List.perm_middle
  · conv_rhs => rw [← hsplit]
    exact hplaced.perm

/-- **The step.**  The route is registered with the component, and behind the registration the
component is bound if and only if it is bound in what `behind` says. -/
theorem registerRoute_spec (items : List Node) (s : State) (hkind : s.options.kind ≠ .api) :
    ∃ (r : Registration) (before after : List Node),
      (registerRoute items s).items = before ++ r.item :: after ∧
      r.factory = s.options.factory ∧ r.component = s.options.kind.slot?.map (·, s.component) ∧
      ((∀ item ∈ after, s.component ∉ lexicalNames item) ↔
        ∀ item ∈ behind s.component (late s.options.kind items),
          s.component ∉ lexicalNames item) := by
  unfold registerRoute
  simp only [if_neg hkind]
  cases htaken : (if s.options.kind.hasHead then takeMetadata? items else none) with
  | some taken =>
    obtain ⟨before, hplace⟩ := insertAt_place taken.index s.component taken.items
      (registration { s with metadataFound := true } taken.tags).item
    refine ⟨_, before, _, hplace, rfl, rfl, ?_⟩
    rw [late, htaken]
  | none =>
    -- without metadata the items that follow the imports are late; the imports bind nothing
    obtain ⟨before, hplace⟩ := insertAt_place (Shape.leading items) s.component items
      (registration { s with metadataFound := false } []).item
    refine ⟨_, before, _, hplace, rfl, rfl, ?_⟩
    rw [late, htaken, ← forall_lexicalNames_sketch, sketch_behind, sketch_drop_leading,
      ← sketch_behind, forall_lexicalNames_sketch]

end RouteMigration.Migration
