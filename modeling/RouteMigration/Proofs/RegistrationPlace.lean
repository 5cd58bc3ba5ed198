import RouteMigration.Proofs.FontElimination
import RouteMigration.Proofs.Placement

/-!
# The registration among the items of a module

The step that registers the route edits the list of items three times: the metadata goes, the
component may be moved up, and the registration comes in.  Each edit is described by what stands
before and behind its place, so that all that the step leaves alone can be read off.

## Main Definitions

* `Extracted` — the metadata taken out of a module, and the place it gives
* `GivesOnly` — a variable statement that declares one name and gives it a value

## Main Statements

* `extracted_registerRoute` — what is taken out of a module before its route is registered
* `registration_in_place` — the items around the registration

## Design Notes

What counts as the statement of the component is decided after the metadata is gone: a statement
that declared both declares only the component then.
-/

namespace RouteMigration.Migration

variable {name : String} {items : List Node}

/-! ### The metadata of a module -/

/-- The first declarator that gives properties to `metadata`, with what stands before and after
it. -/
theorem findMetadata?_eq_some_iff {ds properties : List Node} {i j : Nat} :
    Shape.findMetadata? j ds = some (i, properties) ↔ ∃ before d after, ds = before ++ d :: after ∧
      i = j + before.length ∧ (∀ d ∈ before, Shape.metadataOf? d = none) ∧
      Shape.metadataOf? d = some properties := by
  induction ds generalizing j with
  | nil => simp [Shape.findMetadata?]
  | cons first rest ih =>
    rw [Shape.findMetadata?]
    cases hfirst : Shape.metadataOf? first with
    | some found =>
      constructor
      · rintro ⟨⟩
        exact ⟨[], first, rest, rfl, rfl, by simp, hfirst⟩
      · rintro ⟨before, d, after, hds, rfl, hbefore, hd⟩
        rcases List.cons_eq_append_iff.mp hds with ⟨rfl, heq⟩ | ⟨before, rfl, rfl⟩
        · obtain ⟨rfl, rfl⟩ := List.cons.inj heq
          rw [hfirst] at hd
          cases hd
          rfl
        · rw [hbefore first List.mem_cons_self] at hfirst
          cases hfirst
    | none =>
      dsimp only
      rw [ih]
      constructor
      · rintro ⟨before, d, after, rfl, rfl, hbefore, hd⟩
        refine ⟨first :: before, d, after, rfl, ?_, List.forall_mem_cons.mpr ⟨hfirst, hbefore⟩, hd⟩
        rw [List.length_cons]
        omega
      · rintro ⟨before, d, after, hds, rfl, hbefore, hd⟩
        rcases List.cons_eq_append_iff.mp hds with ⟨rfl, heq⟩ | ⟨before, rfl, rfl⟩
        · obtain ⟨rfl, rfl⟩ := List.cons.inj heq
          rw [hfirst] at hd
          cases hd
        · refine ⟨before, d, after, rfl, ?_, (List.forall_mem_cons.mp hbefore).2, hd⟩
          rw [List.length_cons]
          omega

/-- An item that exports metadata: a variable statement that is no `var`, with the first of its
declarators that gives properties to `metadata`. -/
theorem metadata?_eq_some_iff {item : Node} {i : Nat} {properties : List Node} :
    Shape.metadata? item = some (i, properties) ↔ ∃ s vs kind isDeclare before d after,
      item = .exportDecl s (.varDecl vs kind isDeclare (before ++ d :: after)) ∧
        (kind = .lexical ∨ kind = .const) ∧ i = before.length ∧
        (∀ d ∈ before, Shape.metadataOf? d = none) ∧ Shape.metadataOf? d = some properties := by
  constructor
  · intro h
    unfold Shape.metadata? at h
    split at h
    · split at h
      · next hkind =>
        obtain ⟨before, d, after, rfl, rfl, hbefore, hd⟩ := findMetadata?_eq_some_iff.mp h
        exact ⟨_, _, _, _, before, d, after, rfl, by simpa using hkind, Nat.zero_add _, hbefore, hd⟩
      · cases h
    · cases h
  · rintro ⟨s, vs, kind, isDeclare, before, d, after, rfl, hkind, rfl, hbefore, hd⟩
    rw [Shape.metadata?, if_pos (by simpa using hkind)]
    exact findMetadata?_eq_some_iff.mpr
      ⟨before, d, after, rfl, (Nat.zero_add _).symm, hbefore, hd⟩

theorem dropDeclarator_append_cons (s vs : Option Span) (kind : VarKind) (isDeclare : Bool)
    (before : List Node) (d : Node) (after : List Node) :
    dropDeclarator before.length
        (.exportDecl s (.varDecl vs kind isDeclare (before ++ d :: after))) =
      if before ++ after = [] then []
      else [.exportDecl s (.varDecl vs kind isDeclare (before ++ after))] := by
  rw [dropDeclarator, removeAt_append_cons]
  split
  · next hnil => rw [if_pos hnil]
  · next hne => rw [if_neg hne]

/-- The metadata taken out of the items of a module of a kind: its place, its entries, and the
items without it.  A module of a kind without a head, or without metadata, keeps its items, and the
place is behind its first directives and the imports that follow them. -/
inductive Extracted (kind : ModuleKind) (items : List Node) : TakenMetadata → Prop
  | nothing {directives imports rest : List Node} (hitems : items = directives ++ imports ++ rest)
    (hdirectives : ∀ item ∈ directives, (Shape.directive? item).isSome = true)
    (himports : ∀ item ∈ imports, Shape.isImport item = true)
    (hnext : ∀ item ∈ (imports ++ rest).head?, Shape.directive? item = none)
    (hrest : ∀ item ∈ rest.head?, Shape.isImport item = false)
    (hnone : kind.hasHead = true → ∀ item ∈ items, Shape.metadata? item = none) :
    Extracted kind items ⟨(directives ++ imports).length, [], items⟩
  /-- The metadata is all that its statement declares. -/
  | statement {before after properties : List Node} {s vs : Option Span} {varKind : VarKind}
    {isDeclare : Bool} {d : Node} (hkind : kind.hasHead = true)
    (hitems : items = before ++ .exportDecl s (.varDecl vs varKind isDeclare [d]) :: after)
    (hbefore : ∀ item ∈ before, Shape.metadata? item = none)
    (hvar : varKind = .lexical ∨ varKind = .const)
    (hmetadata : Shape.metadataOf? d = some properties) :
    Extracted kind items ⟨before.length, MetaTag.ofProperties properties, before ++ after⟩
  /-- Its statement declares something else as well, and stays. -/
  | declarator {before after ds ds' properties : List Node} {s vs : Option Span}
    {varKind : VarKind} {isDeclare : Bool} {d : Node} (hkind : kind.hasHead = true)
    (hitems : items =
      before ++ .exportDecl s (.varDecl vs varKind isDeclare (ds ++ d :: ds')) :: after)
    (hbefore : ∀ item ∈ before, Shape.metadata? item = none)
    (hvar : varKind = .lexical ∨ varKind = .const)
    (hds : ∀ other ∈ ds, Shape.metadataOf? other = none)
    (hmetadata : Shape.metadataOf? d = some properties) (hsiblings : ds ++ ds' ≠ []) :
    Extracted kind items ⟨before.length, MetaTag.ofProperties properties,
      before ++ .exportDecl s (.varDecl vs varKind isDeclare (ds ++ ds')) :: after⟩

/-- The place that metadata gives is one of the items that are left, or at their end. -/
theorem Extracted.index_le {kind : ModuleKind} {taken : TakenMetadata}
    (h : Extracted kind items taken) : taken.index ≤ taken.items.length := by
  cases h with
  | nothing hitems =>
    rw [hitems]
    simp
  | statement => simp
  | declarator => simp

theorem drop_length_takeWhile {α : Type} (p : α → Bool) (l : List α) :
    l.drop (l.takeWhile p).length = l.dropWhile p := by
  calc l.drop (l.takeWhile p).length
      = (l.takeWhile p ++ l.dropWhile p).drop (l.takeWhile p).length := by
        rw [List.takeWhile_append_dropWhile]
    _ = l.dropWhile p := List.drop_left

/-- A module of which no metadata is taken. -/
theorem extracted_leading {kind : ModuleKind}
    (hnone : kind.hasHead = true → ∀ item ∈ items, Shape.metadata? item = none) :
    Extracted kind items ⟨Shape.leading items, [], items⟩ := by
  have hlead : Shape.leading items = (items.takeWhile (fun i => (Shape.directive? i).isSome) ++
      (items.drop (Shape.prologue items)).takeWhile Shape.isImport).length := by
    rw [List.length_append]
    rfl
  rw [hlead]
  refine @Extracted.nothing kind items _ _
    ((items.drop (Shape.prologue items)).dropWhile Shape.isImport) ?_ ?_ ?_ ?_ ?_ hnone
  · rw [List.append_assoc, List.takeWhile_append_dropWhile, Shape.prologue, drop_length_takeWhile,
      List.takeWhile_append_dropWhile]
  · exact fun item hitem => List.mem_takeWhile_imp (p := fun i => (Shape.directive? i).isSome) hitem
  · exact fun item hitem => List.mem_takeWhile_imp hitem
  · intro item hitem
    rw [List.takeWhile_append_dropWhile, Shape.prologue, drop_length_takeWhile] at hitem
    have hnot := List.head?_dropWhile_not (fun i => (Shape.directive? i).isSome) items
    rw [hitem] at hnot
    simpa using hnot
  · intro item hitem
    have hnot := List.head?_dropWhile_not Shape.isImport (items.drop (Shape.prologue items))
    rw [hitem] at hnot
    exact hnot

/-- **What is taken out of a module** before its route is registered. -/
theorem extracted_registerRoute (kind : ModuleKind) (items : List Node) :
    Extracted kind items ((if kind.hasHead then takeMetadata? items else none).getD
      ⟨Shape.leading items, [], items⟩) := by
  by_cases hkind : kind.hasHead = true
  · rw [if_pos hkind]
    rcases takeMetadata?_cases items with hnone | ⟨before, item, after, i, properties, rfl, hbefore,
      hitem⟩
    · rw [takeMetadata?_of_none hnone]
      exact extracted_leading fun _ => hnone
    · obtain ⟨s, vs, varKind, isDeclare, ds, d, ds', rfl, hvar, rfl, hds, hd⟩ :=
        metadata?_eq_some_iff.mp hitem
      rw [takeMetadata?_append_cons hbefore hitem, dropDeclarator_append_cons, Option.getD_some]
      split
      · next hnil =>
        obtain ⟨rfl, rfl⟩ := List.append_eq_nil_iff.mp hnil
        exact .statement hkind rfl hbefore hvar hd
      · next hsiblings =>
        exact .declarator hkind rfl hbefore hvar hds hd hsiblings
  · rw [if_neg hkind]
    exact extracted_leading fun h => absurd h hkind

/-! ### The statement of a name -/

/-- The item, exported or not, is a variable statement that declares one name and nothing else, and
gives it a value. -/
def GivesOnly (name : String) (value item : Node) : Prop :=
  ∃ s kind isDeclare ds isDefinite ps isOptional parts,
    Shape.declaration item = .varDecl s kind isDeclare
      [.declarator ds isDefinite (.mk (.binding name isOptional) ps parts) value] ∧
    Shape.isVariable kind = true ∧ value.form ≠ .absent

theorem soleValue?_eq_some_iff {item value : Node} :
    soleValue? name item = some value ↔ GivesOnly name value item := by
  constructor
  · intro h
    unfold soleValue? at h
    split at h
    · next d hds =>
      obtain ⟨s, kind, isDeclare, hitem, hkind⟩ := declarators?_eq_some.mp hds
      split at h
      · next hname =>
        obtain ⟨ds, isDefinite, ⟨f, ps, parts⟩, value', isOptional, rfl, rfl⟩ :=
          boundName?_eq_some.mp (beq_iff_eq.mp hname)
        rw [value?_declarator] at h
        split at h
        · cases h
        · next hvalue =>
          cases h
          exact ⟨s, kind, isDeclare, ds, isDefinite, ps, isOptional, parts, hitem, hkind, hvalue⟩
      · cases h
    · cases h
  · rintro ⟨s, kind, isDeclare, ds, isDefinite, ps, isOptional, parts, hitem, hkind, hvalue⟩
    unfold soleValue?
    rw [hitem, declarators?_eq_some.mpr ⟨s, kind, isDeclare, rfl, hkind⟩]
    dsimp only
    rw [value?_declarator, if_neg hvalue]
    exact if_pos (beq_iff_eq.mpr rfl)

theorem soleValue?_eq_none_iff {item : Node} :
    soleValue? name item = none ↔ ∀ value, ¬GivesOnly name value item := by
  rw [Option.eq_none_iff_forall_ne_some]
  exact forall_congr' fun value => not_congr soleValue?_eq_some_iff

/-- An item put between others, with what stands before and behind it: it stands at its place, or
right behind the first statement from there on that gives a value to the name.  That statement is
moved up to the place if the value is a function. -/
theorem Placed.exists_split {new : Node} {front rest result : List Node}
    (h : Placed name new front rest result) :
    ∃ before after, result = before ++ new :: after ∧
      ((∀ item ∈ rest, ∀ value, ¬GivesOnly name value item) ∧ before = front ∧ after = rest ∨
        ∃ pre item post value, rest = pre ++ item :: post ∧
          (∀ other ∈ pre, ∀ value, ¬GivesOnly name value other) ∧ GivesOnly name value item ∧
          (isLazy value = true ∧ before = front ++ [item] ∧ after = pre ++ post ∨
            isLazy value = false ∧ before = front ++ pre ++ [item] ∧ after = post)) := by
  cases h with
  | here hrest =>
    exact ⟨front, rest, rfl,
      Or.inl ⟨fun item hitem => soleValue?_eq_none_iff.mp (hrest item hitem), rfl, rfl⟩⟩
  | @movedUp pre post item value hpre hitem hlazy =>
    exact ⟨front ++ [item], pre ++ post, by simp, Or.inr ⟨pre, item, post, value, rfl,
      fun other hother => soleValue?_eq_none_iff.mp (hpre other hother),
      soleValue?_eq_some_iff.mp hitem, Or.inl ⟨hlazy, rfl, rfl⟩⟩⟩
  | @movedDown pre post item value hpre hitem hlazy =>
    exact ⟨front ++ pre ++ [item], post, by simp, Or.inr ⟨pre, item, post, value, rfl,
      fun other hother => soleValue?_eq_none_iff.mp (hpre other hother),
      soleValue?_eq_some_iff.mp hitem, Or.inr ⟨by simpa using hlazy, rfl, rfl⟩⟩⟩

/-! ### The registration -/

/-- What the step makes of a module, from what is taken out of it. -/
theorem items_registerRoute (items : List Node) (s : State) :
    ∃ taken, Extracted s.options.kind items taken ∧
      if s.options.kind = .api then
        (registerRoute items s).items = taken.items.take taken.index ++
          (registration s taken.tags).item :: taken.items.drop taken.index
      else
        Placed s.component (registration s taken.tags).item (taken.items.take taken.index)
          (taken.items.drop taken.index) (registerRoute items s).items := by
  refine ⟨_, extracted_registerRoute s.options.kind items, ?_⟩
  unfold registerRoute
  dsimp only
  by_cases hapi : s.options.kind = .api
  · rw [if_pos hapi, if_pos hapi]
    rfl
  · rw [if_neg hapi, if_neg hapi]
    exact placed_insertAt _ _ _ _

/-- **Where the registration stands.**  The step takes out the first metadata, puts the registration
in, and moves at most one item: a component that is a function goes up to the place that the
metadata gives, with the registration behind it.  Any other value of the component is not moved, and
the registration stands behind that.  Without a component from that place on, and always for an API
route, the registration stands at the place itself. -/
theorem registration_in_place (items : List Node) (s : State) :
    ∃ taken before after, Extracted s.options.kind items taken ∧
      taken.index ≤ taken.items.length ∧
      (registerRoute items s).items = before ++ (registration s taken.tags).item :: after ∧
      ((s.options.kind = .api ∨ ∀ item ∈ taken.items.drop taken.index,
            ∀ value, ¬GivesOnly s.component value item) ∧
          before = taken.items.take taken.index ∧ after = taken.items.drop taken.index ∨
        s.options.kind ≠ .api ∧ ∃ pre item post value,
          taken.items.drop taken.index = pre ++ item :: post ∧
          (∀ other ∈ pre, ∀ value, ¬GivesOnly s.component value other) ∧
          GivesOnly s.component value item ∧
          (isLazy value = true ∧
              before = taken.items.take taken.index ++ [item] ∧ after = pre ++ post ∨
            isLazy value = false ∧
              before = taken.items.take taken.index ++ pre ++ [item] ∧ after = post)) := by
  obtain ⟨taken, htaken, hitems⟩ := items_registerRoute items s
  split at hitems
  · next hapi =>
    exact ⟨taken, _, _, htaken, htaken.index_le, hitems, Or.inl ⟨Or.inl hapi, rfl, rfl⟩⟩
  · next hapi =>
    obtain ⟨before, after, hsplit, hcases⟩ := hitems.exists_split
    refine ⟨taken, before, after, htaken, htaken.index_le, hsplit, ?_⟩
    rcases hcases with ⟨hnone, hplace⟩ | hcomponent
    · exact Or.inl ⟨Or.inr hnone, hplace⟩
    · exact Or.inr ⟨hapi, hcomponent⟩

end RouteMigration.Migration
