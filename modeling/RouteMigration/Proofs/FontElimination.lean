import RouteMigration.Proofs.ClassNames

/-!
# What the elimination of fonts leaves

The step removes the declarators of fonts, then the references to them, then the imports of what
created them, and each of the three decides for itself what it touches.  Here they are shown to
agree with one another and with the search for references that they all rest on.

## Main Statements

* `contains_removedFonts_iff` — the removed fonts are the ones that are no longer declared
* `contains_droppedFactories_iff` — the dropped factories are the ones no longer imported
* `not_names_eliminateFonts` — no item that is left refers to a removed font
* `mem_moduleFonts_of_kept` — a font that is not removed is created as before
* `eliminateFonts_leaves_no_dangling_reference` — all of it together, for every module

## Design Notes

Modules here are arbitrary lists of trees, so nothing rests on the names of a module being
declared once.  A name that is both imported as a factory and declared is no contradiction, but
its declarator then stays; hence the proviso on declared names.
-/

namespace RouteMigration.Migration

open Reference

variable {names : NameSet} {x : String}

/-- What is read off the declarators at the top of a module comes from one of them. -/
theorem mem_filterMap_declarators {α : Type} {view : Node → Option α} {items : List Node} {a : α} :
    a ∈ (items.filterMap Shape.declarators?).flatten.filterMap view ↔
      ∃ item ∈ items, ∃ ds, Shape.declarators? item = some ds ∧ ∃ d ∈ ds, view d = some a := by
  simp only [List.mem_filterMap, List.mem_flatten]
  constructor
  · rintro ⟨d, ⟨ds, ⟨item, hitem, hds⟩, hd⟩, ha⟩
    exact ⟨item, hitem, ds, hds, d, hd, ha⟩
  · rintro ⟨item, hitem, ds, hds, d, hd, ha⟩
    exact ⟨d, ⟨ds, ⟨item, hitem, hds⟩, hd⟩, ha⟩

/-- The names that variable statements at the top of a module declare, not exported. -/
def declaredNames (items : List Node) : List String :=
  (items.filterMap Shape.declarators?).flatten.filterMap Shape.boundName?

theorem declarators?_eq_some {item : Node} {ds : List Node} :
    Shape.declarators? item = some ds ↔ ∃ s kind isDeclare,
      item = .varDecl s kind isDeclare ds ∧ Shape.isVariable kind = true := by
  unfold Shape.declarators?
  split
  · next kind isDeclare s ds' =>
    constructor
    · intro h
      obtain ⟨hkind, rfl⟩ : Shape.isVariable kind = true ∧ ds' = ds := by simpa using h
      exact ⟨s, kind, isDeclare, rfl, hkind⟩
    · rintro ⟨s', kind', isDeclare', heq, hkind⟩
      obtain ⟨⟨rfl, rfl⟩, rfl, rfl⟩ :
          (kind = kind' ∧ isDeclare = isDeclare') ∧ s = s' ∧ ds' = ds := by
        simpa using heq
      rw [if_pos hkind]
  · next hne =>
    constructor
    · simp
    · rintro ⟨s, kind, isDeclare, rfl, -⟩
      exact absurd rfl (hne kind isDeclare s ds)

/-! ### Declarators -/

/-- The declarator calls a factory of that name. -/
def Calls (factory : String) (d : Node) : Prop :=
  ∃ s rs rps rest, Shape.value? d = some (.mk .call s (.mk (.ref factory) rs rps :: rest))

theorem calledFactory?_eq_some {factories : NameSet} {d : Node} {factory : String} :
    calledFactory? factories d = some factory ↔
      Calls factory d ∧ factories.contains factory = true := by
  unfold calledFactory?
  split
  · next s name rs rps rest hvalue =>
    constructor
    · intro h
      obtain ⟨hname, rfl⟩ : factories.contains name = true ∧ name = factory := by simpa using h
      exact ⟨⟨s, rs, rps, rest, hvalue⟩, hname⟩
    · rintro ⟨⟨s', rs', rps', rest', hvalue'⟩, hname⟩
      obtain rfl : name = factory := by
        rw [hvalue] at hvalue'
        simp at hvalue'
        exact hvalue'.2.1.1
      rw [if_pos hname]
  · next hne =>
    constructor
    · simp
    · rintro ⟨⟨s, rs, rps, rest, hvalue⟩, -⟩
      exact absurd hvalue (hne s factory rs rps rest)

theorem fontOf?_eq_some {factories : NameSet} {d : Node} {font : FontInstance} :
    fontOf? factories d = some font ↔ Shape.boundName? d = some font.name ∧
      Calls font.factory d ∧ factories.contains font.factory = true := by
  rw [← calledFactory?_eq_some]
  obtain ⟨name, factory⟩ := font
  unfold fontOf?
  cases Shape.boundName? d with
  | none => simp
  | some x =>
    cases calledFactory? factories d with
    | none => simp
    | some f => simp [bind, Option.bind]

/-! ### Cleaned items -/

/-- Cleaning keeps the form of every node but an attribute. -/
theorem form_cleanClassNames {n : Node} (h : n.form ≠ .attr) :
    (cleanClassNames names n).form = n.form := by
  obtain ⟨f, s, ps⟩ := n
  by_cases htype : ∃ t, f = .type t
  · obtain ⟨t, rfl⟩ := htype
    rw [cleanClassNames_type]
  · by_cases hopening : ∃ c, f = .opening c
    · obtain ⟨c, rfl⟩ := hopening
      rw [cleanClassNames, Node.fold_mk]
      unfold cleanStep
      split <;> simp_all [Node.form]
    · rw [cleanClassNames_mk (fun t ht => htype ⟨t, ht⟩) h (fun c hc => hopening ⟨c, hc⟩)]
      rfl

theorem form_clean_attr (names : NameSet) (s : Option Span) (ps : List Node) :
    (cleanClassNames names (.mk .attr s ps)).form = .attr ∨
      (cleanClassNames names (.mk .attr s ps)).form = .absent := by
  rw [cleanClassNames_attr]
  unfold cleanAttr foldClassName
  split
  · split
    · split
      · exact Or.inl rfl
      · dsimp only
        split
        · exact Or.inr rfl
        · exact Or.inl rfl
    · exact Or.inl rfl
  · exact Or.inl rfl

/-- A form that cleaning shows was there before, unless it is the one of a missing part. -/
theorem form_of_form_clean {n : Node} {f : Form} (habsent : f ≠ .absent)
    (h : (cleanClassNames names n).form = f) : n.form = f := by
  by_cases hattr : n.form = .attr
  · obtain ⟨g, s, ps⟩ := n
    obtain rfl : g = .attr := hattr
    rcases form_clean_attr names s ps with hform | hform
    · exact hform.symm.trans h
    · exact absurd (h.symm.trans hform) habsent
  · rw [← form_cleanClassNames hattr, h]

theorem cleanClassNames_varDecl (s : Option Span) (kind : VarKind) (isDeclare : Bool)
    (ds : List Node) :
    cleanClassNames names (.varDecl s kind isDeclare ds) =
      .varDecl s kind isDeclare (ds.map (cleanClassNames names)) :=
  cleanClassNames_mk (by simp) (by simp) (by simp) s ds

theorem cleanClassNames_declarator (s : Option Span) (isDefinite : Bool) (pattern value : Node) :
    cleanClassNames names (.declarator s isDefinite pattern value) =
      .declarator s isDefinite (cleanClassNames names pattern) (cleanClassNames names value) :=
  cleanClassNames_mk (by simp) (by simp) (by simp) s [pattern, value]

theorem boundName?_eq_some {d : Node} :
    Shape.boundName? d = some x ↔ ∃ s isDefinite pattern value isOptional,
      d = .declarator s isDefinite pattern value ∧ pattern.form = .binding x isOptional := by
  unfold Shape.boundName?
  split
  · next isDefinite s y isOptional bs bps value =>
    constructor
    · intro h
      obtain rfl : y = x := by simpa using h
      exact ⟨s, isDefinite, _, value, isOptional, rfl, rfl⟩
    · rintro ⟨s', isDefinite', pattern, value', isOptional', heq, hform⟩
      obtain ⟨-, -, rfl, -⟩ : isDefinite = isDefinite' ∧ s = s' ∧
          .mk (.binding y isOptional) bs bps = pattern ∧ value = value' := by simpa using heq
      obtain ⟨rfl, -⟩ : y = x ∧ isOptional = isOptional' := by simpa [Node.form] using hform
      rfl
  · next hne =>
    constructor
    · simp
    · rintro ⟨s, isDefinite, ⟨f, bs, bps⟩, value, isOptional, rfl, rfl⟩
      exact absurd rfl (hne isDefinite s x isOptional bs bps value)

/-- Cleaning changes no name that a declarator binds. -/
theorem boundName?_clean {d : Node} :
    Shape.boundName? (cleanClassNames names d) = some x ↔ Shape.boundName? d = some x := by
  rw [boundName?_eq_some, boundName?_eq_some]
  constructor
  · rintro ⟨s, isDefinite, pattern', value', isOptional, heq, hform⟩
    have hclean : (cleanClassNames names d).form = .declarator isDefinite := by
      rw [heq]
      rfl
    have hd : d.form = .declarator isDefinite := form_of_form_clean (by simp) hclean
    obtain ⟨f, s', ps⟩ := d
    obtain rfl : f = .declarator isDefinite := hd
    rw [cleanClassNames_mk (by simp) (by simp) (by simp)] at heq
    obtain ⟨rfl, hps⟩ : s' = s ∧ ps.map (cleanClassNames names) = [pattern', value'] := by
      simpa using heq
    obtain ⟨pattern, value, rfl⟩ := List.length_eq_two.mp (by simpa using congrArg List.length hps)
    obtain ⟨rfl, rfl⟩ : cleanClassNames names pattern = pattern' ∧
        cleanClassNames names value = value' := by simpa using hps
    exact ⟨s', isDefinite, pattern, value, isOptional, rfl, form_of_form_clean (by simp) hform⟩
  · rintro ⟨s, isDefinite, pattern, value, isOptional, rfl, hform⟩
    refine ⟨s, isDefinite, _, _, isOptional, cleanClassNames_declarator s isDefinite pattern value,
      ?_⟩
    rw [form_cleanClassNames (by simp [hform]), hform]

/-- Cleaning changes no call of a factory. -/
theorem Calls.clean {factory : String} {d : Node} (h : Calls factory d) :
    Calls factory (cleanClassNames names d) := by
  obtain ⟨cs, rs, rps, rest, hvalue⟩ := h
  unfold Shape.value? at hvalue
  split at hvalue
  · simp at hvalue
  · next isDefinite s pattern value _ =>
    obtain rfl : value = .mk .call cs (.mk (.ref factory) rs rps :: rest) := by simpa using hvalue
    refine ⟨cs, rs, rps.map (cleanClassNames names), rest.map (cleanClassNames names), ?_⟩
    rw [cleanClassNames_declarator, cleanClassNames_mk (by simp) (by simp) (by simp), List.map_cons,
      cleanClassNames_mk (by simp) (by simp) (by simp)]
    rfl
  · simp at hvalue

theorem declarators?_clean {item : Node} {ds : List Node}
    (h : Shape.declarators? item = some ds) :
    Shape.declarators? (cleanClassNames names item) = some (ds.map (cleanClassNames names)) := by
  obtain ⟨s, kind, isDeclare, rfl, hkind⟩ := declarators?_eq_some.mp h
  exact declarators?_eq_some.mpr ⟨s, kind, isDeclare, cleanClassNames_varDecl s kind isDeclare ds,
    hkind⟩

/-- The declarators of a cleaned item are its declarators, cleaned. -/
theorem declarators?_of_clean {item : Node} {ds : List Node}
    (h : Shape.declarators? (cleanClassNames names item) = some ds) :
    ∃ ds₀, Shape.declarators? item = some ds₀ ∧ ds = ds₀.map (cleanClassNames names) := by
  obtain ⟨s, kind, isDeclare, heq, hkind⟩ := declarators?_eq_some.mp h
  have hclean : (cleanClassNames names item).form = .varDecl kind isDeclare := by
    rw [heq]
    rfl
  have hform : item.form = .varDecl kind isDeclare := form_of_form_clean (by simp) hclean
  obtain ⟨f, s', ps⟩ := item
  obtain rfl : f = .varDecl kind isDeclare := hform
  refine ⟨ps, declarators?_eq_some.mpr ⟨s', kind, isDeclare, rfl, hkind⟩, ?_⟩
  rw [cleanClassNames_varDecl] at heq
  exact (congrArg Node.parts heq).symm

/-! ### Imports -/

theorem mem_fontImports {item : Node} :
    x ∈ fontImports item ↔ ∃ s isTypeOnly phase specifiers ss source raw attributes,
      item = .importDecl s isTypeOnly phase specifiers (.str ss source raw) attributes ∧
        isFontSource source = true ∧ ∃ sp ∈ specifiers, localName? sp = some x := by
  unfold fontImports
  split
  · next isTypeOnly phase s specifiers source raw ss attributes =>
    constructor
    · intro h
      by_cases hsource : isFontSource source = true
      · rw [if_pos hsource, List.mem_filterMap] at h
        exact ⟨s, isTypeOnly, phase, specifiers, ss, source, raw, attributes, rfl, hsource, h⟩
      · rw [if_neg hsource] at h
        exact absurd h (by simp)
    · rintro ⟨s', t', p', specifiers', ss', source', raw', attributes', heq, hsource, h⟩
      obtain ⟨-, -, rfl, ⟨⟨rfl, -⟩, -⟩, -⟩ := by simpa using heq
      rw [if_pos hsource, List.mem_filterMap]
      exact h
  · next hne =>
    constructor
    · simp
    · rintro ⟨s, isTypeOnly, phase, specifiers, ss, source, raw, attributes, rfl, -, -⟩
      exact absurd rfl (hne isTypeOnly phase s specifiers source raw ss attributes)

theorem contains_fontFactories {items : List Node} :
    (fontFactories items).contains x = true ↔ ∃ item ∈ items, x ∈ fontImports item := by
  rw [fontFactories, NameSet.contains_ofList, List.mem_flatMap]

/-- Cleaning changes no local name of a specifier. -/
theorem localName?_clean {sp : Node} (h : localName? sp = some x) :
    localName? (cleanClassNames names sp) = some x := by
  unfold localName? at h
  split at h
  case h_4 => exact absurd h (by simp)
  -- A specifier of each sort keeps its form, and so does the name in it.
  all_goals
    rw [← h, cleanClassNames_mk (by simp) (by simp) (by simp)]
    simp only [List.map_cons, List.map_nil]
    rw [cleanClassNames_mk (by simp) (by simp) (by simp)]
    rfl

theorem mem_fontImports_clean {item : Node} (h : x ∈ fontImports item) :
    x ∈ fontImports (cleanClassNames names item) := by
  obtain ⟨s, isTypeOnly, phase, specifiers, ss, source, raw, attributes, rfl, hsource, sp, hsp,
    hlocal⟩ := mem_fontImports.mp h
  have hitem : cleanClassNames names
      (.importDecl s isTypeOnly phase specifiers (.str ss source raw) attributes) =
      .importDecl s isTypeOnly phase (specifiers.map (cleanClassNames names)) (.str ss source raw)
        (cleanClassNames names attributes) := by
    rw [cleanClassNames_mk (by simp) (by simp) (by simp)]
    simp only [List.map_cons, List.map_nil]
    rw [cleanClassNames_mk (by simp) (by simp) (by simp),
      cleanClassNames_mk (by simp) (by simp) (by simp), List.map_nil]
  rw [hitem]
  exact mem_fontImports.mpr ⟨s, isTypeOnly, phase, _, ss, source, raw, _, rfl, hsource, _,
    List.mem_map_of_mem hsp, localName?_clean hlocal⟩

/-- What `dropSpecifiers` makes of an item: the item itself, or an import of fonts without the
specifiers of the names. -/
theorem dropSpecifiers_cases {item item' : Node} (h : item' ∈ dropSpecifiers names item) :
    (item' = item ∧ ∀ y, y ∉ fontImports item) ∨
      ∃ s isTypeOnly phase specifiers ss source raw attributes,
        item = .importDecl s isTypeOnly phase specifiers (.str ss source raw) attributes ∧
        isFontSource source = true ∧
        item' = .importDecl s isTypeOnly phase
          (specifiers.filter fun sp => !((localName? sp).map names.contains).getD false)
          (.str ss source raw) attributes := by
  unfold dropSpecifiers at h
  split at h
  · next isTypeOnly phase s specifiers source raw ss attributes =>
    split at h
    · next hsource =>
      dsimp only at h
      split at h
      · exact absurd h (by simp)
      · exact Or.inr ⟨s, isTypeOnly, phase, specifiers, ss, source, raw, attributes, rfl, hsource,
          by simpa using h⟩
    · next hsource =>
      refine Or.inl ⟨by simpa using h, fun y hy => hsource ?_⟩
      obtain ⟨s', t', p', sp', ss', source', raw', attributes', heq, hsource', -⟩ :=
        mem_fontImports.mp hy
      obtain ⟨-, -, -, ⟨⟨rfl, -⟩, -⟩, -⟩ := by simpa using heq
      exact hsource'
  · next hne =>
    refine Or.inl ⟨by simpa using h, fun y hy => ?_⟩
    obtain ⟨s, isTypeOnly, phase, specifiers, ss, source, raw, attributes, rfl, -, -⟩ :=
      mem_fontImports.mp hy
    exact hne isTypeOnly phase s specifiers source raw ss attributes rfl

/-- Dropping specifiers leaves none of the names imported from modules of fonts. -/
theorem not_mem_fontImports_of_dropped {item item' : Node} (h : item' ∈ dropSpecifiers names item)
    (hx : x ∈ fontImports item') : ¬names.contains x = true := by
  rcases dropSpecifiers_cases h with ⟨rfl, hnone⟩ | ⟨s, t, p, specifiers, ss, source, raw, a, rfl,
    hsource, rfl⟩
  · exact absurd hx (hnone x)
  · obtain ⟨s', t', p', sp', ss', source', raw', a', heq, -, sp, hsp, hlocal⟩ :=
      mem_fontImports.mp hx
    obtain ⟨-, -, rfl, -, -⟩ := by simpa using heq
    simpa [hlocal] using (List.mem_filter.mp hsp).2

/-- Dropping specifiers keeps every other name imported. -/
theorem mem_fontImports_of_kept {item : Node} (hx : x ∈ fontImports item)
    (hkept : ¬names.contains x = true) :
    ∃ item' ∈ dropSpecifiers names item, x ∈ fontImports item' := by
  obtain ⟨s, isTypeOnly, phase, specifiers, ss, source, raw, attributes, rfl, hsource, sp, hsp,
    hlocal⟩ := mem_fontImports.mp hx
  let kept := specifiers.filter fun sp => !((localName? sp).map names.contains).getD false
  have hmem : sp ∈ kept := List.mem_filter.mpr ⟨hsp, by simpa [hlocal] using hkept⟩
  have hne : ¬kept.isEmpty = true := by
    rw [List.isEmpty_iff]
    exact List.ne_nil_of_mem hmem
  refine ⟨.importDecl s isTypeOnly phase kept (.str ss source raw) attributes, ?_, ?_⟩
  · rw [dropSpecifiers, if_pos hsource]
    dsimp only
    rw [if_neg hne]
    exact List.mem_singleton_self _
  · exact mem_fontImports.mpr
      ⟨s, isTypeOnly, phase, kept, ss, source, raw, attributes, rfl, hsource, sp, hmem, hlocal⟩

/-! ### Removed declarators -/

/-- What `dropDeclarators` makes of an item: anything but a variable statement stays, and a
variable statement keeps the declarators of other names. -/
theorem dropDeclarators_cases {item item' : Node} (h : item' ∈ dropDeclarators names item) :
    (item' = item ∧ Shape.declarators? item = none) ∨
      ∃ s kind isDeclare ds, item = .varDecl s kind isDeclare ds ∧ Shape.isVariable kind = true ∧
        item' = .varDecl s kind isDeclare (ds.filter (!declares names ·)) := by
  unfold dropDeclarators at h
  split at h
  · next kind isDeclare s ds =>
    split at h
    · next hkind =>
      dsimp only at h
      split at h
      · exact absurd h (by simp)
      · exact Or.inr ⟨s, kind, isDeclare, ds, rfl, hkind, by simpa using h⟩
    · next hkind =>
      exact Or.inl ⟨by simpa using h, by simp [Shape.declarators?, hkind]⟩
  · next hne =>
    refine Or.inl ⟨by simpa using h, ?_⟩
    unfold Shape.declarators?
    split
    · next kind isDeclare s ds => exact absurd rfl (hne kind isDeclare s ds)
    · rfl

theorem dropDeclarators_of_none {item : Node} (h : Shape.declarators? item = none) :
    dropDeclarators names item = [item] := by
  unfold dropDeclarators
  split
  · next kind isDeclare s ds =>
    have hkind : ¬Shape.isVariable kind = true := by simpa [Shape.declarators?] using h
    rw [if_neg hkind]
  · rfl

/-- A declarator of another name stays in its statement. -/
theorem exists_dropDeclarators {item : Node} {ds : List Node} {d : Node}
    (hds : Shape.declarators? item = some ds) (hd : d ∈ ds) (hkept : ¬declares names d = true) :
    ∃ item' ∈ dropDeclarators names item, ∃ ds', Shape.declarators? item' = some ds' ∧ d ∈ ds' := by
  obtain ⟨s, kind, isDeclare, rfl, hkind⟩ := declarators?_eq_some.mp hds
  have hmem : d ∈ ds.filter (!declares names ·) :=
    List.mem_filter.mpr ⟨hd, by simpa using hkept⟩
  have hne : ¬(ds.filter (!declares names ·)).isEmpty = true := by
    rw [List.isEmpty_iff]
    exact List.ne_nil_of_mem hmem
  refine ⟨.varDecl s kind isDeclare (ds.filter (!declares names ·)), ?_, _,
    declarators?_eq_some.mpr ⟨s, kind, isDeclare, rfl, hkind⟩, hmem⟩
  rw [dropDeclarators, if_pos hkind]
  dsimp only
  rw [if_neg (by simp [hne])]
  exact List.mem_singleton_self _

/-- A declarator of another name refers to the same, whether it declares a name in question or
not. -/
theorem mem_ofDeclarator {d : Node} {r : Reference} (hd : Shape.boundName? d ≠ some r.name)
    (h : r ∈ ofNode d false) : r ∈ ofDeclarator names d := by
  unfold ofDeclarator
  split
  · next hdeclares =>
    obtain ⟨y, hy, -⟩ := declares_iff.mp hdeclares
    rw [ofNode_of_boundName? hy] at h
    rcases List.mem_cons.mp h with rfl | hvalue
    · exact absurd hy hd
    · exact hvalue
  · exact h

/-- References of an item to a name that it does not declare are references of the module. -/
theorem mem_ofItem {item : Node} {r : Reference}
    (hitem : ∀ ds, Shape.declarators? item = some ds → ∀ d ∈ ds, Shape.boundName? d ≠ some r.name)
    (h : r ∈ ofNode item false) : r ∈ ofItem names item := by
  unfold ofItem
  cases hds : Shape.declarators? item with
  | none => exact h
  | some ds =>
    obtain ⟨s, kind, isDeclare, rfl, -⟩ := declarators?_eq_some.mp hds
    rw [ofNode_inner rfl] at h
    obtain ⟨d, hd, hr⟩ := List.mem_flatMap.mp h
    exact List.mem_flatMap.mpr ⟨d, hd, mem_ofDeclarator (hitem ds hds d hd) hr⟩

/-- What an item refers to, as part of a module, it refers to. -/
theorem names_of_mem_ofItem {item : Node} {r : Reference} (h : r ∈ ofItem names item) :
    Names r.name item := by
  unfold ofItem at h
  cases hds : Shape.declarators? item with
  | none =>
    rw [hds] at h
    exact names_of_mem h
  | some ds =>
    rw [hds] at h
    obtain ⟨d, hd, hr⟩ := List.mem_flatMap.mp h
    obtain ⟨s, kind, isDeclare, rfl, -⟩ := declarators?_eq_some.mp hds
    refine (names_parts (Or.inr rfl)).mpr ⟨d, hd, ?_⟩
    unfold ofDeclarator at hr
    split at hr
    · next hdeclares =>
      obtain ⟨y, hy, -⟩ := declares_iff.mp hdeclares
      refine names_of_mem (b := false) ?_
      rw [ofNode_of_boundName? hy]
      exact List.mem_cons_of_mem _ hr
    · exact names_of_mem hr

/-- The references of an item that is left are references of the item. -/
theorem mem_ofItem_of_dropDeclarators {removed : NameSet} {item item' : Node} {r : Reference}
    (hitem : item' ∈ dropDeclarators removed item) (hr : removed.contains r.name = true)
    (h : r ∈ ofNode item' false) : r ∈ ofItem names item := by
  rcases dropDeclarators_cases hitem with ⟨rfl, hnone⟩ | ⟨s, kind, isDeclare, ds, rfl, hkind, rfl⟩
  · exact mem_ofItem (by simp [hnone]) h
  · rw [ofNode_inner rfl] at h
    obtain ⟨d, hd, hmem⟩ := List.mem_flatMap.mp h
    obtain ⟨hd, hkept⟩ := List.mem_filter.mp hd
    have hname : Shape.boundName? d ≠ some r.name := by
      intro hname
      have : declares removed d = true := declares_iff.mpr ⟨_, hname, hr⟩
      simp [this] at hkept
    rw [ofItem, declarators?_eq_some.mpr ⟨s, kind, isDeclare, rfl, hkind⟩]
    exact List.mem_flatMap.mpr ⟨d, hd, mem_ofDeclarator hname hmem⟩

/-- **No removed font is referred to.**  If nothing outside `className` attributes refers to a
removed name, nothing at all refers to it once its declarators are gone and the attributes are
cleaned. -/
theorem not_names_removeInstances {removed : NameSet} {items : List Node}
    (hx : removed.contains x = true) (hother : ⟨x, false⟩ ∉ ofItems names items) :
    ∀ item ∈ removeInstances removed items, ¬Names x item := by
  intro item hitem hnames
  obtain ⟨left, hleft, rfl⟩ := List.mem_map.mp hitem
  obtain ⟨item₀, hitem₀, hdrop⟩ := List.mem_flatMap.mp hleft
  have hmem := (mem_of_clean hx left).2 hnames
  exact hother (List.mem_flatMap.mpr
    ⟨item₀, hitem₀, mem_ofItem_of_dropDeclarators hdrop hx hmem⟩)

/-! ### What is removed -/

theorem contains_removedFonts {items : List Node} (hx : names.contains x = true) :
    (removedFonts items).contains x = true ↔
      (∃ font ∈ moduleFonts items, font.name = x) ∧
        (ReferenceCount.of items names x).other = 0 := by
  rw [removedFonts, removableFonts, NameSet.contains_filter, NameSet.contains_ofList, List.mem_map]
  refine and_congr_right fun hfont => ?_
  rw [ReferenceCount.isClassNameOnly, beq_iff_eq, ReferenceCount.of_congr
    ((NameSet.contains_ofList _ _).mpr (List.mem_map.mpr hfont)) hx]

/-- Nothing outside `className` attributes refers to a removed font. -/
theorem not_mem_ofItems_of_removed {items : List Node}
    (hx : (removedFonts items).contains x = true) :
    ⟨x, false⟩ ∉ ofItems (removedFonts items) items := by
  have hcount := ((contains_removedFonts hx).mp hx).2
  rw [ReferenceCount.of, if_pos hx] at hcount
  exact List.count_eq_zero.mp hcount

theorem exists_of_factoryOf? {fonts : List FontInstance} {factory : String}
    (h : factoryOf? fonts x = some factory) :
    ∃ font ∈ fonts, font.name = x ∧ font.factory = factory := by
  obtain ⟨font, hfind, rfl⟩ := Option.map_eq_some_iff.mp h
  exact ⟨font, List.mem_reverse.mp (List.mem_of_find?_eq_some hfind),
    by simpa using List.find?_some hfind, rfl⟩

/-- A dropped factory created a font, and nothing refers to it once the fonts are gone. -/
theorem of_contains_droppedFactories {items : List Node}
    (h : (droppedFactories items).contains x = true) :
    (∃ font ∈ moduleFonts items, (removedFonts items).contains font.name = true ∧
        font.factory = x) ∧
      ∀ {names : NameSet}, names.contains x = true →
        ∀ r ∈ ofItems names (removeInstances (removedFonts items) items), r.name ≠ x := by
  rw [droppedFactories, unusedFactories, NameSet.contains_filter] at h
  obtain ⟨hmarked, hunseen⟩ := h
  constructor
  · obtain ⟨y, hy, hfactory⟩ := List.mem_filterMap.mp ((NameSet.contains_ofList _ _).mp hmarked)
    obtain ⟨font, hfont, rfl, rfl⟩ := exists_of_factoryOf? hfactory
    exact ⟨font, hfont, (NameSet.contains_iff_mem _ _).mpr hy, rfl⟩
  · intro names hx
    rw [ReferenceCount.of_congr hmarked hx] at hunseen
    have hzero : ReferenceCount.of (removeInstances (removedFonts items) items) names x = {} :=
      (ReferenceCount.isSeen_eq_false_iff _).mp (by simpa using hunseen)
    rw [ReferenceCount.of, if_pos hx] at hzero
    exact (ReferenceCount.ofReferences_eq_default_iff x _).mp hzero

theorem contains_fontFactories_of_mem {items : List Node} {font : FontInstance}
    (h : font ∈ moduleFonts items) : (fontFactories items).contains font.factory = true := by
  obtain ⟨item, -, ds, -, d, -, hfont⟩ := mem_filterMap_declarators.mp h
  exact (fontOf?_eq_some.mp hfont).2.2

/-! ### What is left -/

theorem ofNode_importDecl (s : Option Span) (isTypeOnly : Bool) (phase : ImportPhase)
    (specifiers : List Node) (source attributes : Node) (b : Bool) :
    ofNode (.importDecl s isTypeOnly phase specifiers source attributes) b =
      specifiers.flatMap (ofNode · b) ++ (ofNode source b ++ ofNode attributes b) := by
  rw [ofNode_inner rfl]
  simp only [List.flatMap_cons, List.flatMap_nil, List.append_nil]
  rw [ofNode_inner rfl]

/-- An item without some specifiers refers to nothing new. -/
theorem ofNode_dropSpecifiers_subset {item item' : Node} (h : item' ∈ dropSpecifiers names item)
    (b : Bool) : ofNode item' b ⊆ ofNode item b := by
  rcases dropSpecifiers_cases h with ⟨rfl, -⟩ | ⟨s, t, p, specifiers, ss, source, raw, a, rfl, -,
    rfl⟩
  · exact fun _ hr => hr
  · intro r hr
    rw [ofNode_importDecl, List.mem_append] at hr ⊢
    refine hr.imp_left fun hr => ?_
    obtain ⟨sp, hsp, hmem⟩ := List.mem_flatMap.mp hr
    exact List.mem_flatMap.mpr ⟨sp, List.mem_of_mem_filter hsp, hmem⟩

/-- A variable statement is no import. -/
theorem dropSpecifiers_of_declarators? {item : Node} {ds : List Node}
    (h : Shape.declarators? item = some ds) : dropSpecifiers names item = [item] := by
  obtain ⟨s, kind, isDeclare, rfl, -⟩ := declarators?_eq_some.mp h
  rfl

theorem eq_of_mem_dropSpecifiers {item item' : Node} {ds : List Node}
    (h : item' ∈ dropSpecifiers names item) (hds : Shape.declarators? item' = some ds) :
    item' = item := by
  rcases dropSpecifiers_cases h with ⟨rfl, -⟩ | ⟨s, t, p, specifiers, ss, source, raw, a, rfl, -,
    rfl⟩
  · rfl
  · exact absurd hds (by simp [Shape.declarators?])

/-- The items that are left are cleaned ones, perhaps without some of their specifiers. -/
theorem exists_of_mem_withoutFonts {items : List Node} {item' : Node}
    (h : item' ∈ withoutFonts items) :
    ∃ item ∈ removeInstances (removedFonts items) items,
      item' = item ∨ item' ∈ dropSpecifiers (droppedFactories items) item := by
  unfold withoutFonts at h
  dsimp only at h
  split at h
  · exact ⟨item', h, Or.inl rfl⟩
  · obtain ⟨item, hitem, hdrop⟩ := List.mem_flatMap.mp h
    exact ⟨item, hitem, Or.inr hdrop⟩

theorem mem_withoutFonts_of_declarators? {items : List Node} {item : Node} {ds : List Node}
    (hitem : item ∈ removeInstances (removedFonts items) items)
    (hds : Shape.declarators? item = some ds) : item ∈ withoutFonts items := by
  unfold withoutFonts
  dsimp only
  split
  · exact hitem
  · refine List.mem_flatMap.mpr ⟨item, hitem, ?_⟩
    rw [dropSpecifiers_of_declarators? hds]
    exact List.mem_singleton_self _

theorem names_of_mem_withoutFonts {items : List Node} {item' : Node}
    (h : item' ∈ withoutFonts items) (hx : Names x item') :
    ∃ item ∈ removeInstances (removedFonts items) items, Names x item := by
  obtain ⟨item, hitem, rfl | hdrop⟩ := exists_of_mem_withoutFonts h
  · exact ⟨item', hitem, hx⟩
  · refine ⟨item, hitem, ?_⟩
    obtain ⟨r, hr, rfl⟩ := List.mem_map.mp hx
    exact names_of_mem (ofNode_dropSpecifiers_subset hdrop false hr)

/-- The references that are left in the module were there before specifiers were dropped. -/
theorem ofItems_withoutFonts_subset (names : NameSet) (items : List Node) :
    ofItems names (withoutFonts items) ⊆
      ofItems names (removeInstances (removedFonts items) items) := by
  intro r hr
  obtain ⟨item', hitem', hmem⟩ := List.mem_flatMap.mp hr
  obtain ⟨item, hitem, rfl | hdrop⟩ := exists_of_mem_withoutFonts hitem'
  · exact List.mem_flatMap.mpr ⟨item', hitem, hmem⟩
  · refine List.mem_flatMap.mpr ⟨item, hitem, ?_⟩
    cases hds : Shape.declarators? item' with
    | some ds => rwa [eq_of_mem_dropSpecifiers hdrop hds] at hmem
    | none =>
      rw [ofItem, hds] at hmem
      have hnone : Shape.declarators? item = none := by
        cases hds' : Shape.declarators? item with
        | none => rfl
        | some ds =>
          rw [dropSpecifiers_of_declarators? hds', List.mem_singleton] at hdrop
          rw [hdrop, hds'] at hds
          exact absurd hds (by simp)
      rw [ofItem, hnone]
      exact ofNode_dropSpecifiers_subset hdrop false hmem

/-- A font that is not removed is still created by the same factory. -/
theorem exists_declarator_of_kept {items : List Node} {font : FontInstance}
    (hfont : font ∈ moduleFonts items)
    (hkept : ¬(removedFonts items).contains font.name = true) :
    ∃ item ∈ removeInstances (removedFonts items) items, ∃ ds,
      Shape.declarators? item = some ds ∧
        ∃ d ∈ ds, Shape.boundName? d = some font.name ∧ Calls font.factory d := by
  obtain ⟨item, hitem, ds, hds, d, hd, hof⟩ := mem_filterMap_declarators.mp hfont
  obtain ⟨hname, hcalls, -⟩ := fontOf?_eq_some.mp hof
  have hnot : ¬declares (removedFonts items) d = true := by
    intro hdeclares
    obtain ⟨y, hy, hmem⟩ := declares_iff.mp hdeclares
    obtain rfl : y = font.name := by simpa [hname, eq_comm] using hy
    exact hkept hmem
  obtain ⟨item', hitem', ds', hds', hd'⟩ := exists_dropDeclarators hds hd hnot
  exact ⟨cleanClassNames (removedFonts items) item',
    List.mem_map_of_mem (List.mem_flatMap.mpr ⟨item, hitem, hitem'⟩), _, declarators?_clean hds',
    _, List.mem_map_of_mem hd', boundName?_clean.mpr hname, hcalls.clean⟩

/-- A declarator that calls a factory refers to it. -/
theorem mem_ofDeclarator_of_calls {factory : String} {d : Node} (h : Calls factory d)
    (hname : Shape.boundName? d = some x) : ⟨factory, false⟩ ∈ ofDeclarator names d := by
  obtain ⟨s, rs, rps, rest, hvalue⟩ := h
  have hmem : ⟨factory, false⟩ ∈ ((Shape.value? d).map (ofNode · false)).getD [] := by
    rw [hvalue]
    simp [ofNode_mk, roleOf]
  unfold ofDeclarator
  split
  · exact hmem
  · rw [ofNode_of_boundName? hname]
    exact List.mem_cons_of_mem _ hmem

/-- The factory of a font that is not removed is still imported. -/
theorem not_contains_droppedFactories {items : List Node} {font : FontInstance}
    (hfont : font ∈ moduleFonts items)
    (hkept : ¬(removedFonts items).contains font.name = true) :
    ¬(droppedFactories items).contains font.factory = true := by
  intro hdropped
  obtain ⟨item, hitem, ds, hds, d, hd, hname, hcalls⟩ := exists_declarator_of_kept hfont hkept
  refine (of_contains_droppedFactories hdropped).2 hdropped ⟨font.factory, false⟩ ?_ rfl
  refine List.mem_flatMap.mpr ⟨item, hitem, ?_⟩
  rw [ofItem, hds]
  exact List.mem_flatMap.mpr ⟨d, hd, mem_ofDeclarator_of_calls hcalls hname⟩

/-- No removed name is declared any more. -/
theorem not_mem_declaredNames_of_removed {items : List Node}
    (hx : (removedFonts items).contains x = true) : x ∉ declaredNames (withoutFonts items) := by
  intro hdeclared
  obtain ⟨item', hitem', ds, hds, d, hd, hname⟩ := mem_filterMap_declarators.mp hdeclared
  have hcleaned : item' ∈ removeInstances (removedFonts items) items := by
    obtain ⟨item, hitem, rfl | hdrop⟩ := exists_of_mem_withoutFonts hitem'
    · exact hitem
    · rwa [eq_of_mem_dropSpecifiers hdrop hds]
  obtain ⟨left, hleft, rfl⟩ := List.mem_map.mp hcleaned
  obtain ⟨ds₀, hds₀, rfl⟩ := declarators?_of_clean hds
  obtain ⟨d₀, hd₀, rfl⟩ := List.mem_map.mp hd
  obtain ⟨item, -, hdrop⟩ := List.mem_flatMap.mp hleft
  rcases dropDeclarators_cases hdrop with ⟨rfl, hnone⟩ | ⟨s, kind, isDeclare, ds, rfl, hkind, rfl⟩
  · rw [hnone] at hds₀
    exact absurd hds₀ (by simp)
  · rw [declarators?_eq_some.mpr ⟨s, kind, isDeclare, rfl, hkind⟩] at hds₀
    obtain rfl : ds.filter (!declares (removedFonts items) ·) = ds₀ := by simpa using hds₀
    have hdeclares : declares (removedFonts items) d₀ = true :=
      declares_iff.mpr ⟨x, boundName?_clean.mp hname, hx⟩
    simp [hdeclares] at hd₀

/-- A font import stays in the module unless its name is dropped. -/
theorem contains_fontFactories_withoutFonts {items : List Node}
    (hx : (fontFactories items).contains x = true)
    (hkept : ¬(droppedFactories items).contains x = true) :
    (fontFactories (withoutFonts items)).contains x = true := by
  obtain ⟨item, hitem, hmem⟩ := contains_fontFactories.mp hx
  have hnone : Shape.declarators? item = none := by
    obtain ⟨s, t, p, specifiers, ss, source, raw, a, rfl, -, -⟩ := mem_fontImports.mp hmem
    rfl
  have hcleaned : cleanClassNames (removedFonts items) item ∈
      removeInstances (removedFonts items) items := by
    refine List.mem_map_of_mem (List.mem_flatMap.mpr ⟨item, hitem, ?_⟩)
    rw [dropDeclarators_of_none hnone]
    exact List.mem_singleton_self _
  rw [contains_fontFactories]
  unfold withoutFonts
  dsimp only
  split
  · exact ⟨_, hcleaned, mem_fontImports_clean hmem⟩
  · obtain ⟨item', hitem', hmem'⟩ := mem_fontImports_of_kept (mem_fontImports_clean hmem) hkept
    exact ⟨item', List.mem_flatMap.mpr ⟨_, hcleaned, hitem'⟩, hmem'⟩

theorem not_contains_fontFactories_of_dropped {items : List Node}
    (hx : (droppedFactories items).contains x = true) :
    ¬(fontFactories (withoutFonts items)).contains x = true := by
  have hne : ¬(droppedFactories items).isEmpty = true := by
    rw [NameSet.isEmpty_iff_not_contains]
    exact fun hnone => hnone x hx
  rw [contains_fontFactories]
  rintro ⟨item', hitem', hmem⟩
  rw [withoutFonts, if_neg hne] at hitem'
  obtain ⟨item, -, hdrop⟩ := List.mem_flatMap.mp hitem'
  exact not_mem_fontImports_of_dropped hdrop hmem hx

/-! ### The step -/

theorem eliminateFonts_of_isEmpty {items : List Node} (s : State)
    (h : (removedFonts items).isEmpty = true) : (eliminateFonts items s).items = items := by
  simp [eliminateFonts, h]

theorem eliminateFonts_of_contains {items : List Node} (s : State)
    (h : (removedFonts items).contains x = true) :
    (eliminateFonts items s).items = withoutFonts items := by
  have hne : ¬(removedFonts items).isEmpty = true := by
    rw [NameSet.isEmpty_iff_not_contains]
    exact fun hnone => hnone x h
  simp [eliminateFonts, hne]

/-- **A font that is not removed stays.**  It is declared as before, and what creates it is still
imported. -/
theorem mem_moduleFonts_of_kept {items : List Node} (s : State) {font : FontInstance}
    (hfont : font ∈ moduleFonts items)
    (hkept : ¬(removedFonts items).contains font.name = true) :
    font ∈ moduleFonts (eliminateFonts items s).items := by
  by_cases hempty : (removedFonts items).isEmpty = true
  · rwa [eliminateFonts_of_isEmpty s hempty]
  · obtain ⟨y, hy⟩ : ∃ y, (removedFonts items).contains y = true := by
      simpa [NameSet.isEmpty_iff_not_contains] using hempty
    rw [eliminateFonts_of_contains s hy]
    obtain ⟨item, hitem, ds, hds, d, hd, hname, hcalls⟩ := exists_declarator_of_kept hfont hkept
    refine mem_filterMap_declarators.mpr ⟨item, mem_withoutFonts_of_declarators? hitem hds, ds, hds,
      d, hd, fontOf?_eq_some.mpr ⟨hname, hcalls, ?_⟩⟩
    exact contains_fontFactories_withoutFonts (contains_fontFactories_of_mem hfont)
      (not_contains_droppedFactories hfont hkept)

/-- Fonts are declared names. -/
theorem mem_declaredNames_of_font {items : List Node} {font : FontInstance}
    (h : font ∈ moduleFonts items) : font.name ∈ declaredNames items := by
  obtain ⟨item, hitem, ds, hds, d, hd, hof⟩ := mem_filterMap_declarators.mp h
  exact mem_filterMap_declarators.mpr ⟨item, hitem, ds, hds, d, hd, (fontOf?_eq_some.mp hof).1⟩

theorem contains_removedFonts_iff (items : List Node) (s : State) (x : String) :
    (removedFonts items).contains x = true ↔ (∃ font ∈ moduleFonts items, font.name = x) ∧
      x ∉ declaredNames (eliminateFonts items s).items := by
  constructor
  · intro hx
    refine ⟨((contains_removedFonts hx).mp hx).1, ?_⟩
    rw [eliminateFonts_of_contains s hx]
    exact not_mem_declaredNames_of_removed hx
  · rintro ⟨⟨font, hfont, rfl⟩, hnot⟩
    by_contra hkept
    exact hnot (mem_declaredNames_of_font (mem_moduleFonts_of_kept s hfont hkept))

theorem contains_droppedFactories_iff (items : List Node) (s : State) (x : String) :
    (droppedFactories items).contains x = true ↔ (fontFactories items).contains x = true ∧
      ¬(fontFactories (eliminateFonts items s).items).contains x = true := by
  constructor
  · intro hx
    obtain ⟨⟨font, hfont, hremoved, rfl⟩, -⟩ := of_contains_droppedFactories hx
    refine ⟨contains_fontFactories_of_mem hfont, ?_⟩
    rw [eliminateFonts_of_contains s hremoved]
    exact not_contains_fontFactories_of_dropped hx
  · rintro ⟨himported, hnot⟩
    by_contra hkept
    by_cases hempty : (removedFonts items).isEmpty = true
    · rw [eliminateFonts_of_isEmpty s hempty] at hnot
      exact hnot himported
    · obtain ⟨y, hy⟩ : ∃ y, (removedFonts items).contains y = true := by
        simpa [NameSet.isEmpty_iff_not_contains] using hempty
      rw [eliminateFonts_of_contains s hy] at hnot
      exact hnot (contains_fontFactories_withoutFonts himported hkept)

/-- No item that is left refers to a removed font. -/
theorem not_names_eliminateFonts {items : List Node} (s : State)
    (hx : (removedFonts items).contains x = true) :
    ∀ item ∈ (eliminateFonts items s).items, ¬Names x item := by
  rw [eliminateFonts_of_contains s hx]
  intro item' hitem' hnames
  obtain ⟨item, hitem, hmem⟩ := names_of_mem_withoutFonts hitem' hnames
  exact not_names_removeInstances hx (not_mem_ofItems_of_removed hx) item hitem hmem

/-- Nothing refers to a name that is removed or dropped. -/
theorem ne_of_mem_ofItems_eliminateFonts {items : List Node} (s : State) {names : NameSet}
    (hx : (removedFonts items).contains x = true ∨ (droppedFactories items).contains x = true)
    (hnames : names.contains x = true) :
    ∀ r ∈ ofItems names (eliminateFonts items s).items, r.name ≠ x := by
  rcases hx with hx | hx
  · rintro r hr rfl
    obtain ⟨item, hitem, hmem⟩ := List.mem_flatMap.mp hr
    exact not_names_eliminateFonts s hx item hitem (names_of_mem_ofItem hmem)
  · obtain ⟨⟨font, -, hremoved, -⟩, hunseen⟩ := of_contains_droppedFactories hx
    rw [eliminateFonts_of_contains s hremoved]
    intro r hr
    exact hunseen hnames r (ofItems_withoutFonts_subset names items hr)

/-- An item refers to no name that nothing in the module refers to, unless the module declares
it. -/
theorem not_names_of_ne {items : List Node} (hne : ∀ r ∈ ofItems names items, r.name ≠ x)
    (hdeclared : x ∉ declaredNames items) : ∀ item ∈ items, ¬Names x item := by
  intro item hitem hnames
  obtain ⟨r, hr, rfl⟩ := List.mem_map.mp hnames
  refine hne r (List.mem_flatMap.mpr ⟨item, hitem, mem_ofItem ?_ hr⟩) rfl
  intro ds hds d hd hname
  exact hdeclared (mem_filterMap_declarators.mpr ⟨item, hitem, ds, hds, d, hd, hname⟩)

/-- **No reference is left dangling.**  The removed fonts are those no longer declared, and the
dropped factories those no longer imported.  Nothing in the module that is left refers to either,
wherever it stands, and a font that anything but a `className` refers to stays, with the import of
what creates it. -/
theorem eliminateFonts_leaves_no_dangling_reference (items : List Node) (s : State) :
    let removed := removedFonts items
    let dropped := droppedFactories items
    let left := (eliminateFonts items s).items
    (∀ x, removed.contains x = true ↔
      (∃ font ∈ moduleFonts items, font.name = x) ∧ x ∉ declaredNames left) ∧
    (∀ x, dropped.contains x = true ↔
      (fontFactories items).contains x = true ∧ ¬(fontFactories left).contains x = true) ∧
    (∀ x, (removed.union dropped).contains x = true →
      ReferenceCount.of left (removed.union dropped) x = { className := 0, other := 0 } ∧
        (x ∉ declaredNames left → ∀ item ∈ left, ¬Names x item)) ∧
    ∀ font ∈ moduleFonts items, ∀ names : NameSet, names.contains font.name = true →
      0 < (ReferenceCount.of items names font.name).other →
        font ∈ moduleFonts left ∧ (fontFactories left).contains font.factory = true := by
  intro removed dropped left
  refine ⟨contains_removedFonts_iff items s, contains_droppedFactories_iff items s, ?_, ?_⟩
  · intro x hx
    have hne : ∀ r ∈ ofItems (removed.union dropped) left, r.name ≠ x :=
      ne_of_mem_ofItems_eliminateFonts s ((NameSet.contains_union _ _ _).mp hx) hx
    refine ⟨?_, not_names_of_ne hne⟩
    rw [ReferenceCount.of, if_pos hx]
    exact (ReferenceCount.ofReferences_eq_default_iff x _).mpr hne
  · -- a font that is read elsewhere is not removed, and what is not removed keeps its factory
    intro font hfont names hnames hother
    have hkept : ¬(removedFonts items).contains font.name = true := by
      rw [contains_removedFonts hnames]
      rintro ⟨-, hzero⟩
      exact absurd hzero (Nat.ne_of_gt hother)
    have hleft : font ∈ moduleFonts left := mem_moduleFonts_of_kept s hfont hkept
    exact ⟨hleft, contains_fontFactories_of_mem hleft⟩

end RouteMigration.Migration
