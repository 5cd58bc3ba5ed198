import RouteMigration.Proofs.FontElimination
import RouteMigration.Proofs.Steps

/-!
# The component and its registration

The registration reads the component at once, so a component that is bound by `const`, `let` or
`class` has to come first.  `place` sees to that for statements of one declarator with a value.
Here it is said exactly when the component does come first, for every module: the condition is
one on the module as it was read, with its default export bound to a name.

## Main Definitions

* `boundStep` — the module of a page with its component bound
* `prepared` — the module of a page before its registration

## Main Statements

* `alike_prepared` — the steps before the registration keep what it looks at
* `eliminateFonts_registration` — the removal of fonts, which comes after it, keeps it in its place
* `component_bound_before_registration_iff` — when the component is bound before it is read
* `component_read_before_bound` — a module in which it is not

## Design Notes

What is bound behind the registration is followed through the steps by way of `Alike`, which every
step between the binding of the component and the registration preserves; the two ends of the
pipeline are treated on their own.
-/

namespace RouteMigration.Migration

open Reference

variable {names removed : NameSet} {x : String}

/-! ### Fonts and names -/

/-- The forms of what `cleanClassNames` changes, and of what comes of it: types are left alone, and
an attribute may go. -/
def isCleaned : Form → Bool
  | .type _ | .attr | .opening _ | .absent => true
  | _ => false

theorem rebuilds_cleanClassNames (names : NameSet) :
    Rebuilds isCleaned (cleanClassNames names) := by
  refine Rebuilds.fold (fun f s parts hf => ?_) fun f s parts hf => ?_
  · unfold cleanStep
    split
    · cases hf
    · cases hf
    · cases hf
    · rfl
  · unfold cleanStep
    split
    · rfl
    · unfold cleanAttr foldClassName
      split
      · split
        · split
          · rfl
          · dsimp only
            split <;> rfl
        · exact hf
      · exact hf
    · rfl
    · exact hf

/-- Cleaning `className` attributes keeps the names that are bound. -/
theorem keepsNames_cleanClassNames (names : NameSet) :
    Keeps keptForNames (cleanClassNames names) := by
  refine (rebuilds_cleanClassNames names).keeps fun f hf => ?_
  unfold isCleaned at hf
  split at hf
  case h_5 => cases hf
  all_goals rfl

theorem lexicalNames_varDecl (s : Option Span) (kind : VarKind) (isDeclare : Bool)
    (ds : List Node) :
    lexicalNames (.varDecl s kind isDeclare ds) =
      if kind = .lexical || kind = .const then ds.flatMap declaratorNames else [] := by
  rw [lexicalNames]
  exact List.append_nil _

/-- A declarator of a removed font binds no other name. -/
theorem contains_of_declares {d : Node} (hx : x ∈ declaratorNames d)
    (h : declares removed d = true) : removed.contains x = true := by
  obtain ⟨y, hy, hcontains⟩ := declares_iff.mp h
  obtain ⟨s, isDefinite, ⟨f, ps, parts⟩, value, isOptional, rfl, hform⟩ := boundName?_eq_some.mp hy
  obtain rfl : f = .binding y isOptional := hform
  rw [declaratorNames, patternNames_mk] at hx
  rwa [List.mem_singleton.mp hx]

/-- Removing declarators of fonts removes no other name. -/
theorem lexicalNames_dropDeclarators (hx : ¬removed.contains x = true) (item : Node) :
    x ∈ (dropDeclarators removed item).flatMap lexicalNames ↔ x ∈ lexicalNames item := by
  unfold dropDeclarators
  split
  · next kind isDeclare s ds =>
    split
    · -- a declarator that is dropped declares removed names only, and `x` is none of them
      have hkept : x ∈ (ds.filter (!declares removed ·)).flatMap declaratorNames ↔
          x ∈ ds.flatMap declaratorNames := by
        simp only [List.mem_flatMap, List.mem_filter]
        constructor
        · rintro ⟨d, ⟨hd, -⟩, hmem⟩
          exact ⟨d, hd, hmem⟩
        · rintro ⟨d, hd, hmem⟩
          refine ⟨d, ⟨hd, ?_⟩, hmem⟩
          have : ¬declares removed d = true := fun h => hx (contains_of_declares hmem h)
          simpa using this
      dsimp only
      split
      · next hempty =>
        rw [Bool.and_eq_true, List.isEmpty_iff] at hempty
        rw [hempty.1] at hkept
        rw [lexicalNames_varDecl]
        split
        · exact hkept
        · exact Iff.rfl
      · rw [List.flatMap_singleton, lexicalNames_varDecl, lexicalNames_varDecl]
        split
        · exact hkept
        · exact Iff.rfl
    · rw [List.flatMap_singleton]
  · rw [List.flatMap_singleton]

theorem lexicalNames_dropSpecifiers (names : NameSet) (item : Node) :
    (dropSpecifiers names item).flatMap lexicalNames = lexicalNames item := by
  unfold dropSpecifiers
  split
  · split
    · dsimp only
      split <;> rfl
    · exact List.flatMap_singleton _ _
  · exact List.flatMap_singleton _ _

/-! ### Registrations that are cleaned -/

/-- An entry with a change made to the value it was given. -/
def mapValue (g : Node → Node) : MetaTag → MetaTag
  | .title value => .title (g value)
  | .named name content => .named name (g content)
  | .charSet value => .charSet value

/-- A registration with a change made to the values of its entries. -/
def mapTags (g : Node → Node) (r : Registration) : Registration :=
  { r with head := r.head.map fun h => { h with tags := h.tags.map (mapValue g) } }

theorem clean_tag (names : NameSet) (tag : MetaTag) :
    cleanClassNames names tag.toNode = (mapValue (cleanClassNames names) tag).toNode := by
  cases tag with
  | title value =>
    simp [MetaTag.toNode, mapValue, Build.object, Build.keyValue, cleanClassNames_mk]
  | named name content =>
    simp [MetaTag.toNode, mapValue, Build.object, Build.keyValue, Build.str, cleanClassNames_mk]
  | charSet value =>
    simp [MetaTag.toNode, mapValue, Build.object, Build.keyValue, Build.str, cleanClassNames_mk]

theorem clean_stylesheetLink (names : NameSet) (binding : String) :
    cleanClassNames names (stylesheetLink binding) = stylesheetLink binding := by
  simp [stylesheetLink, Build.object, Build.keyValue, Build.ref, Build.str, cleanClassNames_mk]

theorem clean_head (names : NameSet) (h : Head) :
    cleanClassNames names h.toNode =
      Head.toNode { h with tags := h.tags.map (mapValue (cleanClassNames names)) } := by
  obtain ⟨tags, stylesheets⟩ := h
  cases stylesheets with
  | none =>
    simp [Head.toNode, Build.thunk, Build.object, Build.keyValue, Build.array, Node.form,
      cleanClassNames_mk, clean_tag]
  | some bindings =>
    simp [Head.toNode, Build.thunk, Build.object, Build.keyValue, Build.array, Node.form,
      cleanClassNames_mk, clean_tag, clean_stylesheetLink]

theorem clean_properties (names : NameSet) (r : Registration) :
    r.properties.map (cleanClassNames names) = (mapTags (cleanClassNames names) r).properties := by
  obtain ⟨factory, head, component, handlers⟩ := r
  unfold Registration.properties mapTags
  simp only [List.map_append]
  congr 1
  · congr 1
    · cases head with
      | none => rfl
      | some h => simp [Build.keyValue, cleanClassNames_mk, clean_head]
    · cases component with
      | none => rfl
      | some c => simp [Build.keyValue, Build.ref, cleanClassNames_mk]
  · cases handlers with
    | none => rfl
    | some handlers => simp [Build.keyValue, Build.object, cleanClassNames_mk]

/-- A registration that is cleaned is a registration, with cleaned entries. -/
theorem clean_item (names : NameSet) (r : Registration) :
    cleanClassNames names r.item = (mapTags (cleanClassNames names) r).item := by
  have hproperties := clean_properties names r
  have hcall : cleanClassNames names r.call = (mapTags (cleanClassNames names) r).call := by
    unfold Registration.call
    rw [← hproperties]
    obtain ⟨factory, head, component, handlers⟩ := r
    cases factory with
    | file path =>
      simp [mapTags, Build.call, Build.ref, Build.str, Build.object, cleanClassNames_mk]
    | root => simp [mapTags, Build.call, Build.ref, Build.object, cleanClassNames_mk]
  simp [Registration.item, Build.exported, Build.constDecl, cleanClassNames_mk, hcall]

/-! ### The registered component -/

theorem mem_ofNode_of_part {f : Form} (hf : roleOf f = .inner) {s : Option Span} {ps : List Node}
    {p : Node} (hp : p ∈ ps) {b : Bool} {r : Reference} (h : r ∈ ofNode p b) :
    r ∈ ofNode (.mk f s ps) b := by
  rw [ofNode_inner hf]
  exact List.mem_flatMap.mpr ⟨p, hp, h⟩

/-- A registration refers to what its properties refer to. -/
theorem mem_ofNode_of_property {r : Registration} {p : Node} (hp : p ∈ r.properties)
    {reference : Reference} (h : reference ∈ ofNode p false) :
    reference ∈ ofNode r.item false := by
  have hoptions : reference ∈ ofNode (Build.object r.properties) false :=
    mem_ofNode_of_part rfl hp h
  have hargument : ∀ callee,
      reference ∈ ofNode (Build.call callee [Build.object r.properties]) false := by
    intro callee
    refine mem_ofNode_of_part rfl (p := .seq [Build.object r.properties]) (by simp) ?_
    exact mem_ofNode_of_part rfl (List.mem_singleton_self _) hoptions
  have hcall : reference ∈ ofNode r.call false := by
    unfold Registration.call
    cases r.factory with
    | file path => exact hargument _
    | root => exact hargument _
  refine mem_ofNode_of_part rfl (List.mem_singleton_self _) ?_
  refine mem_ofNode_of_part rfl (List.mem_singleton_self _) ?_
  exact mem_ofNode_of_part rfl (List.mem_cons_of_mem _ (List.mem_singleton_self _)) hcall

theorem head_mem_properties {r : Registration} {h : Head} (hhead : r.head = some h) :
    Build.keyValue "head" h.toNode ∈ r.properties := by
  simp [Registration.properties, hhead]

/-- Only the head is registered under the key `head`. -/
theorem exists_head_of_mem_properties {r : Registration} {value : Node}
    (h : Build.keyValue "head" value ∈ r.properties) :
    ∃ head, r.head = some head ∧ value = head.toNode := by
  have hkey : ∀ {a b : String} {v w : Node}, Build.keyValue a v = Build.keyValue b w →
      a = b ∧ v = w :=
    fun heq => by simpa [Build.keyValue] using heq
  have hslot : ∀ slot : ComponentSlot, slot.key ≠ "head" := by
    intro slot
    cases slot <;> decide
  simp only [Registration.properties, List.mem_append, Option.mem_toList, Option.map_eq_some_iff]
    at h
  rcases h with (⟨head, hhead, heq⟩ | ⟨⟨slot, name⟩, -, heq⟩) | ⟨names, -, heq⟩
  · exact ⟨head, hhead, (hkey heq).2.symm⟩
  · exact absurd (hkey heq).1 (hslot slot)
  · exact absurd (hkey heq).1 (by decide)

/-- A registration refers to its component. -/
theorem mem_ofNode_item {r : Registration} {slot : ComponentSlot} {name : String}
    (h : r.component = some (slot, name)) : ⟨name, false⟩ ∈ ofNode r.item false := by
  have hproperty : ⟨name, false⟩ ∈ ofNode (Build.keyValue slot.key (Build.ref name)) false :=
    mem_ofNode_of_part rfl (List.mem_cons_of_mem _ (List.mem_singleton_self _))
      (by simp [Build.ref, ofNode_mk, roleOf])
  refine mem_ofNode_of_property ?_ hproperty
  simp [Registration.properties, h]

/-- The registered component is no font that is removed. -/
theorem not_contains_removedFonts_of_registered {items : List Node} {r : Registration}
    {slot : ComponentSlot} {name : String} (hitem : r.item ∈ items)
    (h : r.component = some (slot, name)) : ¬(removedFonts items).contains name = true := by
  intro hremoved
  refine not_mem_ofItems_of_removed hremoved (List.mem_flatMap.mpr ⟨r.item, hitem, ?_⟩)
  exact mem_ofNode_item h

/-- What becomes of an item when fonts are removed and imports of factories dropped. -/
def fontless (removed dropped : NameSet) (item : Node) : List Node :=
  let cleaned := (dropDeclarators removed item).map (cleanClassNames removed)
  if dropped.isEmpty then cleaned else cleaned.flatMap (dropSpecifiers dropped)

/-- Every item is treated on its own. -/
theorem withoutFonts_eq_flatMap (items : List Node) :
    withoutFonts items =
      items.flatMap (fontless (removedFonts items) (droppedFactories items)) := by
  unfold withoutFonts removeInstances fontless
  dsimp only
  split
  · rw [List.map_flatMap]
  · rw [List.map_flatMap, List.flatMap_assoc]

/-- All that the step does. -/
theorem eliminateFonts_cases (items : List Node) (s : State) :
    (eliminateFonts items s).items = items ∨
      (eliminateFonts items s).items =
        items.flatMap (fontless (removedFonts items) (droppedFactories items)) := by
  rw [← withoutFonts_eq_flatMap]
  unfold eliminateFonts
  dsimp only
  split
  · exact Or.inr rfl
  · exact Or.inl rfl

/-- What comes of a registration is one, with cleaned entries. -/
theorem fontless_item (removed dropped : NameSet) (r : Registration) :
    fontless removed dropped r.item = [(mapTags (cleanClassNames removed) r).item] := by
  have hcleaned : (dropDeclarators removed r.item).map (cleanClassNames removed) =
      [(mapTags (cleanClassNames removed) r).item] := by
    rw [← clean_item]
    rfl
  unfold fontless
  rw [hcleaned]
  dsimp only
  split <;> rfl

/-- No name is lost but those of fonts. -/
theorem lexicalNames_fontless (hx : ¬removed.contains x = true) (dropped : NameSet) (item : Node) :
    x ∈ (fontless removed dropped item).flatMap lexicalNames ↔ x ∈ lexicalNames item := by
  have hcleaned : ((dropDeclarators removed item).map (cleanClassNames removed)).flatMap
      lexicalNames = (dropDeclarators removed item).flatMap lexicalNames := by
    rw [List.flatMap_map]
    exact List.flatMap_congr fun n _ => lexicalNames_walk (keepsNames_cleanClassNames _) n
  unfold fontless
  dsimp only
  split
  · rw [hcleaned, lexicalNames_dropDeclarators hx]
  · rw [List.flatMap_assoc]
    simp only [lexicalNames_dropSpecifiers]
    rw [hcleaned, lexicalNames_dropDeclarators hx]

/-- **Fonts after the registration.**  The registration stays, and what is bound behind it stays
bound there. -/
theorem eliminateFonts_registration (before after : List Node) {r : Registration}
    {slot : ComponentSlot} {name : String} (h : r.component = some (slot, name)) (s : State) :
    ∃ (r' : Registration) (before' after' : List Node),
      (eliminateFonts (before ++ r.item :: after) s).items = before' ++ r'.item :: after' ∧
      r'.factory = r.factory ∧ r'.component = r.component ∧
      ((∀ item ∈ after', name ∉ lexicalNames item) ↔ ∀ item ∈ after, name ∉ lexicalNames item) := by
  generalize hitems : before ++ r.item :: after = items
  by_cases hempty : (removedFonts items).isEmpty = true
  · rw [eliminateFonts_of_isEmpty s hempty]
    exact ⟨r, before, after, hitems.symm, rfl, rfl, Iff.rfl⟩
  · obtain ⟨y, hy⟩ : ∃ y, (removedFonts items).contains y = true := by
      simpa [NameSet.isEmpty_iff_not_contains] using hempty
    rw [eliminateFonts_of_contains s hy]
    -- every item is treated on its own, so what follows the registration still does
    have hitem : r.item ∈ items := by
      rw [← hitems]
      exact List.mem_append_right _ (List.mem_cons_self ..)
    have hname := not_contains_removedFonts_of_registered hitem h
    have hkeep := lexicalNames_fontless hname (droppedFactories items)
    rw [withoutFonts_eq_flatMap]
    have hregistration := fontless_item (removedFonts items) (droppedFactories items) r
    generalize fontless (removedFonts items) (droppedFactories items) = keep at hkeep hregistration
    refine ⟨mapTags (cleanClassNames (removedFonts items)) r, before.flatMap keep,
      after.flatMap keep, ?_, rfl, rfl, ?_⟩
    · have hsplit : items.flatMap keep =
          before.flatMap keep ++ (keep r.item ++ after.flatMap keep) := by
        rw [← hitems, List.flatMap_append, List.flatMap_cons]
      rw [hsplit, hregistration]
      rfl
    · constructor
      · intro hall item hitem hmem
        obtain ⟨n, hn, hnames⟩ := List.mem_flatMap.mp ((hkeep item).mpr hmem)
        exact hall n (List.mem_flatMap.mpr ⟨item, hitem, hn⟩) hnames
      · intro hall n hn hnames
        obtain ⟨item, hitem, hn⟩ := List.mem_flatMap.mp hn
        exact hall item hitem ((hkeep item).mp (List.mem_flatMap.mpr ⟨n, hn, hnames⟩))

/-! ### All the steps -/

/-- Two stages of a migration with the same bindings, the same options and the same component. -/
structure Alike (t t' : Step) : Prop where
  sketch : sketch t.items = sketch t'.items
  options : t.state.options = t'.state.options
  component : t.state.component = t'.state.component

theorem Alike.refl (t : Step) : Alike t t := ⟨rfl, rfl, rfl⟩

theorem Alike.trans {t t' t'' : Step} (h : Alike t t') (h' : Alike t' t'') : Alike t t'' :=
  ⟨h.sketch.trans h'.sketch, h.options.trans h'.options, h.component.trans h'.component⟩

theorem sketch_redirectImports (items : List Node) (s : State) :
    sketch (redirectImports items s).items = sketch items := by
  rw [← sketch_body, body_redirectImports, sketch_body]

/-- The steps that change imports and expressions only. -/
def innerPasses : List Pass := [.redirectImports, .mapHooks, .normalizeElements, .fitShell]

theorem alike_next {pass : Pass} (hpass : pass ∈ innerPasses) (t : Step) :
    Alike (t.next pass) t := by
  simp only [innerPasses, List.mem_cons, List.not_mem_nil, or_false] at hpass
  rcases hpass with rfl | rfl | rfl | rfl
  · exact ⟨sketch_redirectImports t.items t.state, rfl, rfl⟩
  · exact ⟨sketch_mapHooks t.items t.state, rfl, rfl⟩
  · exact ⟨sketch_normalizeElements t.items t.state, rfl, rfl⟩
  · have hstate : (t.next .fitShell).state = t.state := state_fitShell t.items t.state
    exact ⟨sketch_fitShell t.items t.state, by rw [hstate], by rw [hstate]⟩

theorem alike_foldl {passes : List Pass} (h : ∀ pass ∈ passes, pass ∈ innerPasses) (t : Step) :
    Alike (passes.foldl Step.next t) t := by
  induction passes generalizing t with
  | nil => exact Alike.refl t
  | cons pass passes ih =>
    obtain ⟨hpass, hpasses⟩ := List.forall_mem_cons.mp h
    exact (ih hpasses (t.next pass)).trans (alike_next hpass t)

/-- The steps of a page between the one that binds the component and its registration. -/
def betweenPasses (o : Options) : List Pass :=
  [.redirectImports, .mapHooks, .normalizeElements] ++ if o.kind.isLayout then [.fitShell] else []

theorem mem_innerPasses_of_between {o : Options} {pass : Pass} (h : pass ∈ betweenPasses o) :
    pass ∈ innerPasses := by
  unfold betweenPasses at h
  split at h
  · exact h
  · simp only [List.append_nil] at h
    exact List.mem_append_left [.fitShell] h

/-- The steps of a page before its registration. -/
def preparation (o : Options) : List Pass :=
  [.stripUseClient, .importRouter, .bindComponent] ++ betweenPasses o

/-- The module of a page before its registration. -/
def prepared (o : Options) (m : Module) : Step :=
  (preparation o).foldl Step.next (Step.start m.items { options := o })

/-- The module of a page with its component bound. -/
def boundStep (o : Options) (m : Module) : Step :=
  [.stripUseClient, .importRouter, .bindComponent].foldl Step.next
    (Step.start m.items { options := o })

theorem prepared_eq (o : Options) (m : Module) :
    prepared o m = (betweenPasses o).foldl Step.next (boundStep o m) := by
  rw [prepared, preparation, List.foldl_append, boundStep]

theorem items_boundStep (o : Options) (m : Module) :
    (boundStep o m).items = (bindComponent (importRouter (stripUseClient m.items
      { options := o }).items { options := o }).items { options := o }).items := by
  simp only [boundStep, List.foldl_cons, List.foldl_nil, items_next, state_next, Pass.run,
    Step.start, state_stripUseClient, state_importRouter]

theorem state_boundStep (o : Options) (m : Module) :
    (boundStep o m).state = (bindComponent (importRouter (stripUseClient m.items
      { options := o }).items { options := o }).items { options := o }).state := by
  simp only [boundStep, List.foldl_cons, List.foldl_nil, items_next, state_next, Pass.run,
    Step.start, state_stripUseClient, state_importRouter]

theorem pipeline_eq {o : Options} (h : o.kind ≠ .api) :
    pipeline o = preparation o ++
      (.registerRoute :: if o.fontAware then [.eliminateFonts] else []) := by
  simp [pipeline, preparation, betweenPasses, h]

/-- The module of a page after its registration. -/
theorem migrate_of_page {o : Options} (h : o.kind ≠ .api) (m : Module) :
    let registered := registerRoute (prepared o m).items (prepared o m).state
    (migrate o m).component = (prepared o m).state.component ∧
      (migrate o m).module.items =
        if o.fontAware then (eliminateFonts registered.items registered.state).items
        else registered.items := by
  have hrun : (pipeline o).foldl Step.next (Step.start m.items { options := o }) =
      (.registerRoute :: if o.fontAware then [.eliminateFonts] else []).foldl Step.next
        (prepared o m) := by
    rw [pipeline_eq h, List.foldl_append, prepared]
  unfold migrate
  rw [hrun]
  cases o.fontAware with
  | true =>
    simp only [if_true, List.foldl_cons, List.foldl_nil, items_next, state_next, Pass.run,
      state_eliminateFonts, component_registerRoute, and_self]
  | false =>
    simp only [Bool.false_eq_true, if_false, List.foldl_cons, List.foldl_nil, items_next,
      state_next, Pass.run, component_registerRoute, and_self]

/-- The steps before the registration change nothing that it looks at, except that the component
is bound. -/
theorem alike_prepared (o : Options) (m : Module) :
    Alike (prepared o m) (bindComponent m.items { options := o }) := by
  have hbody : body (importRouter (stripUseClient m.items { options := o }).items
      { options := o }).items = body m.items := by
    rw [body_importRouter, body_stripUseClient]
  obtain ⟨hsketch, hstate⟩ := bindComponent_congr hbody { options := o }
  rw [prepared_eq]
  refine (alike_foldl (fun pass => mem_innerPasses_of_between) _).trans ⟨?_, ?_, ?_⟩
  · rw [items_boundStep, hsketch]
  · rw [state_boundStep, hstate]
  · rw [state_boundStep, hstate]

theorem options_prepared (o : Options) (m : Module) : (prepared o m).state.options = o :=
  options_foldl (preparation o) (Step.start m.items { options := o })

theorem slot?_of_ne_api {kind : ModuleKind} (h : kind ≠ .api) : ∃ slot, kind.slot? = some slot := by
  cases kind with
  | api => exact absurd rfl h
  | page => exact ⟨_, rfl⟩
  | rootLayout => exact ⟨_, rfl⟩
  | layout => exact ⟨_, rfl⟩
  | loading => exact ⟨_, rfl⟩
  | error => exact ⟨_, rfl⟩

/-- The names that the registration itself binds. -/
theorem lexicalNames_item (r : Registration) : lexicalNames r.item = [routeBinding] := rfl

/-- **The component comes before its registration, or the reason why not.**  The module of a page
ends up as some items, the registration, and the items behind it.  The component is bound by none of
the last two, unless it has the name of the route, or one of the late items binds it and is neither
moved up nor followed by the registration. -/
theorem component_bound_before_registration_iff (o : Options) (h : o.kind ≠ .api) (m : Module) :
    let bound := bindComponent m.items { options := o }
    let name := bound.state.component
    (migrate o m).component = name ∧
    ∃ (r : Registration) (before after : List Node),
      (migrate o m).module.items = before ++ r.item :: after ∧
      r.factory = o.factory ∧ r.component = o.kind.slot?.map (·, name) ∧
      ((∀ item ∈ r.item :: after, name ∉ lexicalNames item) ↔
        name ≠ routeBinding ∧
          ∀ item ∈ behind name (late o.kind bound.items), name ∉ lexicalNames item) := by
  intro bound name
  have halike := alike_prepared o m
  have hoptions := options_prepared o m
  obtain ⟨r, before, after, hitems, hfactory, hr, hafter⟩ :=
    registerRoute_spec (prepared o m).items (prepared o m).state (by rw [hoptions]; exact h)
  rw [hoptions] at hfactory hr hafter
  rw [halike.component] at hr hafter
  -- the steps between leave the sketch alone, and that is all that the place depends on
  have hlate : (∀ item ∈ after, name ∉ lexicalNames item) ↔
      ∀ item ∈ behind name (late o.kind bound.items), name ∉ lexicalNames item :=
    hafter.trans (behind_congr halike.sketch o.kind name)
  -- the registration itself binds the route, so it counts as well
  have hbehind : ∀ (r' : Registration) (after' : List Node),
      ((∀ item ∈ after', name ∉ lexicalNames item) ↔ ∀ item ∈ after, name ∉ lexicalNames item) →
      ((∀ item ∈ r'.item :: after', name ∉ lexicalNames item) ↔ name ≠ routeBinding ∧
        ∀ item ∈ behind name (late o.kind bound.items), name ∉ lexicalNames item) := by
    intro r' after' hafter'
    rw [List.forall_mem_cons, lexicalNames_item, List.mem_singleton, hafter', hlate]
  obtain ⟨hcomponent, hmigrated⟩ := migrate_of_page h m
  refine ⟨hcomponent.trans halike.component, ?_⟩
  rw [hmigrated]
  by_cases hfont : o.fontAware = true
  · obtain ⟨slot, hslot⟩ := slot?_of_ne_api h
    have hslotted : r.component = some (slot, name) := by
      rw [hr, hslot]
      rfl
    obtain ⟨r', before', after', hitems', hfactory', hr', hafter'⟩ :=
      eliminateFonts_registration before after hslotted
        (registerRoute (prepared o m).items (prepared o m).state).state
    rw [if_pos hfont, hitems]
    exact ⟨r', before', after', hitems', hfactory'.trans hfactory, hr'.trans hr,
      hbehind r' after' hafter'⟩
  · rw [if_neg hfont]
    exact ⟨r, before, after, hitems, hfactory, hr, hbehind r after Iff.rfl⟩

/-- `const a = 1, Home = () => null; export default Home;` -/
def sharedStatement : Module where
  items :=
    [.varDecl none .const false
      [.declarator none false (.mk (.binding "a" false) none [.absent]) (.mk (.num "1") none []),
        .declarator none false (.mk (.binding "Home" false) none [.absent])
          (Build.thunk (.mk .null none []))],
      .exportDefaultExpr none (Build.ref "Home")]

/-- A component that shares its statement with another name is read before it is bound. -/
theorem component_read_before_bound :
    ({} : Options).kind ≠ .api ∧
      ∃ (r : Registration) (before after : List Node),
        (migrate {} sharedStatement).module.items = before ++ r.item :: after ∧
        r.component = some (.component, "Home") ∧
        ∃ item ∈ r.item :: after, "Home" ∈ lexicalNames item := by
  refine ⟨by decide, ?_⟩
  obtain ⟨-, r, before, after, hitems, -, hr, hiff⟩ :=
    component_bound_before_registration_iff {} (by decide) sharedStatement
  refine ⟨r, before, after, hitems, hr, ?_⟩
  by_contra hnone
  have hall : ∀ item ∈ r.item :: after, "Home" ∉ lexicalNames item :=
    fun item hitem hmem => hnone ⟨item, hitem, hmem⟩
  have hlate := (hiff.mp hall).2
  exact absurd hlate (by decide)

end RouteMigration.Migration
