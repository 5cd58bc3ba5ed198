import RouteMigration.Proofs.DefaultExports

/-!
# The registered component and its declaration

The component is registered under a name.  Where the module exports a function by default, that
name is bound by a declaration that takes the place of the export and outlives every later step.
Where the module exports a name, that name is registered as it was read; if it is one of the hooks
that are renamed, the export and the import of the hook follow the renaming and the registration
does not.

## Main Definitions

* `Binds` — an item declares a name as a function or as a constant

## Main Statements

* `exists_binds_next` — every step before the registration keeps the declaration of a name
* `exists_binds_eliminateFonts` — so does the removal of fonts, unless the name is that of a font
* `registered_component_exists` — the registration, and what is behind the name it has
* `exported_hook_is_not_kept` — a module that exports a hook
-/

namespace RouteMigration.Migration

variable {items : List Node} {item : Node} {name : String}

/-- How a name is declared. -/
inductive Binder where
  | function
  | const
deriving DecidableEq, Repr

/-- The item declares the name as a function or as a constant. -/
def Binds (name : String) : Binder → Node → Prop
  | .function, item => ∃ s ns f, item = .functionDecl s false (.ident ns name) f
  | .const, item => ∃ s ds, item = .varDecl s .const false ds ∧
      ∃ d ∈ ds, Shape.boundName? d = some name

variable {binder : Binder}

theorem Binds.isPreamble (h : Binds name binder item) : isPreamble item = false := by
  cases binder with
  | function =>
    obtain ⟨s, ns, f, rfl⟩ := h
    rfl
  | const =>
    obtain ⟨s, ds, rfl, -⟩ := h
    rfl

theorem Binds.metadata? (h : Binds name binder item) : Shape.metadata? item = none := by
  cases binder with
  | function =>
    obtain ⟨s, ns, f, rfl⟩ := h
    rfl
  | const =>
    obtain ⟨s, ds, rfl, -⟩ := h
    rfl

theorem Binds.walk {walk : Node → Node} (hwalk : Rebuilds isRewritten walk)
    (h : Binds name binder item) : Binds name binder (walk item) := by
  cases binder with
  | function =>
    obtain ⟨s, ns, f, rfl⟩ := h
    refine ⟨s, ns, walk f, ?_⟩
    rw [hwalk.plain s _ rfl, List.map_cons, List.map_singleton, hwalk.plain ns [] rfl]
    rfl
  | const =>
    obtain ⟨s, ds, rfl, d, hd, hname⟩ := h
    rw [hwalk.plain s _ rfl]
    exact ⟨s, _, rfl, walk d, List.mem_map_of_mem hd,
      (boundName?_walk (keepsNames_of_rewrites hwalk) d).trans hname⟩

/-! ### Binding the component -/

/-- The name that a default export is bound to, and how; a reference is bound elsewhere. -/
def boundAs? (derived : String) : DefaultExport → Option (String × Binder)
  | .function given => some (given.getD derived, .function)
  | .arrow => some (derived, .const)
  | .reference _ => none

theorem binds_of_bindExport? {derived : String} {bound : Bound} {shape : DefaultExport}
    (hbound : bindExport? derived item = some bound) (hshape : DefaultExport.of? item = some shape)
    (hname : boundAs? derived shape = some (name, binder)) :
    bound.name = name ∧ Binds name binder bound.item := by
  unfold DefaultExport.of? at hshape
  split at hshape
  · next given f =>
    cases hshape
    cases hname
    cases hbound
    exact ⟨rfl, _, _, _, rfl⟩
  · next given f hne =>
    cases hshape
    cases hname
    unfold bindExport? at hbound
    dsimp only at hbound
    split at hbound
    · next n ns => exact absurd rfl (hne n ns)
    · cases hbound
      exact ⟨rfl, _, _, _, rfl⟩
  · next e =>
    split at hshape
    · cases hshape
      cases hname
      cases hbound
      exact ⟨rfl, _, _, rfl, _, List.mem_singleton_self _, rfl⟩
    · cases hshape
      cases hname
    · cases hshape
  · cases hshape

/-! ### The steps -/

theorem exists_binds_redirectImports (h : ∃ d ∈ items, Binds name binder d) (s : State) :
    ∃ d ∈ (redirectImports items s).items, Binds name binder d := by
  obtain ⟨d, hd, hbinds⟩ := h
  refine ⟨d, List.mem_flatMap.mpr ⟨d, hd, ?_⟩, hbinds⟩
  rcases ofItem_cases s.options d with hkeep | ⟨hpreamble, -⟩
  · rw [hkeep]
    exact List.mem_singleton_self d
  · rw [hbinds.isPreamble] at hpreamble
    cases hpreamble

theorem exists_binds_mapHooks (h : ∃ d ∈ items, Binds name binder d) (s : State) :
    ∃ d ∈ (mapHooks items s).items, Binds name binder d := by
  obtain ⟨d, hd, hbinds⟩ := h
  rw [mapHooks_items]
  refine ⟨_, List.mem_map_of_mem hd, ?_⟩
  rw [mapImport_of_ne (by simp [importSource?_of_not_isPreamble hbinds.isPreamble])]
  exact hbinds.walk (rewrites_renameHooks _)

theorem exists_binds_normalizeElements (h : ∃ d ∈ items, Binds name binder d) (s : State) :
    ∃ d ∈ (normalizeElements items s).items, Binds name binder d := by
  obtain ⟨d, hd, hbinds⟩ := h
  exact ⟨normalize d, List.mem_map_of_mem hd, hbinds.walk rewrites_normalize⟩

/-- A new body leaves the declaration of the component what it was. -/
theorem Component.binds_of_ofItem? {c : Component} {component : String}
    (h : Component.ofItem? component item = some c) (hbinds : Binds name binder item)
    (newBody : Node) : Binds name binder (c.withBody newBody) := by
  cases binder with
  | function =>
    obtain ⟨s, ns, f, rfl⟩ := hbinds
    unfold Component.ofItem? Component.ofDeclaration? at h
    dsimp only at h
    split at h
    · obtain ⟨f', heq, -⟩ := Component.exists_of_ofFunction? h newBody
      exact ⟨s, ns, f', heq⟩
    · cases h
  | const =>
    -- how a constant is bound can be read off the sketch, which stays the same
    obtain ⟨s, ds, rfl, d, hd, hname⟩ := hbinds
    obtain ⟨hform, hsketch⟩ := Component.form_of_ofItem? h newBody
    generalize c.withBody newBody = n at hform hsketch ⊢
    obtain ⟨f, s', ds'⟩ := n
    obtain rfl : f = .varDecl .const false := hform
    rw [sketchOf_of_whole rfl, sketchOf_of_whole rfl] at hsketch
    have hds : ds'.map sketchOf = ds.map sketchOf := congrArg Node.parts hsketch
    obtain ⟨d', hd', heq⟩ := List.mem_map.mp (hds ▸ List.mem_map_of_mem hd)
    refine ⟨s', ds', rfl, d', hd', ?_⟩
    rw [← boundName?_sketchOf, heq, boundName?_sketchOf, hname]

theorem exists_binds_fitShell (h : ∃ d ∈ items, Binds name binder d) (s : State) :
    ∃ d ∈ (fitShell items s).items, Binds name binder d := by
  obtain ⟨d, hd, hbinds⟩ := h
  rcases fitShell_cases items s with hsame | ⟨before, found, after, c, newBody, rfl, hfound, heq⟩
  · rw [hsame]
    exact ⟨d, hd, hbinds⟩
  · rw [heq]
    simp only [List.mem_append, List.mem_cons] at hd ⊢
    rcases hd with hd | rfl | hd
    · exact ⟨d, Or.inl hd, hbinds⟩
    · exact ⟨_, Or.inr (Or.inl rfl), Component.binds_of_ofItem? hfound hbinds newBody⟩
    · exact ⟨d, Or.inr (Or.inr hd), hbinds⟩

/-- **One step.**  The steps before the registration keep the declaration of a name. -/
theorem exists_binds_next {pass : Pass} (hpass : pass ∈ innerPasses) {t : Step}
    (h : ∃ d ∈ t.items, Binds name binder d) : ∃ d ∈ (t.next pass).items, Binds name binder d := by
  simp only [innerPasses, List.mem_cons, List.not_mem_nil, or_false] at hpass
  rcases hpass with rfl | rfl | rfl | rfl
  · exact exists_binds_redirectImports h t.state
  · exact exists_binds_mapHooks h t.state
  · exact exists_binds_normalizeElements h t.state
  · exact exists_binds_fitShell h t.state

/-- **Any number of steps.** -/
theorem exists_binds_foldl {passes : List Pass} (hpasses : ∀ pass ∈ passes, pass ∈ innerPasses)
    {t : Step} (h : ∃ d ∈ t.items, Binds name binder d) :
    ∃ d ∈ (passes.foldl Step.next t).items, Binds name binder d := by
  induction passes generalizing t with
  | nil => exact h
  | cons pass passes ih =>
    obtain ⟨hpass, hpasses⟩ := List.forall_mem_cons.mp hpasses
    exact ih hpasses (exists_binds_next hpass h)

theorem exists_binds_registerRoute (h : ∃ d ∈ items, Binds name binder d) (s : State) :
    ∃ d ∈ (registerRoute items s).items, Binds name binder d := by
  obtain ⟨d, hd, hbinds⟩ := h
  obtain ⟨r, index, taken, htaken, -, hperm⟩ := exists_perm_registerRoute items s
  have hmem : d ∈ taken := htaken.mem hd hbinds.metadata?
  exact ⟨d, hperm.mem_iff.mpr (List.mem_cons_of_mem _ hmem), hbinds⟩

/-- A constant that is no font keeps its declarator. -/
theorem Binds.fontless {removed : NameSet} (hname : ¬removed.contains name = true)
    (h : Binds name binder item) (dropped : NameSet) :
    ∃ d ∈ fontless removed dropped item, Binds name binder d := by
  cases binder with
  | function =>
    have hsource := importSource?_of_not_isPreamble h.isPreamble
    have hdeclarators : Shape.declarators? item = none := by
      obtain ⟨s, ns, f, rfl⟩ := h
      rfl
    rw [fontless_eq_singleton hdeclarators (by simp [hsource])]
    exact ⟨_, List.mem_singleton_self _, h.walk (rewrites_cleanClassNames removed)⟩
  | const =>
    obtain ⟨s, ds, rfl, d, hd, hbound⟩ := h
    have hother : ¬Reference.declares removed d = true := by
      intro hdeclares
      obtain ⟨y, hy, hcontains⟩ := Reference.declares_iff.mp hdeclares
      obtain rfl : name = y := Option.some.inj (hbound.symm.trans hy)
      exact hname hcontains
    have hkept : d ∈ ds.filter (!Reference.declares removed ·) :=
      List.mem_filter.mpr ⟨hd, by simpa using hother⟩
    have hdrop : dropDeclarators removed (.varDecl s .const false ds) =
        [.varDecl s .const false (ds.filter (!Reference.declares removed ·))] := by
      have hne : (ds.filter (!Reference.declares removed ·)).isEmpty = false := by
        rw [List.isEmpty_eq_false_iff]
        exact List.ne_nil_of_mem hkept
      rw [dropDeclarators, if_pos (by decide)]
      dsimp only
      rw [if_neg (by simp [hne])]
    have hleft : Binds name .const
        (.varDecl s .const false (ds.filter (!Reference.declares removed ·))) :=
      ⟨s, _, rfl, d, hkept, hbound⟩
    have hbinds := hleft.walk (rewrites_cleanClassNames removed)
    refine ⟨_, ?_, hbinds⟩
    have hsource := importSource?_of_not_isPreamble hbinds.isPreamble
    rw [Migration.fontless, hdrop, List.map_singleton]
    split
    · exact List.mem_singleton_self _
    · rw [List.flatMap_singleton, dropSpecifiers_of_not_font (by simp [hsource])]
      exact List.mem_singleton_self _

theorem exists_binds_eliminateFonts (hname : ¬(removedFonts items).contains name = true)
    (h : ∃ d ∈ items, Binds name binder d) (s : State) :
    ∃ d ∈ (eliminateFonts items s).items, Binds name binder d := by
  obtain ⟨d, hd, hbinds⟩ := h
  rcases eliminateFonts_cases items s with hsame | hflat
  · rw [hsame]
    exact ⟨d, hd, hbinds⟩
  · rw [hflat]
    obtain ⟨d', hd', hbinds'⟩ := hbinds.fontless hname (droppedFactories items)
    exact ⟨d', List.mem_flatMap.mpr ⟨d, hd, hd'⟩, hbinds'⟩

/-! ### All the steps -/

/-- The component is registered in the end, and a declaration of it that was there before its
registration is still there. -/
theorem exists_registered {o : Options} (h : o.kind ≠ .api) (m : Module) :
    ∃ (r : Registration) (slot : ComponentSlot), o.kind.slot? = some slot ∧
      r.component = some (slot, (migrate o m).component) ∧
      r.item ∈ (migrate o m).module.items ∧
      ∀ binder, (∃ d ∈ (prepared o m).items, Binds (migrate o m).component binder d) →
        ∃ d ∈ (migrate o m).module.items, Binds (migrate o m).component binder d := by
  obtain ⟨slot, hslot⟩ := slot?_of_ne_api h
  have hoptions := options_prepared o m
  obtain ⟨hcomponent, hitems⟩ := migrate_of_page h m
  obtain ⟨r, index, taken, -, hr, hperm⟩ :=
    exists_perm_registerRoute (prepared o m).items (prepared o m).state
  rw [hoptions, hslot, ← hcomponent] at hr
  have hmem := hperm.mem_iff.mpr (List.mem_cons_self ..)
  have hbinds : ∀ binder, (∃ d ∈ (prepared o m).items, Binds (migrate o m).component binder d) →
      ∃ d ∈ (registerRoute (prepared o m).items (prepared o m).state).items,
        Binds (migrate o m).component binder d :=
    fun binder hd => exists_binds_registerRoute hd (prepared o m).state
  rw [hitems]
  generalize registerRoute (prepared o m).items (prepared o m).state = registered at hmem hbinds ⊢
  split
  · -- fonts are removed after the registration, which keeps the component from being one
    have hname := not_contains_removedFonts_of_registered hmem hr
    have hkept : ∀ binder, (∃ d ∈ (prepared o m).items, Binds (migrate o m).component binder d) →
        ∃ d ∈ (eliminateFonts registered.items registered.state).items,
          Binds (migrate o m).component binder d :=
      fun binder hd => exists_binds_eliminateFonts hname (hbinds binder hd) registered.state
    rcases eliminateFonts_cases registered.items registered.state with hsame | hflat
    · exact ⟨r, slot, hslot, hr, by rwa [hsame], hkept⟩
    · refine ⟨mapTags (cleanClassNames (removedFonts registered.items)) r, slot, hslot, hr, ?_,
        hkept⟩
      rw [hflat]
      refine List.mem_flatMap.mpr ⟨r.item, hmem, ?_⟩
      rw [fontless_item]
      exact List.mem_singleton_self _
  · exact ⟨r, slot, hslot, hr, hmem, hbinds⟩

theorem component_migrate {o : Options} (h : o.kind ≠ .api) (m : Module) :
    (migrate o m).component = (boundStep o m).state.component := by
  rw [(migrate_of_page h m).1, prepared_eq]
  exact (alike_foldl (fun pass => mem_innerPasses_of_between) (boundStep o m)).component

/-- A function or an arrow function that is the only default export is declared in the end, and
nothing is exported by default. -/
theorem exists_binds_migrate {o : Options} (h : o.kind ≠ .api) {m : Module}
    {shape : DefaultExport} (hsole : defaultExports m.items = [item])
    (hshape : DefaultExport.of? item = some shape)
    (hname : boundAs? o.derivedName shape = some (name, binder)) :
    (migrate o m).component = name ∧ defaultExports (migrate o m).module.items = [] ∧
      ∃ d ∈ (migrate o m).module.items, Binds (migrate o m).component binder d := by
  rw [← defaultExports_importRouter_stripUseClient m.items { options := o }] at hsole
  rcases bindComponent_of_sole hsole hshape { options := o } with
    ⟨reference, rfl, -⟩ | ⟨-, bound, hbound, hmem, hnone, hcomponent⟩
  · cases hname
  · rw [← items_boundStep] at hmem hnone
    obtain ⟨hbname, hbinds⟩ := binds_of_bindExport? hbound hshape hname
    have heq : (migrate o m).component = name := by
      rw [component_migrate h, state_boundStep, hcomponent, hbname]
    refine ⟨heq, ?_, ?_⟩
    · obtain ⟨change, -, hperm⟩ := defaultExports_migrate h m
      rw [hnone] at hperm
      exact hperm.eq_nil
    · obtain ⟨r, slot, -, -, -, hkept⟩ := exists_registered h m
      apply hkept
      rw [heq, prepared_eq]
      exact exists_binds_foldl (fun pass => mem_innerPasses_of_between) ⟨bound.item, hmem, hbinds⟩

/-- A name that is the only default export is registered as it is, and is exported in the end under
the name that its hook got. -/
theorem exported_name_migrate {o : Options} (h : o.kind ≠ .api) {m : Module}
    (hsole : defaultExports m.items = [item])
    (hshape : DefaultExport.of? item = some (.reference name)) :
    (migrate o m).component = name ∧
      ∃ item', defaultExports (migrate o m).module.items = [item'] ∧
        IsChanged (hookRenames m.items) item item' := by
  rw [← defaultExports_importRouter_stripUseClient m.items { options := o }] at hsole
  rcases bindComponent_of_sole hsole hshape { options := o } with
    ⟨exported, heq, hsame, hcomponent⟩ | ⟨hne, -⟩
  · obtain rfl := DefaultExport.reference.inj heq
    rw [component_migrate h, state_boundStep]
    refine ⟨hcomponent, ?_⟩
    obtain ⟨change, hchange, hperm⟩ := defaultExports_migrate h m
    rw [items_boundStep, hsame, hsole, List.map_singleton] at hperm
    exact ⟨change item, List.perm_singleton.mp hperm, hchange item⟩
  · exact absurd rfl (hne name)

/-- **The registered component.**  In a module with one default export the component is registered
in the slot of its kind.  Where that export is a function or an arrow function, no default export
is left, and the registered name is declared as a function or as a constant.  Where it is a name,
that name is registered and stays exported, but under the name that it has after hooks were
renamed: the export is kept as it is exactly when it is no hook with another name. -/
theorem registered_component_exists (o : Options) (h : o.kind ≠ .api) (m : Module) (item : Node)
    (shape : DefaultExport) (hsole : defaultExports m.items = [item])
    (hshape : DefaultExport.of? item = some shape) :
    let name := (migrate o m).component
    let items := (migrate o m).module.items
    (∃ (r : Registration) (slot : ComponentSlot), r.item ∈ items ∧ o.kind.slot? = some slot ∧
      r.component = some (slot, name) ∧
      Build.keyValue slot.key (Build.ref name) ∈ r.properties) ∧
    match shape with
    | .function given => name = given.getD o.derivedName ∧ defaultExports items = [] ∧
        ∃ d ∈ items, Binds name .function d
    | .arrow => name = o.derivedName ∧ defaultExports items = [] ∧ ∃ d ∈ items, Binds name .const d
    | .reference exported => name = exported ∧
        ∃ item', defaultExports items = [item'] ∧
          DefaultExport.of? item' =
            some (.reference (renamedHook (hookRenames m.items) exported)) ∧
          ∀ s e, item = .exportDefaultExpr s e → IsWrappedName exported e →
            (item' = item ↔ renamedHook (hookRenames m.items) exported = exported) := by
  intro name items
  refine ⟨?_, ?_⟩
  · obtain ⟨r, slot, hslot, hr, hmem, -⟩ := exists_registered h m
    exact ⟨r, slot, hmem, hslot, hr, by simp [Registration.properties, hr, name]⟩
  · cases shape with
    | function given => exact exists_binds_migrate h hsole hshape rfl
    | arrow => exact exists_binds_migrate h hsole hshape rfl
    | reference exported =>
      obtain ⟨hname, item', hitem', hchange⟩ := exported_name_migrate h hsole hshape
      have hexported := hchange.of? hshape
      refine ⟨hname, item', hitem', hexported, ?_⟩
      rintro s e rfl he
      constructor
      · rintro rfl
        rw [hshape] at hexported
        exact (DefaultExport.reference.inj (Option.some.inj hexported)).symm
      · exact hchange.eq he

/-- `import { useRouter } from "next/navigation"; export default useRouter;` -/
def exportedHook : Module where
  items :=
    [Build.namedImport [("useRouter", "useRouter")] navigationSource,
      .exportDefaultExpr none (Build.ref "useRouter")]

/-- A hook that is exported by default is registered under its old name and exported under its new
one. -/
theorem exported_hook_is_not_kept :
    ({} : Options).kind ≠ .api ∧
      defaultExports exportedHook.items = [.exportDefaultExpr none (Build.ref "useRouter")] ∧
      DefaultExport.of? (.exportDefaultExpr none (Build.ref "useRouter")) =
        some (.reference "useRouter") ∧
      (migrate {} exportedHook).component = "useRouter" ∧
      ∃ item', defaultExports (migrate {} exportedHook).module.items = [item'] ∧
        DefaultExport.of? item' = some (.reference "useNavigate") ∧
        item' ≠ .exportDefaultExpr none (Build.ref "useRouter") := by
  refine ⟨by decide, rfl, rfl, ?_⟩
  obtain ⟨-, hname, item', hitem', hexported, hkept⟩ := registered_component_exists {} (by decide)
    exportedHook (.exportDefaultExpr none (Build.ref "useRouter")) (.reference "useRouter") rfl rfl
  refine ⟨hname, item', hitem', hexported, fun heq => ?_⟩
  have hsame := (hkept none (Build.ref "useRouter") rfl (.ref none)).mp heq
  exact absurd hsame (by decide)

end RouteMigration.Migration
