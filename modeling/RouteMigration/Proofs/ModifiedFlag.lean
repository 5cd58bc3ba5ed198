import Mathlib.Data.Multiset.ZeroCons
import RouteMigration.Proofs.Handlers
import RouteMigration.Proofs.ImportSources
import RouteMigration.Proofs.ShellPlaces

/-!
# Whether a step changed the module

Every step says whether it changed the module, and knows that from what it counted on the way.
Here it is shown to be so: a step that says no leaves the items as they are, and a step that says
yes leaves some item that looks different, or more or fewer of them.

## Main Definitions

* `Step.TellsChange` — a step says that it changed the items just when they look different

## Main Statements

* `tellsChange_bindComponent`, `tellsChange_redirectImports`, ... — one step
* `Pass.isModified_eq_false_iff` — every step
-/

namespace RouteMigration

variable {items : List Node} {s : State} {step : Step}

/-- The step says that it changed the items just when they look different. -/
def Step.TellsChange (step : Step) (items : List Node) : Prop :=
  step.isModified = false ↔ step.items.map bare = items.map bare

theorem Step.TellsChange.intro (hsame : step.isModified = false → step.items = items)
    (hbare : step.items.map bare = items.map bare → step.isModified = false) :
    step.TellsChange items :=
  ⟨fun h => by rw [hsame h], hbare⟩

/-- A step that always says that it changed the module has to leave something that looks
different. -/
theorem Step.TellsChange.of_modified (hflag : step.isModified = true)
    (hne : step.items.map bare ≠ items.map bare) : step.TellsChange items :=
  .intro (fun h => absurd (hflag.symm.trans h) (by simp)) fun h => absurd h hne

namespace Migration

/-! ### The top of the module -/

theorem dropClientDirectives_sublist (items : List Node) :
    (dropClientDirectives items).Sublist items := by
  conv_rhs => rw [← List.take_append_drop (Shape.prologue items) items]
  exact List.filter_sublist.append_right _

theorem tellsChange_stripUseClient (items : List Node) (s : State) :
    (stripUseClient items s).TellsChange items := by
  have hsub := dropClientDirectives_sublist items
  refine .intro (fun h => ?_) fun h => ?_
  · exact hsub.eq_of_length_le (by simpa [stripUseClient] using h)
  · have hlength := length_eq_of_bare h
    simp only [stripUseClient] at hlength ⊢
    simp [hlength]

theorem tellsChange_importRouter (items : List Node) (s : State) :
    (importRouter items s).TellsChange items := by
  refine .of_modified rfl fun h => ?_
  have hlength := length_eq_of_bare h
  simp only [importRouter, insertAt, List.length_append, List.length_cons, List.length_take,
    List.length_drop] at hlength
  omega

/-! ### The component -/

theorem form_of_bindExport? {derived : String} {item : Node} {bound : Bound}
    (h : bindExport? derived item = some bound) : bound.item.form ≠ item.form := by
  unfold bindExport? at h
  split at h
  · cases h
    simp [Node.form]
  · cases h
    simp [Build.constDecl, Node.form]
  · cases h

theorem tellsChange_bindComponent (items : List Node) (s : State) :
    (bindComponent items s).TellsChange items := by
  unfold bindComponent
  split
  · exact .intro (fun _ => rfl) fun _ => rfl
  · exact .intro (fun _ => rfl) fun _ => rfl
  · next before item shape after hshape hsplit =>
    split
    · exact .intro (fun _ => rfl) fun _ => rfl
    · next bound hbound =>
      refine .of_modified rfl fun h => form_of_bindExport? hbound ?_
      obtain ⟨rfl, -, -⟩ := splitDefaultExport?_eq_some hsplit
      simp only [List.map_append, List.map_cons, List.append_cancel_left_eq, List.cons.injEq] at h
      exact form_eq_of_bare h.1

/-! ### Imports -/

/-- Import declarations that look the same have one source. -/
theorem importSource?_of_bare {item item' : Node} {source source' : String}
    (hsource : Shape.importSource? item = some source)
    (hsource' : Shape.importSource? item' = some source') (h : bare item = bare item') :
    source = source' := by
  obtain ⟨s, t, p, specifiers, ss, raw, a, rfl⟩ := importSource?_eq_some.mp hsource
  obtain ⟨s', t', p', specifiers', ss', raw', a', rfl⟩ := importSource?_eq_some.mp hsource'
  simp only [bare_mk, List.map_cons, Node.mk.injEq, List.cons.injEq, Form.str.injEq] at h
  exact h.2.2.2.1.1.1

/-- Where each item makes room for at most one, and all in all nothing looks different, each is
replaced by one that looks like it. -/
theorem of_bare_flatMap {f : Node → List Node} (hf : ∀ item, (f item).length ≤ 1)
    (h : (items.flatMap f).map bare = items.map bare) :
    ∀ item ∈ items, (f item).map bare = [bare item] := by
  have hle : ∀ items : List Node, (items.flatMap f).length ≤ items.length := by
    intro items
    induction items with
    | nil => simp
    | cons item rest ih =>
      have := hf item
      rw [List.flatMap_cons, List.length_append, List.length_cons]
      omega
  induction items with
  | nil => simp
  | cons item rest ih =>
    rw [List.flatMap_cons, List.map_append, List.map_cons] at h
    match hitem : f item with
    | [] =>
      have hlength := congrArg List.length h
      have := hle rest
      rw [hitem, List.map_nil, List.nil_append, List.length_map, List.length_cons,
        List.length_map] at hlength
      omega
    | [new] =>
      rw [hitem, List.map_singleton, List.singleton_append] at h
      obtain ⟨hnew, hrest⟩ := List.cons.inj h
      refine List.forall_mem_cons.mpr ⟨?_, ih hrest⟩
      rw [hitem, List.map_singleton, hnew]
    | _ :: _ :: _ =>
      have := hf item
      simp [hitem] at this

/-- Import declarations that look the same have as many specifiers. -/
theorem length_specifiers_of_bare {s s' : Option Span} {t t' : Bool} {p p' : ImportPhase}
    {specifiers specifiers' : List Node} {source source' a a' : Node}
    (h : bare (.importDecl s t p specifiers source a) =
      bare (.importDecl s' t' p' specifiers' source' a')) :
    specifiers.length = specifiers'.length := by
  simp only [bare_mk, List.map_cons, Node.mk.injEq, List.cons.injEq] at h
  exact length_eq_of_bare h.2.2.1.2.2

/-- What takes the place of an import has one specifier. -/
theorem exists_of_replace {o : Options} {item new : Node} {package stylesheet : Option String}
    (h : ImportChange.ofItem o item = .replace new package stylesheet) :
    ∃ specifier source,
      new = .importDecl none false .evaluation [specifier] (Build.str source) .absent := by
  unfold ImportChange.ofItem ImportChange.of at h
  split at h
  · split at h
    · split at h
      · cases h
        exact ⟨_, _, rfl⟩
      · cases h
    · unfold ImportChange.ofOther at h
      split at h
      · cases h
      · split at h
        · cases h
          exact ⟨_, _, rfl⟩
        · split at h
          · unfold ImportChange.ofStylesheet at h
            dsimp only at h
            split at h
            · cases h
              exact ⟨_, _, rfl⟩
            · cases h
              exact ⟨_, _, rfl⟩
          · cases h
  · cases h

/-- What takes the place of an import has a specifier, and a source for which nothing has to
change. -/
theorem replace_spec {o : Options} {item new : Node} {package stylesheet : Option String}
    (h : ImportChange.ofItem o item = .replace new package stylesheet) :
    ∃ specifier source,
      new = .importDecl none false .evaluation [specifier] (Build.str source) .absent ∧
        isLegacySource source = false ∧ source ≠ linkSource := by
  obtain ⟨specifier, source', rfl⟩ := exists_of_replace h
  obtain ⟨source, specifiers, -, hof⟩ := ofItem_eq_replace h
  refine ⟨specifier, source', rfl, isLegacySource_of_replace hof rfl, ?_⟩
  rintro rfl
  rcases source_of_replace hof rfl with himage | hrouter | ⟨-, hstylesheet, rfl | hurl⟩
  · exact absurd himage (by decide)
  · exact absurd hrouter (by decide)
  · rw [isStylesheetSource_of_named (by decide)] at hstylesheet
    cases hstylesheet
  · exact url_ne (by decide) source hurl.symm

/-- An import that binds something stays, unless its source is one of the old modules. -/
theorem of_eq_keep_of_ne_nil {specifiers : List Node} {source : String}
    (hlegacy : isLegacySource source = false) (hlink : source ≠ linkSource)
    (hspecifiers : specifiers ≠ []) (o : Options) :
    ImportChange.of o specifiers source = .keep := by
  have himage : source ≠ imageSource := by
    rintro rfl
    exact absurd hlegacy (by decide)
  simp [ImportChange.of, ImportChange.ofOther, himage, hlegacy, hlink, hspecifiers]

/-- What takes the place of an import looks different: an import that looks like it would stay. -/
theorem bare_ne_of_replace {o : Options} {item new : Node} {package stylesheet : Option String}
    (h : ImportChange.ofItem o item = .replace new package stylesheet) :
    bare new ≠ bare item := by
  intro hbare
  obtain ⟨specifier, source', rfl, hlegacy, hlink⟩ := replace_spec h
  obtain ⟨source, -, hsource, -⟩ := ofItem_eq_replace h
  obtain rfl := importSource?_of_bare rfl hsource hbare
  obtain ⟨s, t, p, specifiers, ss, raw, a, rfl⟩ := importSource?_eq_some.mp hsource
  have hspecifiers : specifiers ≠ [] := by
    rintro rfl
    cases length_specifiers_of_bare hbare
  have hkeep := of_eq_keep_of_ne_nil hlegacy hlink hspecifiers o
  cases hkeep.symm.trans h

/-- Without imports to change nothing happens. -/
theorem redirectImports_of_keep
    (h : ∀ item ∈ items, ImportChange.ofItem s.options item = .keep) :
    (redirectImports items s).items = items ∧ (redirectImports items s).state = s := by
  have hkeep : ∀ item ∈ items, (ImportChange.ofItem s.options item).apply item = [item] := by
    intro item hitem
    rw [h item hitem]
    rfl
  have hchanges : items.map (ImportChange.ofItem s.options) = items.map fun _ => .keep :=
    List.map_congr_left h
  constructor
  · show items.flatMap (fun item => (ImportChange.ofItem s.options item).apply item) = items
    rw [List.flatMap_congr hkeep, List.flatMap_singleton']
  · simp [redirectImports, hchanges, ImportChange.package?, ImportChange.stylesheet?]

theorem tellsChange_redirectImports (items : List Node) (s : State) :
    (redirectImports items s).TellsChange items := by
  have hflag : (redirectImports items s).isModified = false ↔
      ∀ item ∈ items, ImportChange.ofItem s.options item = .keep := by
    have hkeep : ∀ change : ImportChange, change.isChange = false ↔ change = .keep := by
      intro change
      cases change <;> simp [ImportChange.isChange]
    simp only [redirectImports, List.any_map, List.any_eq_false, Bool.not_eq_true,
      Function.comp_apply, hkeep]
  refine .intro (fun h => (redirectImports_of_keep (hflag.mp h)).1)
    fun h => hflag.mpr fun item hitem => ?_
  have hroom : ∀ item, ((ImportChange.ofItem s.options item).apply item).length ≤ 1 := by
    intro item
    cases ImportChange.ofItem s.options item <;> simp [ImportChange.apply]
  have hsame := of_bare_flatMap hroom h item hitem
  cases hchange : ImportChange.ofItem s.options item with
  | keep => rfl
  | remove => simp [hchange, ImportChange.apply] at hsame
  | replace new package stylesheet =>
    rw [hchange, ImportChange.apply, List.map_singleton, List.singleton_inj] at hsame
    exact absurd hsame (bare_ne_of_replace hchange)

/-! ### Expressions -/

/-- A mapped import comes from another source, also after the uses of hooks were renamed. -/
theorem bare_ne_of_mapped (renames : List HookRename) {item : Node}
    (h : (mapImport item).isMapped = true) :
    bare (renameHooks renames ((mapImport item).apply item)) ≠ bare item := by
  intro hbare
  have hsources : Shape.importSource? item = some navigationSource ∧
      Shape.importSource? ((mapImport item).apply item) = some routerPackage := by
    unfold mapImport at h ⊢
    split at h
    · next isTypeOnly phase s specifiers source raw ss attributes =>
      split at h
      · cases h
      · next hsource =>
        obtain rfl : source = navigationSource := by simpa using hsource
        split at h
        · cases h
        · next hmappable =>
          refine ⟨rfl, ?_⟩
          dsimp only
          rw [if_neg hsource, if_neg hmappable]
          rfl
    · cases h
  refine absurd (importSource?_of_bare ?_ hsources.1 hbare) (by decide : routerPackage ≠ _)
  rw [importSource?_walk (rewrites_renameHooks renames), hsources.2]

/-- Without imports to map no use is renamed either. -/
theorem mapHooks_of_unmapped (h : ∀ item ∈ items, (mapImport item).isMapped = false) (s : State) :
    (mapHooks items s).items = items := by
  have hkept : ∀ item ∈ items, (mapImport item).renames = [] ∧
      (mapImport item).apply item = item := by
    intro item hitem
    have hitem := h item hitem
    cases hmap : mapImport item with
    | none => exact ⟨rfl, rfl⟩
    | kept => exact ⟨rfl, rfl⟩
    | mapped new renames =>
      rw [hmap] at hitem
      cases hitem
  have hrenames : hookRenames items = [] := by
    rw [hookRenames, List.flatMap_eq_nil_iff.mpr fun item hitem => (hkept item hitem).1]
    rfl
  rw [mapHooks_items, hrenames]
  refine map_eq_self fun item hitem => ?_
  rw [(hkept item hitem).2, renameHooks_nil]

theorem tellsChange_mapHooks (items : List Node) (s : State) :
    (mapHooks items s).TellsChange items := by
  have hflag : (mapHooks items s).isModified = false ↔
      ∀ item ∈ items, (mapImport item).isMapped = false := by
    simp [mapHooks]
  refine .intro (fun h => mapHooks_of_unmapped (hflag.mp h) s)
    fun h => hflag.mpr fun item hitem => ?_
  rw [mapHooks_items, List.map_map, List.map_inj_left] at h
  exact Bool.eq_false_iff.mpr fun hmapped => bare_ne_of_mapped _ hmapped (h item hitem)

theorem tellsChange_normalizeElements (items : List Node) (s : State) :
    (normalizeElements items s).TellsChange items := by
  have hflag : (normalizeElements items s).isModified = false ↔
      ∀ item ∈ items, isNormal item = true := by
    simp [normalizeElements]
  refine .intro (fun h => ?_) fun h => hflag.mpr fun item hitem => ?_
  · exact map_eq_self fun item hitem => normalize_of_isNormal (hflag.mp h item hitem)
  · exact isNormal_of_bare (map_bare_map_iff.mp h item hitem)

theorem tellsChange_fitShell (items : List Node) (s : State) :
    (fitShell items s).TellsChange items := by
  unfold fitShell
  dsimp only
  split
  · exact .intro (fun _ => rfl) fun _ => rfl
  · next before c after hfind =>
    obtain ⟨item, rfl, hitem⟩ := Component.exists_of_find? hfind
    obtain ⟨hback, hbare⟩ := Component.withBody_spec hitem
    refine .intro (fun h => ?_) fun h => ?_
    · obtain ⟨hparams, hplaces⟩ := Bool.or_eq_false_iff.mp h
      dsimp only
      rw [shell_of_not_isPlaced hplaces, hback hparams]
    · simp only [List.map_append, List.map_cons, List.append_cancel_left_eq, List.cons.injEq] at h
      obtain ⟨hparams, hbody⟩ := hbare _ h.1
      exact Bool.or_eq_false_iff.mpr ⟨hparams, not_isPlaced_of_bare hbody⟩

/-! ### Request handlers -/

/-- An item that exports no handlers stays exported. -/
theorem hideHandlers_of_none {item : Node} (h : exportedHandlers item = []) :
    hideHandlers item = item := by
  rw [hideHandlers, h]
  rfl

theorem tellsChange_collectHandlers (items : List Node) (s : State) (hs : s.handlers = []) :
    (collectHandlers items s).TellsChange items := by
  have hflag : (collectHandlers items s).isModified = false ↔
      ∀ item ∈ items, exportedHandlers item = [] := by
    simp [collectHandlers, hs]
  refine .intro
    (fun h => map_eq_self fun item hitem => hideHandlers_of_none (hflag.mp h item hitem))
    fun h => hflag.mpr fun item hitem => ?_
  have hsame := map_bare_map_iff.mp h item hitem
  by_contra hne
  rw [hideHandlers, if_neg (by simpa using hne)] at hsame
  unfold exportedHandlers at hne
  split at hne
  · next d =>
    obtain ⟨f, ds, ps⟩ := d
    obtain rfl : f = .exportDecl := form_eq_of_bare hsame
    exact hne rfl
  · exact hne rfl

/-! ### Registration -/

theorem sketchOf_bare (n : Node) : sketchOf (bare n) = sketchOf n :=
  sketchOf_walk (keeps_bare keptOf) n

/-- An item that looks like a registration exports no metadata. -/
theorem metadata?_of_bare_registration {r : Registration} {item : Node}
    (h : bare r.item = bare item) : Shape.metadata? item = none := by
  have hmetadata := metadata?_sketchOf item
  rw [← sketchOf_bare, ← h, sketchOf_bare, metadata?_sketchOf] at hmetadata
  exact Option.map_eq_none_iff.mp hmetadata.symm

/-- The registration is one item more, unless the metadata went; and then it is not what went. -/
theorem tellsChange_registerRoute (items : List Node) (s : State) :
    (registerRoute items s).TellsChange items := by
  refine .of_modified rfl fun h => ?_
  obtain ⟨r, index, taken, htaken, -, hperm⟩ := exists_perm_registerRoute items s
  have hlength : taken.length + 1 = items.length := by
    rw [← length_eq_of_bare h, hperm.length_eq, List.length_cons]
  cases htaken with
  | leading => omega
  | @metadata before after properties item i hkind hitems hbefore hitem =>
    have hdropped : dropDeclarator i item = [] := by
      subst hitems
      simp only [List.length_append, List.length_cons] at hlength
      exact List.eq_nil_of_length_eq_zero (by omega)
    have hbare : (bare r.item :: (before ++ after).map bare).Perm
        (bare item :: (before ++ after).map bare) := by
      have hsame := hperm.map bare
      rw [h, hdropped, List.nil_append, hitems, List.map_cons] at hsame
      refine hsame.symm.trans ?_
      simp
    have hr : bare r.item = bare item := by
      have hcons := Multiset.coe_eq_coe.mpr hbare
      rwa [← Multiset.cons_coe, ← Multiset.cons_coe, Multiset.cons_inj_left] at hcons
    rw [metadata?_of_bare_registration hr] at hitem
    cases hitem

/-! ### Fonts -/

theorem declaredNames_sketchOf (items : List Node) :
    declaredNames (items.map sketchOf) = declaredNames items := by
  have hlists : (items.map sketchOf).filterMap Shape.declarators? =
      (items.filterMap Shape.declarators?).map (List.map sketchOf) := by
    rw [List.filterMap_map, List.map_filterMap]
    exact congrArg (List.filterMap · items) (funext declarators?_sketchOf)
  rw [declaredNames, hlists, ← List.map_flatten, List.filterMap_map]
  exact congrArg (List.filterMap · _) (funext boundName?_sketchOf)

theorem tellsChange_eliminateFonts (items : List Node) (s : State) :
    (eliminateFonts items s).TellsChange items := by
  have hflag : (eliminateFonts items s).isModified = !(removedFonts items).isEmpty := rfl
  refine .intro (fun h => ?_) fun h => ?_
  · exact eliminateFonts_of_isEmpty s (by simpa [hflag] using h)
  · have hsketch : (eliminateFonts items s).items.map sketchOf = items.map sketchOf := by
      have hwalk := congrArg (List.map sketchOf) h
      simpa only [List.map_map, Function.comp_def, sketchOf_bare] using hwalk
    rw [hflag, Bool.not_eq_false', NameSet.isEmpty_iff_not_contains]
    intro x hx
    obtain ⟨⟨font, hfont, rfl⟩, hgone⟩ := (contains_removedFonts_iff items s x).mp hx
    rw [← declaredNames_sketchOf, hsketch, declaredNames_sketchOf] at hgone
    exact hgone (mem_declaredNames_of_font hfont)

end Migration

/-- **The steps tell whether they changed the module.**  A step says that it did not exactly when
the items after it are those before it, up to ranges.  The step that collects handlers goes by all
handlers that are known, so there are to be none before it. -/
theorem Pass.isModified_eq_false_iff (pass : Pass) (items : List Node) (s : State)
    (hs : pass = .collectHandlers → s.handlers = []) :
    (pass.run items s).isModified = false ↔ (pass.run items s).items.map bare = items.map bare := by
  cases pass with
  | stripUseClient => exact Migration.tellsChange_stripUseClient items s
  | importRouter => exact Migration.tellsChange_importRouter items s
  | bindComponent => exact Migration.tellsChange_bindComponent items s
  | redirectImports => exact Migration.tellsChange_redirectImports items s
  | mapHooks => exact Migration.tellsChange_mapHooks items s
  | normalizeElements => exact Migration.tellsChange_normalizeElements items s
  | fitShell => exact Migration.tellsChange_fitShell items s
  | collectHandlers => exact Migration.tellsChange_collectHandlers items s (hs rfl)
  | registerRoute => exact Migration.tellsChange_registerRoute items s
  | eliminateFonts => exact Migration.tellsChange_eliminateFonts items s

/-- The items of `export function GET() {}`. -/
def exportedGet : List Node :=
  [.exportDecl none (.functionDecl none false (.ident none "GET")
    (.function none false false .absent [] .absent (.mk .block none [])))]

/-- Collecting the handler changes the module, and the step says so. -/
theorem Pass.collectHandlers_modifies_exportedGet :
    let s : State := { options := { kind := .api } }
    s.handlers = [] ∧ (Pass.collectHandlers.run exportedGet s).isModified = true ∧
      (Pass.collectHandlers.run exportedGet s).items.map bare ≠ exportedGet.map bare := by
  intro s
  have h := Pass.isModified_eq_false_iff .collectHandlers exportedGet s fun _ => rfl
  have hflag : (Pass.collectHandlers.run exportedGet s).isModified = true := by decide
  exact ⟨rfl, hflag, fun hbare => absurd (hflag.symm.trans (h.mpr hbare)) (by simp)⟩

end RouteMigration
