import RouteMigration.Proofs.Handlers
import RouteMigration.Proofs.Path
import RouteMigration.Proofs.Unchanged

/-!
# Where a migrated module imports from

One step redirects imports and drops those that have no counterpart.  The other steps import from
the router or from where the module did before, so what was dropped does not come back.

## Main Definitions

* `importSources` — the sources of the import declarations of a module
* `namedSources` — the sources that the rules name

## Main Statements

* `isLegacySource_of_redirected` — no import without a counterpart is left by its step
* `mem_importSources_next` — the other steps bring in no source but the router
* `isLegacySource_of_mem_migrate` — no import without a counterpart is left in the end
-/

namespace RouteMigration.Migration

variable {items : List Node} {source : String}

/-- The sources of the import declarations of a module. -/
def importSources (items : List Node) : List String := items.filterMap Shape.importSource?

theorem mem_importSources :
    source ∈ importSources items ↔ ∃ item ∈ items, Shape.importSource? item = some source :=
  List.mem_filterMap

/-! ### Sources that the rules name -/

/-- The sources that the rules name, other than those of fonts and those without a counterpart. -/
def namedSources : List String := [linkSource, navigationSource, routerPackage, imagePackage]

theorem isStylesheetSource_eq (source : String) :
    isStylesheetSource source = ".css".toList.isSuffixOf source.toList := by
  rw [Bool.eq_iff_iff, isStylesheetSource, Text.endsWith_iff, List.isSuffixOf_iff_suffix]

theorem isFontSource_eq (source : String) :
    isFontSource source = "next/font".toList.isPrefixOf source.toList := by
  rw [Bool.eq_iff_iff, isFontSource, String.startsWith_string_iff, List.isPrefixOf_iff_prefix]

/-- None of them is a stylesheet. -/
theorem isStylesheetSource_of_named (h : source ∈ namedSources) :
    isStylesheetSource source = false := by
  have hall : ∀ named ∈ namedSources, ".css".toList.isSuffixOf named.toList = false := by decide
  rw [isStylesheetSource_eq]
  exact hall source h

/-- None of them has fonts. -/
theorem isFontSource_of_named (h : source ∈ namedSources) : isFontSource source = false := by
  have hall : ∀ named ∈ namedSources, "next/font".toList.isPrefixOf named.toList = false := by
    decide
  rw [isFontSource_eq]
  exact hall source h

/-! ### The step that redirects imports -/

/-- A stylesheet that is imported as a URL is told from other sources by its end. -/
theorem url_ne {other : String} (h : other.toList.getLast? ≠ some 'l') (source : String) :
    source ++ "?url" ≠ other := by
  rintro rfl
  exact h (by simp)

/-- **What an import is replaced by.**  A package is asked for only where images are redirected. -/
theorem replace_cases {o : Options} {specifiers : List Node} {new : Node}
    {package stylesheet : Option String}
    (h : ImportChange.of o specifiers source = .replace new package stylesheet) :
    (package = some imagePackage ∧ Shape.importSource? new = some imagePackage) ∨
      (package = none ∧ Shape.importSource? new = some routerPackage) ∨
      (isLegacySource source = false ∧ isStylesheetSource source = true ∧ package = none ∧
        (Shape.importSource? new = some source ∨
          Shape.importSource? new = some (source ++ "?url"))) := by
  unfold ImportChange.of at h
  split at h
  · split at h
    · cases h
      exact Or.inl ⟨rfl, rfl⟩
    · cases h
  · unfold ImportChange.ofOther at h
    split at h
    · cases h
    · next hlegacy =>
      split at h
      · cases h
        exact Or.inr (Or.inl ⟨rfl, rfl⟩)
      · split at h
        · next hstylesheet =>
          simp only [Bool.and_eq_true] at hstylesheet
          refine Or.inr (Or.inr ⟨by simpa using hlegacy, hstylesheet.1.1, ?_⟩)
          unfold ImportChange.ofStylesheet at h
          dsimp only at h
          split at h
          · cases h
            split
            · exact ⟨rfl, Or.inr rfl⟩
            · exact ⟨rfl, Or.inl rfl⟩
          · cases h
            exact ⟨rfl, Or.inl rfl⟩
        · cases h

/-- The source of an import that takes the place of another. -/
theorem source_of_replace {o : Options} {specifiers : List Node} {new : Node}
    {package stylesheet : Option String}
    (h : ImportChange.of o specifiers source = .replace new package stylesheet)
    {source' : String} (hnew : Shape.importSource? new = some source') :
    source' = imagePackage ∨ source' = routerPackage ∨
      (isLegacySource source = false ∧ isStylesheetSource source = true ∧
        (source' = source ∨ source' = source ++ "?url")) := by
  rcases replace_cases h with ⟨-, himage⟩ | ⟨-, hrouter⟩ | ⟨hlegacy, hstylesheet, -, hurl⟩
  · exact Or.inl (Option.some.inj (hnew.symm.trans himage))
  · exact Or.inr (Or.inl (Option.some.inj (hnew.symm.trans hrouter)))
  · rw [hnew, Option.some.injEq, Option.some.injEq] at hurl
    exact Or.inr (Or.inr ⟨hlegacy, hstylesheet, hurl⟩)

/-- Only an import is replaced. -/
theorem ofItem_eq_replace {o : Options} {item new : Node} {package stylesheet : Option String}
    (h : ImportChange.ofItem o item = .replace new package stylesheet) :
    ∃ source specifiers, Shape.importSource? item = some source ∧
      ImportChange.of o specifiers source = .replace new package stylesheet := by
  unfold ImportChange.ofItem at h
  split at h
  · exact ⟨_, _, rfl, h⟩
  · cases h

/-- What takes the place of an item: the item itself, or what it is replaced by. -/
theorem mem_apply_iff {change : ImportChange} {item new : Node} :
    new ∈ change.apply item ↔
      (change = .keep ∧ new = item) ∨
        ∃ package stylesheet, change = .replace new package stylesheet := by
  cases change with
  | keep => simp [ImportChange.apply]
  | remove => simp [ImportChange.apply]
  | replace new' package stylesheet => simp [ImportChange.apply, eq_comm]

theorem isLegacySource_of_replace {o : Options} {specifiers : List Node} {new : Node}
    {package stylesheet : Option String}
    (h : ImportChange.of o specifiers source = .replace new package stylesheet)
    {source' : String} (hnew : Shape.importSource? new = some source') :
    isLegacySource source' = false := by
  rcases source_of_replace h hnew with rfl | rfl | ⟨hlegacy, -, rfl | rfl⟩
  · decide
  · decide
  · exact hlegacy
  · have hends : ∀ legacy ∈ legacySources, legacy.toList.getLast? ≠ some 'l' := by
      decide
    rw [isLegacySource, Bool.eq_false_iff, ne_eq, List.contains_iff_mem]
    intro hmem
    exact url_ne (hends _ hmem) source rfl

theorem isLegacySource_of_keep {o : Options} {specifiers : List Node}
    (h : ImportChange.of o specifiers source = .keep) : isLegacySource source = false := by
  unfold ImportChange.of at h
  split at h
  · split at h
    · cases h
    · cases h
  · unfold ImportChange.ofOther at h
    split at h
    · cases h
    · next hlegacy => simpa using hlegacy

/-- An import that no rule is about is kept. -/
theorem of_eq_keep {specifiers : List Node} (hlegacy : isLegacySource source = false)
    (hlink : source ≠ linkSource) (hstylesheet : isStylesheetSource source = false) (o : Options) :
    ImportChange.of o specifiers source = .keep := by
  have himage : source ≠ imageSource := by
    rintro rfl
    exact absurd hlegacy (by decide)
  simp [ImportChange.of, ImportChange.ofOther, himage, hlegacy, hlink, hstylesheet]

/-- **The step drops what has no counterpart.** -/
theorem isLegacySource_of_redirected {s : State}
    (h : source ∈ importSources (redirectImports items s).items) :
    isLegacySource source = false := by
  obtain ⟨new, hnew, hsource⟩ := mem_importSources.mp h
  obtain ⟨item, -, hnew⟩ := List.mem_flatMap.mp hnew
  unfold ImportChange.ofItem at hnew
  split at hnew
  · next isTypeOnly phase is specifiers source' raw ss attributes =>
    cases hof : ImportChange.of s.options specifiers source' with
    | keep =>
      rw [hof] at hnew
      obtain rfl := List.mem_singleton.mp hnew
      cases hsource
      exact isLegacySource_of_keep hof
    | remove =>
      rw [hof] at hnew
      cases hnew
    | replace new' package stylesheet =>
      rw [hof] at hnew
      obtain rfl := List.mem_singleton.mp hnew
      exact isLegacySource_of_replace hof hsource
  · next hne =>
    obtain rfl := List.mem_singleton.mp hnew
    obtain ⟨s', t, p, specifiers, ss, raw, a, rfl⟩ := importSource?_eq_some.mp hsource
    exact absurd rfl (hne _ _ _ _ _ _ _ _)

/-! ### The other steps -/

/-- The source of an item is the router, or one that the module had. -/
def FromRouterOr (items : List Node) (item : Node) : Prop :=
  ∀ source, Shape.importSource? item = some source →
    source ∈ importSources items ∨ source = routerPackage

theorem FromRouterOr.of_mem {item : Node} (h : item ∈ items) : FromRouterOr items item :=
  fun _ hsource => Or.inl (mem_importSources.mpr ⟨item, h, hsource⟩)

theorem FromRouterOr.of_eq {item item' : Node} (h : item ∈ items)
    (heq : Shape.importSource? item' = Shape.importSource? item) : FromRouterOr items item' :=
  fun _ hsource => Or.inl (mem_importSources.mpr ⟨item, h, heq ▸ hsource⟩)

theorem FromRouterOr.of_none {item : Node} (h : Shape.importSource? item = none) :
    FromRouterOr items item := by
  intro source hsource
  rw [h] at hsource
  cases hsource

theorem fromRouterOr_stripUseClient (s : State) {item : Node}
    (h : item ∈ (stripUseClient items s).items) : FromRouterOr items item := by
  refine .of_mem ?_
  rcases List.mem_append.mp h with h | h
  · exact List.mem_of_mem_take (List.mem_of_mem_filter h)
  · exact List.mem_of_mem_drop h

theorem fromRouterOr_importRouter (s : State) {item : Node}
    (h : item ∈ (importRouter items s).items) : FromRouterOr items item := by
  rcases List.mem_append.mp h with h | h
  · exact .of_mem (List.mem_of_mem_take h)
  · rcases List.mem_cons.mp h with rfl | h
    · exact fun source hsource => Or.inr (Option.some.inj hsource).symm
    · exact .of_mem (List.mem_of_mem_drop h)

theorem importSource?_of_not_isPreamble {item : Node} (h : isPreamble item = false) :
    Shape.importSource? item = none := by
  have himport := (Bool.or_eq_false_iff.mp h).2
  simpa [Shape.isImport] using himport

theorem fromRouterOr_bindComponent (s : State) {item : Node}
    (h : item ∈ (bindComponent items s).items) : FromRouterOr items item := by
  have hcases := bindComponent_cases items s
  generalize (bindComponent items s).items = items', (bindComponent items s).state = s' at h hcases
  cases hcases with
  | none => exact .of_mem h
  | reference => exact .of_mem h
  | @bound before after found shape bound hitems hbefore hfound hshape hbound =>
    rw [hitems]
    rcases List.mem_append.mp h with h | h
    · exact .of_mem (List.mem_append_left _ h)
    · rcases List.mem_cons.mp h with rfl | h
      · exact .of_none (importSource?_of_not_isPreamble (isPreamble_of_bindExport? hbound))
      · exact .of_mem (List.mem_append_right _ (List.mem_cons_of_mem _ h))

theorem fromRouterOr_mapImport {item : Node} (h : item ∈ items) :
    FromRouterOr items ((mapImport item).apply item) := by
  unfold mapImport
  split
  · split
    · exact .of_mem h
    · split
      · exact .of_mem h
      · exact fun source hsource => Or.inr (Option.some.inj hsource).symm
  · exact .of_mem h

theorem fromRouterOr_mapHooks (s : State) {item : Node} (h : item ∈ (mapHooks items s).items) :
    FromRouterOr items item := by
  rw [mapHooks_items] at h
  obtain ⟨found, hfound, rfl⟩ := List.mem_map.mp h
  intro source hsource
  rw [importSource?_walk (rewrites_renameHooks _)] at hsource
  exact fromRouterOr_mapImport hfound source hsource

theorem fromRouterOr_normalizeElements (s : State) {item : Node}
    (h : item ∈ (normalizeElements items s).items) : FromRouterOr items item := by
  obtain ⟨found, hfound, rfl⟩ := List.mem_map.mp h
  exact .of_eq hfound (importSource?_walk rewrites_normalize found)

theorem isPreamble_of_form {n : Node} (hstmt : n.form ≠ .exprStmt)
    (himport : ∀ isTypeOnly phase, n.form ≠ .importDecl isTypeOnly phase) :
    isPreamble n = false := by
  unfold isPreamble Shape.directive? Shape.isImport Shape.importSource?
  split
  · exact absurd rfl hstmt
  · split
    · exact absurd rfl (himport _ _)
    · rfl

/-- What declares a component is neither a directive nor an import, whatever its body is. -/
theorem Component.isPreamble_of_ofItem? {item : Node} {name : String} {c : Component}
    (h : Component.ofItem? name item = some c) (newBody : Node) :
    isPreamble item = false ∧ isPreamble (c.withBody newBody) = false := by
  have hitem : item.form ≠ .exprStmt ∧
      ∀ isTypeOnly phase, item.form ≠ .importDecl isTypeOnly phase := by
    unfold Component.ofItem? at h
    split at h
    · exact ⟨by simp [Node.form], by simp [Node.form]⟩
    · unfold Component.ofDeclaration? at h
      split at h
      · exact ⟨by simp [Node.form], by simp [Node.form]⟩
      · exact ⟨by simp [Node.form], by simp [Node.form]⟩
      · cases h
  have hform := (Component.form_of_ofItem? h newBody).1
  rw [← hform] at hitem
  refine ⟨isPreamble_of_form ?_ ?_, isPreamble_of_form hitem.1 hitem.2⟩
  · exact hform ▸ hitem.1
  · exact hform ▸ hitem.2

theorem fromRouterOr_fitShell (s : State) {item : Node} (h : item ∈ (fitShell items s).items) :
    FromRouterOr items item := by
  rcases fitShell_cases items s with hsame | ⟨before, found, after, c, newBody, rfl, hfound, heq⟩
  · rw [hsame] at h
    exact .of_mem h
  · rw [heq] at h
    rcases List.mem_append.mp h with h | h
    · exact .of_mem (List.mem_append_left _ h)
    · rcases List.mem_cons.mp h with rfl | h
      · have hpreamble := (Component.isPreamble_of_ofItem? hfound newBody).2
        exact .of_none (importSource?_of_not_isPreamble hpreamble)
      · exact .of_mem (List.mem_append_right _ (List.mem_cons_of_mem _ h))

theorem isPreamble_of_handlerNames {d : Node} (h : handlerNames d ≠ []) : isPreamble d = false := by
  unfold handlerNames at h
  split at h
  · rfl
  · split at h
    · next ds hds =>
      obtain ⟨s, kind, isDeclare, rfl, -⟩ := declarators?_eq_some.mp hds
      rfl
    · exact absurd rfl h

/-- An item that is hidden is a declaration. -/
theorem hideHandlers_cases (item : Node) :
    hideHandlers item = item ∨ isPreamble (hideHandlers item) = false := by
  unfold hideHandlers
  split
  · exact Or.inl rfl
  · next hne =>
    unfold exportedHandlers at hne
    split at hne
    · next d =>
      rw [List.isEmpty_iff] at hne
      exact Or.inr (isPreamble_of_handlerNames hne)
    · exact absurd rfl hne

theorem fromRouterOr_collectHandlers (s : State) {item : Node}
    (h : item ∈ (collectHandlers items s).items) : FromRouterOr items item := by
  obtain ⟨found, hfound, rfl⟩ := List.mem_map.mp h
  rcases hideHandlers_cases found with hsame | hnone
  · rw [hsame]
    exact .of_mem hfound
  · exact .of_none (importSource?_of_not_isPreamble hnone)

theorem form_of_mem_dropDeclarator {i : Nat} {item item' : Node}
    (h : item' ∈ dropDeclarator i item) :
    item'.form = .exportDecl := by
  unfold dropDeclarator at h
  split at h
  · split at h
    · cases h
    · obtain rfl := List.mem_singleton.mp h
      rfl
  · cases h

theorem fromRouterOr_registerRoute (s : State) {item : Node}
    (h : item ∈ (registerRoute items s).items) : FromRouterOr items item := by
  obtain ⟨r, index, taken, htaken, -, hperm⟩ := exists_perm_registerRoute items s
  rcases List.mem_cons.mp (hperm.mem_iff.mp h) with rfl | h
  · exact .of_none rfl
  · rcases htaken.of_mem h with h | ⟨i, found, -, h⟩
    · exact .of_mem h
    · have hform := form_of_mem_dropDeclarator h
      have hpreamble : isPreamble item = false :=
        isPreamble_of_form (by simp [hform]) (by simp [hform])
      exact .of_none (importSource?_of_not_isPreamble hpreamble)

/-- Removing specifiers keeps the source of an import. -/
theorem importSource?_of_mem_dropSpecifiers {names : NameSet} {item item' : Node}
    (h : item' ∈ dropSpecifiers names item) :
    Shape.importSource? item' = Shape.importSource? item := by
  rcases dropSpecifiers_cases h with
    ⟨rfl, -⟩ | ⟨s, t, p, specifiers, ss, source, raw, a, rfl, -, rfl⟩
  · rfl
  · rfl

theorem importSource?_of_mem_fontless {removed dropped : NameSet} {item item' : Node}
    (h : item' ∈ fontless removed dropped item) :
    Shape.importSource? item' = Shape.importSource? item := by
  have hcleaned : ∀ n ∈ (dropDeclarators removed item).map (cleanClassNames removed),
      Shape.importSource? n = Shape.importSource? item := by
    intro n hn
    obtain ⟨d, hd, rfl⟩ := List.mem_map.mp hn
    rw [importSource?_walk (rewrites_cleanClassNames removed)]
    rcases dropDeclarators_cases hd with ⟨rfl, -⟩ | ⟨s, kind, isDeclare, ds, rfl, -, rfl⟩
    · rfl
    · rfl
  unfold fontless at h
  dsimp only at h
  split at h
  · exact hcleaned item' h
  · obtain ⟨n, hn, h⟩ := List.mem_flatMap.mp h
    rw [importSource?_of_mem_dropSpecifiers h, hcleaned n hn]

theorem fromRouterOr_eliminateFonts (s : State) {item : Node}
    (h : item ∈ (eliminateFonts items s).items) : FromRouterOr items item := by
  rcases eliminateFonts_cases items s with hsame | hflat
  · rw [hsame] at h
    exact .of_mem h
  · rw [hflat] at h
    obtain ⟨found, hfound, h⟩ := List.mem_flatMap.mp h
    exact .of_eq hfound (importSource?_of_mem_fontless h)

/-- **One step.**  Every step but the one that redirects imports brings in no source but the
router. -/
theorem mem_importSources_next {pass : Pass} (hpass : pass ≠ .redirectImports) (t : Step)
    (h : source ∈ importSources (t.next pass).items) :
    source ∈ importSources t.items ∨ source = routerPackage := by
  obtain ⟨item, hitem, hsource⟩ := mem_importSources.mp h
  refine (?_ : FromRouterOr t.items item) source hsource
  cases pass with
  | stripUseClient => exact fromRouterOr_stripUseClient t.state hitem
  | importRouter => exact fromRouterOr_importRouter t.state hitem
  | bindComponent => exact fromRouterOr_bindComponent t.state hitem
  | redirectImports => exact absurd rfl hpass
  | mapHooks => exact fromRouterOr_mapHooks t.state hitem
  | normalizeElements => exact fromRouterOr_normalizeElements t.state hitem
  | fitShell => exact fromRouterOr_fitShell t.state hitem
  | collectHandlers => exact fromRouterOr_collectHandlers t.state hitem
  | registerRoute => exact fromRouterOr_registerRoute t.state hitem
  | eliminateFonts => exact fromRouterOr_eliminateFonts t.state hitem

/-- **Any number of steps.** -/
theorem mem_importSources_foldl {passes : List Pass} (hpasses : .redirectImports ∉ passes)
    (t : Step)
    (h : source ∈ importSources (passes.foldl Step.next t).items) :
    source ∈ importSources t.items ∨ source = routerPackage := by
  induction passes generalizing t with
  | nil => exact Or.inl h
  | cons pass passes ih =>
    rw [List.mem_cons, not_or] at hpasses
    obtain ⟨hpass, hpasses⟩ := hpasses
    rcases ih hpasses (t.next pass) h with hmem | hrouter
    · exact mem_importSources_next (Ne.symm hpass) t hmem
    · exact Or.inr hrouter

/-- The steps before and after imports are redirected. -/
theorem exists_pipeline_eq (o : Options) :
    ∃ before after, pipeline o = before ++ Pass.redirectImports :: after ∧
      .redirectImports ∉ after := by
  by_cases hapi : o.kind = .api
  · refine ⟨[.stripUseClient, .importRouter], [.collectHandlers, .registerRoute], ?_, by decide⟩
    simp [pipeline, hapi]
  · refine ⟨[.stripUseClient, .importRouter, .bindComponent],
      [Pass.mapHooks, .normalizeElements] ++ (if o.kind.isLayout then [Pass.fitShell] else []) ++
        [Pass.registerRoute] ++ (if o.fontAware then [Pass.eliminateFonts] else []), ?_, ?_⟩
    · simp [pipeline, hapi]
    · cases o.kind.isLayout <;> cases o.fontAware <;> decide

/-- **All the steps.**  No import without a counterpart is left. -/
theorem isLegacySource_of_mem_migrate {o : Options} {m : Module}
    (h : source ∈ importSources (migrate o m).module.items) : isLegacySource source = false := by
  obtain ⟨before, after, hpipeline, hafter⟩ := exists_pipeline_eq o
  have hitems : (migrate o m).module.items = (after.foldl Step.next ((before.foldl Step.next
      (Step.start m.items { options := o })).next .redirectImports)).items := by
    unfold migrate
    rw [hpipeline, List.foldl_append, List.foldl_cons]
  rw [hitems] at h
  rcases mem_importSources_foldl hafter _ h with hmem | rfl
  · exact isLegacySource_of_redirected hmem
  · decide

end RouteMigration.Migration
