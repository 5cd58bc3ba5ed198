import RouteMigration.Proofs.HookRenames

/-!
# Import declarations through the steps

Four steps look at import declarations: one redirects them, one maps navigation hooks, one
normalizes elements, and one removes fonts.  The others add an import from the router or work on
what is no import at all, and leave every other import as it is.

## Main Definitions

* `isForeign` — an import from elsewhere than the router
* `SameImports` — two modules have the same imports of that sort
* `foreignImports` — these imports, in order
* `Imports` — an item that imports certain names from a source
* `isLost` — an import of fonts of which nothing is left

## Main Statements

* `foreignImports_foldl` — the other steps leave imports alone
* `requests_next` — only the step that redirects imports asks for packages and stylesheets
* `localName?_walk`, `walk_importDecl` — what a walk makes of a specifier and of an import
* `mem_importSources_migrate_iff` — where a migrated module imports from
-/

namespace RouteMigration.Migration

variable {items items' : List Node}

/-- The item imports from elsewhere than the router. -/
def isForeign (item : Node) : Bool :=
  match Shape.importSource? item with
  | some source => source != routerPackage
  | none => false

theorem isForeign_iff {item : Node} :
    isForeign item = true ↔
      ∃ source, Shape.importSource? item = some source ∧ source ≠ routerPackage := by
  unfold isForeign
  cases Shape.importSource? item with
  | none => simp
  | some source => simp

theorem isForeign_of_none {item : Node} (h : Shape.importSource? item = none) :
    isForeign item = false := by
  rw [isForeign, h]

/-- The modules have the same imports from elsewhere than the router. -/
def SameImports (items items' : List Node) : Prop :=
  ∀ item, isForeign item = true → (item ∈ items' ↔ item ∈ items)

/-- The imports of a module from elsewhere than the router, in order. -/
def foreignImports (items : List Node) : List Node := items.filter isForeign

theorem foreignImports_append (items items' : List Node) :
    foreignImports (items ++ items') = foreignImports items ++ foreignImports items' :=
  List.filter_append items items'

theorem foreignImports_cons_of_not {item : Node} (h : isForeign item = false) (items : List Node) :
    foreignImports (item :: items) = foreignImports items := by
  simp [foreignImports, h]

/-- What stands in place of another item is none of these imports, and neither was that. -/
theorem foreignImports_replace {item item' : Node} (before after : List Node)
    (hitem : isForeign item = false) (hitem' : isForeign item' = false) :
    foreignImports (before ++ item' :: after) = foreignImports (before ++ item :: after) := by
  rw [foreignImports_append, foreignImports_append, foreignImports_cons_of_not hitem,
    foreignImports_cons_of_not hitem']

theorem sameImports_of_eq (h : foreignImports items' = foreignImports items) :
    SameImports items items' := by
  intro item hitem
  have hmem : ∀ items : List Node, item ∈ foreignImports items ↔ item ∈ items :=
    fun items => List.mem_filter.trans (and_iff_left hitem)
  rw [← hmem items', ← hmem items, h]

/-! ### Steps that leave imports alone -/

theorem foreignImports_stripUseClient (items : List Node) (s : State) :
    foreignImports (stripUseClient items s).items = foreignImports items := by
  have hfront : ∀ item ∈ items.take (Shape.prologue items), ¬isForeign item = true := by
    intro item hitem
    rw [isForeign_of_none (importSource?_of_directive (directive_of_mem_prologue hitem))]
    simp
  conv_rhs => rw [← List.take_append_drop (Shape.prologue items) items]
  show foreignImports ((items.take (Shape.prologue items)).filter (!Shape.isUseClient ·) ++
    items.drop (Shape.prologue items)) = _
  rw [foreignImports_append, foreignImports_append]
  congr 1
  rw [foreignImports, foreignImports, List.filter_eq_nil_iff.mpr hfront]
  exact List.filter_eq_nil_iff.mpr fun item hitem => hfront item (List.mem_of_mem_filter hitem)

theorem foreignImports_importRouter (items : List Node) (s : State) :
    foreignImports (importRouter items s).items = foreignImports items := by
  have hrouter : isForeign (routerImport s.options.factory) = false := rfl
  show foreignImports (items.take _ ++ routerImport s.options.factory :: items.drop _) = _
  rw [foreignImports_append, foreignImports_cons_of_not hrouter, ← foreignImports_append,
    List.take_append_drop]

theorem foreignImports_bindComponent (items : List Node) (s : State) :
    foreignImports (bindComponent items s).items = foreignImports items := by
  have hcases := bindComponent_cases items s
  generalize (bindComponent items s).items = items', (bindComponent items s).state = s' at hcases ⊢
  cases hcases with
  | none => rfl
  | reference => rfl
  | @bound before after found shape bound hitems hbefore hfound hshape hbound =>
    rw [hitems]
    refine foreignImports_replace before after (isForeign_of_none ?_) (isForeign_of_none ?_)
    · exact importSource?_of_not_isPreamble (isPreamble_of_defaultExport hfound)
    · exact importSource?_of_not_isPreamble (isPreamble_of_bindExport? hbound)

theorem foreignImports_fitShell (items : List Node) (s : State) :
    foreignImports (fitShell items s).items = foreignImports items := by
  rcases fitShell_cases items s with hsame | ⟨before, found, after, c, newBody, rfl, hfound, heq⟩
  · rw [hsame]
  · rw [heq]
    obtain ⟨hold, hnew⟩ := Component.isPreamble_of_ofItem? hfound newBody
    exact foreignImports_replace before after
      (isForeign_of_none (importSource?_of_not_isPreamble hold))
      (isForeign_of_none (importSource?_of_not_isPreamble hnew))

/-- Only declarations are hidden. -/
theorem hideHandlers_of_isForeign {item : Node} (h : isForeign item = true) :
    hideHandlers item = item := by
  obtain ⟨source, hsource, -⟩ := isForeign_iff.mp h
  obtain ⟨s, t, p, specifiers, ss, raw, a, rfl⟩ := importSource?_eq_some.mp hsource
  rfl

theorem isForeign_hideHandlers (item : Node) : isForeign (hideHandlers item) = isForeign item := by
  cases hitem : isForeign item with
  | true => rw [hideHandlers_of_isForeign hitem, hitem]
  | false =>
    rcases hideHandlers_cases item with hsame | hnone
    · rw [hsame, hitem]
    · exact isForeign_of_none (importSource?_of_not_isPreamble hnone)

theorem foreignImports_collectHandlers (items : List Node) (s : State) :
    foreignImports (collectHandlers items s).items = foreignImports items := by
  have hsame : isForeign ∘ hideHandlers = isForeign := funext isForeign_hideHandlers
  show (items.map hideHandlers).filter isForeign = items.filter isForeign
  rw [List.filter_map, hsame]
  refine (List.map_congr_left fun item hitem => ?_).trans (List.map_id _)
  exact hideHandlers_of_isForeign (List.mem_filter.mp hitem).2

theorem isInert_of_isForeign {item : Node} (h : isForeign item = true) : isInert item = true := by
  obtain ⟨source, hsource, -⟩ := isForeign_iff.mp h
  exact isInert_of_isImport (by rw [Shape.isImport, hsource]; rfl)

/-- What binds something is no import. -/
theorem isForeign_of_soleValue? {item value : Node} {name : String}
    (h : soleValue? name item = some value) : isForeign item = false := by
  rw [Bool.eq_false_iff]
  intro hforeign
  rw [soleValue?_of_inert (isInert_of_isForeign hforeign)] at h
  cases h

theorem Placed.foreignImports_eq {name : String} {new : Node} {front rest result : List Node}
    (h : Placed name new front rest result) (hnew : isForeign new = false) :
    foreignImports result = foreignImports (front ++ rest) := by
  cases h with
  | here => rw [foreignImports_append, foreignImports_cons_of_not hnew, ← foreignImports_append]
  | movedUp hpre hitem hlazy =>
    have hmoved := isForeign_of_soleValue? hitem
    simp only [foreignImports_append, foreignImports_cons_of_not hnew,
      foreignImports_cons_of_not hmoved]
  | movedDown hpre hitem hlazy =>
    have hcomponent := isForeign_of_soleValue? hitem
    simp only [foreignImports_append, foreignImports_cons_of_not hnew,
      foreignImports_cons_of_not hcomponent, List.append_assoc]

/-- Metadata is no import, and neither is what is left of its statement. -/
theorem Taken.foreignImports_eq {kind : ModuleKind} {index : Nat} {taken : List Node}
    (h : Taken kind items index taken) : foreignImports taken = foreignImports items := by
  cases h with
  | leading => rfl
  | @metadata before after properties found i hkind hitems hbefore hfound =>
    have hforeign : isForeign found = false := by
      rw [Bool.eq_false_iff]
      intro hforeign
      rw [metadata?_of_inert (isInert_of_isForeign hforeign)] at hfound
      cases hfound
    have hleft : foreignImports (dropDeclarator i found) = [] := by
      refine List.filter_eq_nil_iff.mpr fun item hmem => ?_
      have hform := form_of_mem_dropDeclarator hmem
      rw [isForeign_of_none (importSource?_of_not_isPreamble
        (isPreamble_of_form (by simp [hform]) (by simp [hform])))]
      simp
    rw [hitems]
    simp only [foreignImports_append, foreignImports_cons_of_not hforeign, hleft, List.nil_append]

theorem foreignImports_registerRoute (items : List Node) (s : State) :
    foreignImports (registerRoute items s).items = foreignImports items := by
  obtain ⟨r, index, taken, htaken, -, hitems⟩ := registerRoute_cases items s
  have hnew : isForeign r.item = false := rfl
  have hsplit := List.take_append_drop index taken
  rw [← htaken.foreignImports_eq]
  split at hitems
  · rw [hitems, foreignImports_append, foreignImports_cons_of_not hnew, ← foreignImports_append,
      hsplit]
  · rw [hitems.foreignImports_eq hnew, hsplit]

/-- The step leaves imports from elsewhere than the router alone. -/
def leavesImports : Pass → Bool
  | .redirectImports | .mapHooks | .normalizeElements | .eliminateFonts => false
  | _ => true

/-- **One step.** -/
theorem foreignImports_next {pass : Pass} (hpass : leavesImports pass = true) (t : Step) :
    foreignImports (t.next pass).items = foreignImports t.items := by
  cases pass with
  | stripUseClient => exact foreignImports_stripUseClient t.items t.state
  | importRouter => exact foreignImports_importRouter t.items t.state
  | bindComponent => exact foreignImports_bindComponent t.items t.state
  | redirectImports => cases hpass
  | mapHooks => cases hpass
  | normalizeElements => cases hpass
  | fitShell => exact foreignImports_fitShell t.items t.state
  | collectHandlers => exact foreignImports_collectHandlers t.items t.state
  | registerRoute => exact foreignImports_registerRoute t.items t.state
  | eliminateFonts => cases hpass

/-- **Any number of steps.** -/
theorem foreignImports_foldl {passes : List Pass}
    (hpasses : ∀ pass ∈ passes, leavesImports pass = true) (t : Step) :
    foreignImports (passes.foldl Step.next t).items = foreignImports t.items := by
  induction passes generalizing t with
  | nil => rfl
  | cons pass passes ih =>
    obtain ⟨hpass, hpasses⟩ := List.forall_mem_cons.mp hpasses
    exact (ih hpasses (t.next pass)).trans (foreignImports_next hpass t)

theorem sameImports_next {pass : Pass} (hpass : leavesImports pass = true) (t : Step) :
    SameImports t.items (t.next pass).items :=
  sameImports_of_eq (foreignImports_next hpass t)

theorem sameImports_foldl {passes : List Pass}
    (hpasses : ∀ pass ∈ passes, leavesImports pass = true) (t : Step) :
    SameImports t.items (passes.foldl Step.next t).items :=
  sameImports_of_eq (foreignImports_foldl hpasses t)

/-! ### What the steps find out -/

/-- What a step has been asked for so far: packages, and stylesheets that the head links. -/
def requests (s : State) : NameSet × List String := (s.packages, s.stylesheets)

theorem requests_bindComponent (items : List Node) (s : State) :
    requests (bindComponent items s).state = requests s := by
  have hcases := bindComponent_cases items s
  generalize (bindComponent items s).items = items', (bindComponent items s).state = s' at hcases ⊢
  cases hcases <;> rfl

/-- Only the step that redirects imports asks for anything. -/
theorem requests_next {pass : Pass} (hpass : pass ≠ .redirectImports) (t : Step) :
    requests (t.next pass).state = requests t.state := by
  cases pass with
  | bindComponent => exact requests_bindComponent t.items t.state
  | fitShell => exact congrArg requests (state_fitShell t.items t.state)
  | redirectImports => exact absurd rfl hpass
  | _ => rfl

theorem requests_foldl {passes : List Pass} (hpasses : .redirectImports ∉ passes) (t : Step) :
    requests (passes.foldl Step.next t).state = requests t.state := by
  induction passes generalizing t with
  | nil => rfl
  | cons pass passes ih =>
    rw [List.mem_cons, not_or] at hpasses
    exact (ih hpasses.2 (t.next pass)).trans (requests_next (Ne.symm hpasses.1) t)

/-! ### Imported names -/

/-- The local names of the specifiers of an import. -/
def localNames : Node → List (Option String)
  | .importDecl _ _ _ specifiers _ _ => specifiers.map localName?
  | _ => []

theorem localName?_eq_some {sp : Node} {x : String} :
    localName? sp = some x ↔ ∃ s ns ps,
      (∃ isTypeOnly imported,
        sp = .mk (.importNamed isTypeOnly) s [imported, .mk (.ident x) ns ps]) ∨
        sp = .mk .importDefault s [.mk (.ident x) ns ps] ∨
        sp = .mk .importNamespace s [.mk (.ident x) ns ps] := by
  constructor
  · intro h
    unfold localName? at h
    split at h
    · cases h
      exact ⟨_, _, _, Or.inl ⟨_, _, rfl⟩⟩
    · cases h
      exact ⟨_, _, _, Or.inr (Or.inl rfl)⟩
    · cases h
      exact ⟨_, _, _, Or.inr (Or.inr rfl)⟩
    · cases h
  · rintro ⟨s, ns, ps, ⟨isTypeOnly, imported, rfl⟩ | rfl | rfl⟩
    · rfl
    · rfl
    · rfl

/-- What holds one name after a walk held it before. -/
theorem exists_of_walk_eq_single {walk : Node → Node} (hwalk : Rebuilds isRewritten walk)
    {n : Node} {f : Form} {s ns : Option Span} {x : String} {ps : List Node}
    (hf : isRewritten f = false) (h : walk n = .mk f s [.mk (.ident x) ns ps]) :
    ∃ ps', n = .mk f s [.mk (.ident x) ns ps'] := by
  obtain ⟨p, rfl, hp⟩ := hwalk.of_eq_single hf h
  obtain ⟨ps', rfl, -⟩ := hwalk.of_eq rfl hp
  exact ⟨ps', rfl⟩

/-- A specifier keeps its local name. -/
theorem localName?_walk {walk : Node → Node} (hwalk : Rebuilds isRewritten walk) (sp : Node) :
    localName? (walk sp) = localName? sp := by
  refine Option.ext fun x => ?_
  rw [localName?_eq_some, localName?_eq_some]
  constructor
  · rintro ⟨s, ns, ps, ⟨isTypeOnly, imported, heq⟩ | heq | heq⟩
    · obtain ⟨i, n, rfl, -, hn⟩ := hwalk.of_eq_pair rfl heq
      obtain ⟨ps', rfl, -⟩ := hwalk.of_eq rfl hn
      exact ⟨s, ns, ps', Or.inl ⟨isTypeOnly, i, rfl⟩⟩
    · obtain ⟨ps', rfl⟩ := exists_of_walk_eq_single hwalk rfl heq
      exact ⟨s, ns, ps', Or.inr (Or.inl rfl)⟩
    · obtain ⟨ps', rfl⟩ := exists_of_walk_eq_single hwalk rfl heq
      exact ⟨s, ns, ps', Or.inr (Or.inr rfl)⟩
  · rintro ⟨s, ns, ps, ⟨isTypeOnly, imported, rfl⟩ | rfl | rfl⟩
    · refine ⟨s, ns, ps.map walk, Or.inl ⟨isTypeOnly, walk imported, ?_⟩⟩
      rw [hwalk.plain s _ rfl, List.map_cons, List.map_singleton, hwalk.plain ns ps rfl]
    · refine ⟨s, ns, ps.map walk, Or.inr (Or.inl ?_)⟩
      rw [hwalk.plain s _ rfl, List.map_singleton, hwalk.plain ns ps rfl]
    · refine ⟨s, ns, ps.map walk, Or.inr (Or.inr ?_)⟩
      rw [hwalk.plain s _ rfl, List.map_singleton, hwalk.plain ns ps rfl]

/-- An import declaration after a walk: its attributes may change, and its specifiers are walked
over. -/
theorem walk_importDecl {walk : Node → Node} (hwalk : Rebuilds isRewritten walk)
    (s : Option Span) (isTypeOnly : Bool) (phase : ImportPhase) (specifiers : List Node)
    (ss : Option Span) (source : String) (raw : Option String) (attributes : Node) :
    walk (.importDecl s isTypeOnly phase specifiers (.str ss source raw) attributes) =
      .importDecl s isTypeOnly phase (specifiers.map walk) (.str ss source raw)
        (walk attributes) := by
  rw [hwalk.plain s _ rfl]
  simp only [List.map_cons, List.map_nil]
  rw [hwalk.plain none specifiers rfl, hwalk.plain ss [] rfl, List.map_nil]

/-- The item imports these names from the source. -/
def Imports (source : String) (names : List (Option String)) (item : Node) : Prop :=
  Shape.importSource? item = some source ∧ localNames item = names

variable {source : String} {names : List (Option String)}

/-- An import declaration imports the same after a walk, and nothing else becomes one. -/
theorem imports_walk {walk : Node → Node} (hwalk : Rebuilds isRewritten walk) (item : Node) :
    Imports source names (walk item) ↔ Imports source names item := by
  have hsource := importSource?_walk hwalk item
  have hnames : Shape.importSource? item = some source →
      localNames (walk item) = localNames item := by
    intro h
    obtain ⟨s, t, p, specifiers, ss, raw, a, rfl⟩ := importSource?_eq_some.mp h
    rw [walk_importDecl hwalk]
    show (specifiers.map walk).map localName? = specifiers.map localName?
    rw [List.map_map]
    exact List.map_congr_left fun sp _ => localName?_walk hwalk sp
  unfold Imports
  rw [hsource]
  constructor
  · rintro ⟨h, rfl⟩
    exact ⟨h, (hnames h).symm⟩
  · rintro ⟨h, rfl⟩
    exact ⟨h, hnames h⟩

theorem Imports.isForeign {item : Node} (h : Imports source names item)
    (hrouter : source ≠ routerPackage) : isForeign item = true :=
  isForeign_iff.mpr ⟨source, h.1, hrouter⟩

theorem SameImports.exists_iff (h : SameImports items items') (hrouter : source ≠ routerPackage) :
    (∃ item ∈ items', Imports source names item) ↔ ∃ item ∈ items, Imports source names item := by
  constructor
  · rintro ⟨item, hitem, himports⟩
    exact ⟨item, (h item (himports.isForeign hrouter)).mp hitem, himports⟩
  · rintro ⟨item, hitem, himports⟩
    exact ⟨item, (h item (himports.isForeign hrouter)).mpr hitem, himports⟩

/-! ### Steps that change imports -/

/-- An import of something else than the router is left by the step that maps hooks if it is not
mapped. -/
theorem exists_imports_mapHooks (hrouter : source ≠ routerPackage) (s : State) :
    (∃ item ∈ (mapHooks items s).items, Imports source names item) ↔
      ∃ item ∈ items, Imports source names item ∧ (mapImport item).isMapped = false := by
  have hmapped : ∀ item, Imports source names ((mapImport item).apply item) ↔
      Imports source names item ∧ (mapImport item).isMapped = false := by
    intro item
    unfold mapImport
    split
    · split
      · exact (and_iff_left rfl).symm
      · split
        · exact (and_iff_left rfl).symm
        · refine iff_of_false (fun h => hrouter ?_) (by simp [HookImport.isMapped])
          exact (Option.some.inj h.1).symm
    · exact (and_iff_left rfl).symm
  rw [mapHooks_items]
  constructor
  · rintro ⟨item', hitem', himports⟩
    obtain ⟨item, hitem, rfl⟩ := List.mem_map.mp hitem'
    rw [imports_walk (rewrites_renameHooks _), hmapped] at himports
    exact ⟨item, hitem, himports⟩
  · rintro ⟨item, hitem, himports⟩
    refine ⟨_, List.mem_map_of_mem hitem, ?_⟩
    rwa [imports_walk (rewrites_renameHooks _), hmapped]

theorem exists_imports_normalizeElements (s : State) :
    (∃ item ∈ (normalizeElements items s).items, Imports source names item) ↔
      ∃ item ∈ items, Imports source names item := by
  constructor
  · rintro ⟨item', hitem', himports⟩
    obtain ⟨item, hitem, rfl⟩ := List.mem_map.mp hitem'
    exact ⟨item, hitem, (imports_walk rewrites_normalize item).mp himports⟩
  · rintro ⟨item, hitem, himports⟩
    exact ⟨_, List.mem_map_of_mem hitem, (imports_walk rewrites_normalize item).mpr himports⟩

/-- All that is imported from a module of fonts goes with the factories that are dropped. -/
def isLost (dropped : NameSet) (source : String) (names : List (Option String)) : Bool :=
  !dropped.isEmpty && isFontSource source &&
    names.all fun name => (name.map dropped.contains).getD false

/-- Nothing is left of an import that is lost, and something of every other. -/
theorem exists_mem_fontless_iff (removed dropped : NameSet) {item : Node}
    (h : Imports source names item) :
    (∃ n ∈ fontless removed dropped item, Shape.importSource? n = some source) ↔
      isLost dropped source names = false := by
  obtain ⟨hsource, hnames⟩ := (imports_walk (rewrites_cleanClassNames removed) item).mpr h
  have hdeclarators : Shape.declarators? item = none := by
    obtain ⟨s, t, p, specifiers, ss, raw, a, rfl⟩ := importSource?_eq_some.mp h.1
    rfl
  have hcleaned : (dropDeclarators removed item).map (cleanClassNames removed) =
      [cleanClassNames removed item] := by
    rw [dropDeclarators_of_none hdeclarators, List.map_singleton]
  unfold fontless
  rw [hcleaned]
  generalize cleanClassNames removed item = cleaned at hsource hnames
  obtain ⟨s, t, p, specifiers, ss, raw, a, rfl⟩ := importSource?_eq_some.mp hsource
  obtain rfl : specifiers.map localName? = names := hnames
  dsimp only
  unfold isLost
  split
  · next hempty =>
    rw [hempty]
    exact iff_of_true ⟨_, List.mem_singleton_self _, rfl⟩ rfl
  · next hempty =>
    rw [List.flatMap_singleton, dropSpecifiers, Bool.eq_false_iff.mpr hempty]
    by_cases hfont : isFontSource source = true
    · rw [if_pos hfont, hfont, List.all_map]
      dsimp only
      split
      · next hkept =>
        refine iff_of_false (by simp) ?_
        rw [List.isEmpty_iff, List.filter_eq_nil_iff] at hkept
        simp only [Bool.not_false, Bool.and_self, Bool.true_and, Bool.not_eq_false]
        refine List.all_eq_true.mpr fun sp hsp => ?_
        simpa using hkept sp hsp
      · next hkept =>
        refine iff_of_true ⟨_, List.mem_singleton_self _, rfl⟩ ?_
        rw [List.isEmpty_iff, List.filter_eq_nil_iff] at hkept
        simp only [Bool.not_false, Bool.and_self, Bool.true_and]
        rw [Bool.eq_false_iff]
        intro hall
        refine hkept fun sp hsp => ?_
        simpa using List.all_eq_true.mp hall sp hsp
    · rw [if_neg hfont, Bool.eq_false_iff.mpr hfont]
      exact iff_of_true ⟨_, List.mem_singleton_self _, rfl⟩ rfl

/-- Without a font that is removed no factory is dropped. -/
theorem isEmpty_droppedFactories (h : (removedFonts items).isEmpty = true) :
    (droppedFactories items).isEmpty = true := by
  rw [NameSet.isEmpty_iff_not_contains] at h ⊢
  intro x hx
  obtain ⟨⟨font, -, hremoved, -⟩, -⟩ := of_contains_droppedFactories hx
  exact h _ hremoved

theorem mem_importSources_eliminateFonts (s : State) :
    source ∈ importSources (eliminateFonts items s).items ↔
      ∃ item ∈ items, ∃ names, Imports source names item ∧
        isLost (droppedFactories items) source names = false := by
  rw [mem_importSources]
  by_cases hremoved : (removedFonts items).isEmpty = true
  · have hitems : (eliminateFonts items s).items = items := by
      simp [eliminateFonts, hremoved]
    have hlost : ∀ names, isLost (droppedFactories items) source names = false := by
      intro names
      rw [isLost, isEmpty_droppedFactories hremoved]
      rfl
    rw [hitems]
    constructor
    · rintro ⟨item, hitem, hsource⟩
      exact ⟨item, hitem, _, ⟨hsource, rfl⟩, hlost _⟩
    · rintro ⟨item, hitem, names, himports, -⟩
      exact ⟨item, hitem, himports.1⟩
  · have hitems : (eliminateFonts items s).items =
        items.flatMap (fontless (removedFonts items) (droppedFactories items)) := by
      rw [← withoutFonts_eq_flatMap]
      simp [eliminateFonts, hremoved]
    rw [hitems]
    constructor
    · rintro ⟨n, hn, hsource⟩
      obtain ⟨item, hitem, hn⟩ := List.mem_flatMap.mp hn
      have himports : Imports source (localNames item) item :=
        ⟨(importSource?_of_mem_fontless hn).symm.trans hsource, rfl⟩
      exact ⟨item, hitem, _, himports, (exists_mem_fontless_iff _ _ himports).mp ⟨n, hn, hsource⟩⟩
    · rintro ⟨item, hitem, names, himports, hkept⟩
      obtain ⟨n, hn, hsource⟩ := (exists_mem_fontless_iff _ _ himports).mpr hkept
      exact ⟨n, List.mem_flatMap.mpr ⟨item, hitem, hn⟩, hsource⟩

/-! ### The migrated module -/

/-- The steps before imports are redirected. -/
def frontPasses (o : Options) : List Pass :=
  [.stripUseClient, .importRouter] ++ if o.kind = .api then [] else [.bindComponent]

/-- The steps between the redirection of imports and the registration. -/
def middlePasses (o : Options) : List Pass :=
  if o.kind = .api then [.collectHandlers]
  else [.mapHooks, .normalizeElements] ++ if o.kind.isLayout then [.fitShell] else []

theorem redirectImports_not_mem_middlePasses (o : Options) :
    Pass.redirectImports ∉ middlePasses o := by
  unfold middlePasses
  split
  · decide
  · split
    · decide
    · decide

theorem pipeline_eq_front (o : Options) :
    pipeline o = frontPasses o ++ .redirectImports :: (middlePasses o ++
      .registerRoute :: if o.fontAware then [.eliminateFonts] else []) := by
  by_cases hapi : o.kind = .api
  · simp [pipeline, frontPasses, middlePasses, Options.fontAware, hapi]
  · simp [pipeline, frontPasses, middlePasses, hapi]

/-- A module before its imports are redirected. -/
def front (o : Options) (m : Module) : Step :=
  (frontPasses o).foldl Step.next (Step.start m.items { options := o })

/-- A module with its imports redirected. -/
def redirected (o : Options) (m : Module) : Step := (front o m).next .redirectImports

/-- A module with its route registered. -/
def registered (o : Options) (m : Module) : Step :=
  ((middlePasses o).foldl Step.next (redirected o m)).next .registerRoute

/-- The factories of fonts that the module of a route no longer imports. -/
def lostFonts (o : Options) (m : Module) : NameSet :=
  if o.fontAware then droppedFactories (registered o m).items else .empty

theorem foldl_pipeline (o : Options) (m : Module) :
    (pipeline o).foldl Step.next (Step.start m.items { options := o }) =
      (if o.fontAware then [.eliminateFonts] else []).foldl Step.next (registered o m) := by
  rw [pipeline_eq_front, List.foldl_append, List.foldl_cons, List.foldl_append, List.foldl_cons,
    registered, redirected, front]

theorem items_migrate (o : Options) (m : Module) :
    (migrate o m).module.items =
      if o.fontAware then (eliminateFonts (registered o m).items (registered o m).state).items
      else (registered o m).items := by
  unfold migrate
  rw [foldl_pipeline]
  cases o.fontAware with
  | true => simp only [if_true, List.foldl_cons, List.foldl_nil, items_next, Pass.run]
  | false => simp only [Bool.false_eq_true, if_false, List.foldl_nil]

theorem leavesImports_front (o : Options) : ∀ pass ∈ frontPasses o, leavesImports pass = true := by
  unfold frontPasses
  split
  · decide
  · decide

theorem sameImports_front (o : Options) (m : Module) : SameImports m.items (front o m).items :=
  sameImports_foldl (leavesImports_front o) (Step.start m.items { options := o })

theorem options_front (o : Options) (m : Module) : (front o m).state.options = o :=
  options_foldl (frontPasses o) (Step.start m.items { options := o })

/-- Nothing is asked for before imports are redirected. -/
theorem requests_front (o : Options) (m : Module) :
    requests (front o m).state = (.empty, []) := by
  refine requests_foldl (fun hmem => ?_) (Step.start m.items { options := o })
  exact absurd (leavesImports_front o _ hmem) (by decide)

/-- What takes the place of an import from elsewhere than the router was one, or stands there
still. -/
theorem isForeign_of_apply {o : Options} {item new : Node}
    (hnew : new ∈ (ImportChange.ofItem o item).apply item) (h : isForeign new = true) :
    isForeign item = true := by
  rcases mem_apply_iff.mp hnew with ⟨-, rfl⟩ | ⟨package, stylesheet, hof⟩
  · exact h
  · obtain ⟨source, specifiers, hsource, hof⟩ := ofItem_eq_replace hof
    refine isForeign_iff.mpr ⟨source, hsource, ?_⟩
    rintro rfl
    rw [of_eq_keep (by decide) (by decide) (isStylesheetSource_of_named (by decide))] at hof
    cases hof

/-- The imports of a module, redirected. -/
theorem exists_imports_redirected (hrouter : source ≠ routerPackage) (o : Options) (m : Module)
    (p : Node → Prop) (hp : ∀ item, p item → Imports source names item) :
    (∃ new ∈ (redirected o m).items, p new) ↔
      ∃ item ∈ m.items, ∃ new ∈ (ImportChange.ofItem o item).apply item, p new := by
  have hsame := sameImports_front o m
  have hitems : (redirected o m).items = (front o m).items.flatMap fun item =>
      (ImportChange.ofItem o item).apply item := by
    show ((front o m).items.flatMap fun item =>
      (ImportChange.ofItem (front o m).state.options item).apply item) = _
    rw [options_front]
  rw [hitems]
  constructor
  · rintro ⟨new, hmem, hnew⟩
    obtain ⟨item, hitem, happly⟩ := List.mem_flatMap.mp hmem
    have hforeign := isForeign_of_apply happly ((hp new hnew).isForeign hrouter)
    exact ⟨item, (hsame item hforeign).mp hitem, new, happly, hnew⟩
  · rintro ⟨item, hitem, new, happly, hnew⟩
    have hforeign := isForeign_of_apply happly ((hp new hnew).isForeign hrouter)
    exact ⟨new, List.mem_flatMap.mpr ⟨item, (hsame item hforeign).mpr hitem, happly⟩, hnew⟩

/-- The imports of a module up to the registration. -/
theorem exists_imports_registered (hrouter : source ≠ routerPackage) (o : Options) (m : Module) :
    (∃ item ∈ (registered o m).items, Imports source names item) ↔
      ∃ item ∈ (redirected o m).items, Imports source names item ∧
        (o.kind = .api ∨ (mapImport item).isMapped = false) := by
  rw [registered, (@sameImports_next .registerRoute rfl _).exists_iff hrouter]
  unfold middlePasses
  split
  · next hapi =>
    have hcollect := @sameImports_next .collectHandlers rfl (redirected o m)
    simp only [hapi, true_or, and_true]
    exact hcollect.exists_iff hrouter
  · next hapi =>
    have hshell : ∀ pass ∈ (if o.kind.isLayout then [Pass.fitShell] else []),
        leavesImports pass = true := by
      split
      · decide
      · decide
    rw [List.foldl_append, (sameImports_foldl hshell _).exists_iff hrouter]
    simp only [hapi, false_or, List.foldl_cons, List.foldl_nil, items_next, state_next, Pass.run]
    rw [exists_imports_normalizeElements, exists_imports_mapHooks hrouter]

/-- **Where the migrated module imports from.**  Every import from elsewhere than the router comes
from an import of the module that was kept or redirected, and every such import is there unless it
is a mapped import of hooks or one of fonts of which nothing is left. -/
theorem mem_importSources_migrate_iff (hrouter : source ≠ routerPackage) (o : Options)
    (m : Module) :
    source ∈ importSources (migrate o m).module.items ↔
      ∃ item ∈ m.items, ∃ new ∈ (ImportChange.ofItem o item).apply item,
        Shape.importSource? new = some source ∧
          (o.kind = .api ∨ (mapImport new).isMapped = false) ∧
          isLost (lostFonts o m) source (localNames new) = false := by
  have hregistered : source ∈ importSources (migrate o m).module.items ↔
      ∃ names, (∃ item ∈ (registered o m).items, Imports source names item) ∧
        isLost (lostFonts o m) source names = false := by
    rw [items_migrate, lostFonts]
    cases o.fontAware with
    | true =>
      rw [if_pos rfl, if_pos rfl, mem_importSources_eliminateFonts]
      constructor
      · rintro ⟨item, hitem, names, himports, hkept⟩
        exact ⟨names, ⟨item, hitem, himports⟩, hkept⟩
      · rintro ⟨names, ⟨item, hitem, himports⟩, hkept⟩
        exact ⟨item, hitem, names, himports, hkept⟩
    | false =>
      rw [if_neg (by simp), if_neg (by simp), mem_importSources]
      constructor
      · rintro ⟨item, hitem, hsource⟩
        exact ⟨localNames item, ⟨item, hitem, hsource, rfl⟩, rfl⟩
      · rintro ⟨names, ⟨item, hitem, hsource, -⟩, -⟩
        exact ⟨item, hitem, hsource⟩
  rw [hregistered]
  constructor
  · rintro ⟨names, himports, hkept⟩
    rw [exists_imports_registered hrouter,
      exists_imports_redirected hrouter o m _ fun _ h => h.1] at himports
    obtain ⟨item, hitem, new, hnew, ⟨hsource, rfl⟩, hmapped⟩ := himports
    exact ⟨item, hitem, new, hnew, hsource, hmapped, hkept⟩
  · rintro ⟨item, hitem, new, hnew, hsource, hmapped, hkept⟩
    refine ⟨localNames new, ?_, hkept⟩
    rw [exists_imports_registered hrouter,
      exists_imports_redirected hrouter o m _ fun _ h => h.1]
    exact ⟨item, hitem, new, hnew, ⟨hsource, rfl⟩, hmapped⟩

end RouteMigration.Migration
