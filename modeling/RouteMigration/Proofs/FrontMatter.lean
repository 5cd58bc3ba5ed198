import RouteMigration.Proofs.ImportSources

/-!
# What a migrated module begins with

The first two steps leave the directives of a module, without those for the browser, and put an
extra import, that of the router, behind them.  Later steps insert, move, replace and remove items
by their position, but all of that happens behind this front.

## Main Definitions

* `IsFront` — directives, and the import of the router after them
* `IsSettled` — an item in which no step finds anything to change

## Main Statements

* `importRouter_stripUseClient` — the front that the first two steps give a module
* `isPrefix_next` — every later step keeps it
* `migrate_front_matter` — the front of a migrated module, and the imports it has not
-/

namespace RouteMigration.Migration

variable {items front : List Node} {item : Node}

/-! ### Settled items -/

/-- No step finds anything in the item that it would change. -/
structure IsSettled (item : Node) : Prop where
  isPreamble : isPreamble item = true
  source : ∀ source, Shape.importSource? item = some source → source = routerPackage
  mentions : ∀ names, mentions names item = false
  elements : ElementOutline.all item = []
  clean : ∀ names, cleanClassNames names item = item

theorem isSettled_of_directive (h : (Shape.directive? item).isSome = true) : IsSettled item := by
  unfold Shape.directive? at h
  split at h
  · next s ss value raw =>
    refine ⟨rfl, by simp [Shape.importSource?], fun names => rfl, rfl, fun names => ?_⟩
    simp [cleanClassNames_mk]
  · cases h

theorem isSettled_routerImport (factory : RouteFactory) : IsSettled (routerImport factory) where
  isPreamble := rfl
  source := fun _ hsource => (Option.some.inj hsource).symm
  mentions := by
    intro names
    cases factory <;> rfl
  elements := by
    cases factory <;> rfl
  clean := by
    intro names
    cases factory <;>
      simp [routerImport, RouteFactory.importedSymbols, Build.namedImport, Build.importNamed,
        Build.str, cleanClassNames_mk]

namespace IsSettled

theorem redirect (h : IsSettled item) (o : Options) :
    (ImportChange.ofItem o item).apply item = [item] := by
  unfold ImportChange.ofItem
  split
  · next isTypeOnly phase s specifiers source raw ss attributes =>
    obtain rfl := h.source source rfl
    rw [of_eq_keep (by decide) (by decide) (isStylesheetSource_of_named (by decide))]
    rfl
  · rfl

theorem mapImport (h : IsSettled item) : mapImport item = .none := by
  unfold Migration.mapImport
  split
  · next isTypeOnly phase s specifiers source raw ss attributes =>
    obtain rfl := h.source source rfl
    rfl
  · rfl

theorem renameHooks (h : IsSettled item) (renames : List HookRename) :
    renameHooks renames item = item := by
  have hcovers : Covers (.ofList (renames.map (·.fromName))) renames := by
    intro r hr
    rw [NameSet.contains_ofList]
    exact List.mem_map_of_mem hr
  exact renameHooks_eq_self hcovers (h.mentions _)

theorem normalize (h : IsSettled item) : normalize item = item :=
  normalize_eq_self (by simp [h.elements])

theorem hideHandlers (h : IsSettled item) : hideHandlers item = item := by
  rw [Migration.hideHandlers, exportedHandlers_of_isPreamble h.isPreamble]
  rfl

theorem fontless (h : IsSettled item) (removed dropped : NameSet) :
    fontless removed dropped item = [item] := by
  have hdeclarators : Shape.declarators? item = none :=
    declarators?_of_ne fun kind isDeclare hform => by
      have hinert := isInert_of_isPreamble h.isPreamble
      simp [isInert, hform, keptOf, keptForNames] at hinert
  rw [fontless_eq_singleton hdeclarators, h.clean removed]
  intro source hsource
  rw [h.source source hsource]
  exact isFontSource_of_named (by decide)

end IsSettled

/-! ### The front -/

/-- Directives, and the import of the router after them. -/
def IsFront (front : List Node) : Prop :=
  ∃ directives factory, (∀ item ∈ directives, (Shape.directive? item).isSome = true) ∧
    front = directives ++ [routerImport factory]

theorem IsFront.isSettled (h : IsFront front) (hitem : item ∈ front) : IsSettled item := by
  obtain ⟨directives, factory, hdirectives, rfl⟩ := h
  rcases List.mem_append.mp hitem with hitem | hitem
  · exact isSettled_of_directive (hdirectives item hitem)
  · rw [List.mem_singleton.mp hitem]
    exact isSettled_routerImport factory

/-- The front is among the leading directives and imports. -/
theorem IsFront.isPrefix_take_leading (h : IsFront front) (hitems : front <+: items) :
    front <+: items.take (Shape.leading items) := by
  obtain ⟨directives, factory, hdirectives, rfl⟩ := h
  obtain ⟨rest, rfl⟩ := hitems
  have hrouter : (Shape.directive? (routerImport factory)).isSome = false := rfl
  have hprologue : Shape.prologue (directives ++ [routerImport factory] ++ rest) =
      directives.length := by
    rw [Shape.prologue, List.append_assoc, List.takeWhile_append_of_pos hdirectives]
    simp [hrouter]
  have hleading : directives.length + 1 ≤
      Shape.leading (directives ++ [routerImport factory] ++ rest) := by
    rw [Shape.leading, hprologue, List.append_assoc, List.drop_left, List.singleton_append,
      List.takeWhile_cons_of_pos rfl, List.length_cons]
    omega
  refine List.prefix_take_iff.mpr ⟨List.prefix_append _ _, ?_⟩
  simpa using hleading

theorem isPrefix_flatMap {keep : Node → List Node} (hkeep : ∀ item ∈ front, keep item = [item])
    (h : front <+: items) : front <+: items.flatMap keep := by
  obtain ⟨rest, rfl⟩ := h
  have hfront : front.flatMap keep = front := by
    rw [List.flatMap_congr hkeep, List.flatMap_singleton']
  rw [List.flatMap_append, hfront]
  exact List.prefix_append _ _

theorem isPrefix_map {change : Node → Node} (hchange : ∀ item ∈ front, change item = item)
    (h : front <+: items) : front <+: items.map change := by
  obtain ⟨rest, rfl⟩ := h
  rw [List.map_append, map_eq_self hchange]
  exact List.prefix_append _ _

/-- An item that is not settled stands behind the front. -/
theorem IsFront.isPrefix_of_not_isPreamble {before after : List Node} (h : IsFront front)
    (hitems : front <+: before ++ item :: after) (hitem : isPreamble item = false) :
    front <+: before := by
  rcases List.prefix_or_prefix_of_prefix hitems (List.prefix_append before (item :: after)) with
    hbefore | ⟨rest, rfl⟩
  · exact hbefore
  · rw [List.prefix_append_right_inj, List.prefix_cons_iff] at hitems
    rcases hitems with rfl | ⟨rest', rfl, -⟩
    · exact ⟨[], by rw [List.append_nil, List.append_nil]⟩
    · have hsettled : IsSettled item := h.isSettled (by simp)
      rw [hsettled.isPreamble] at hitem
      cases hitem

/-! ### The steps -/

theorem Placed.isPrefix {name : String} {new : Node} {rest result : List Node}
    (h : Placed name new front rest result) : front <+: result := by
  cases h with
  | here => exact List.prefix_append _ _
  | movedUp => exact List.prefix_append _ _
  | movedDown =>
    rw [List.append_assoc]
    exact List.prefix_append _ _

theorem isPreamble_of_metadata {m : Nat × List Node} (h : Shape.metadata? item = some m) :
    isPreamble item = false := by
  by_contra hpreamble
  rw [metadata?_of_inert (isInert_of_isPreamble (by simpa using hpreamble))] at h
  cases h

/-- The registration goes behind the front. -/
theorem IsFront.isPrefix_take_taken {kind : ModuleKind} {index : Nat} {taken : List Node}
    (h : IsFront front) (hitems : front <+: items) (htaken : Taken kind items index taken) :
    front <+: taken.take index := by
  cases htaken with
  | leading => exact h.isPrefix_take_leading hitems
  | @metadata before after properties found i hkind heq hbefore hfound =>
    rw [List.take_left]
    rw [heq] at hitems
    exact h.isPrefix_of_not_isPreamble hitems (isPreamble_of_metadata hfound)

theorem isPrefix_bindComponent (h : IsFront front) (hitems : front <+: items) (s : State) :
    front <+: (bindComponent items s).items := by
  have hcases := bindComponent_cases items s
  generalize (bindComponent items s).items = items', (bindComponent items s).state = s' at hcases ⊢
  cases hcases with
  | none => exact hitems
  | reference => exact hitems
  | @bound before after found shape bound heq hbefore hfound hshape hbound =>
    have hpreamble := isPreamble_of_defaultExport hfound
    rw [heq] at hitems
    exact (h.isPrefix_of_not_isPreamble hitems hpreamble).trans (List.prefix_append _ _)

theorem isPrefix_mapHooks (h : IsFront front) (hitems : front <+: items) (s : State) :
    front <+: (mapHooks items s).items := by
  rw [mapHooks_items]
  refine isPrefix_map (fun item hitem => ?_) hitems
  have hsettled := h.isSettled hitem
  rw [hsettled.mapImport]
  exact hsettled.renameHooks _

theorem isPrefix_fitShell (h : IsFront front) (hitems : front <+: items) (s : State) :
    front <+: (fitShell items s).items := by
  rcases fitShell_cases items s with hsame | ⟨before, found, after, c, newBody, rfl, hfound, heq⟩
  · rwa [hsame]
  · have hpreamble := (Component.isPreamble_of_ofItem? hfound newBody).1
    rw [heq]
    exact (h.isPrefix_of_not_isPreamble hitems hpreamble).trans (List.prefix_append _ _)

theorem isPrefix_registerRoute (h : IsFront front) (hitems : front <+: items) (s : State) :
    front <+: (registerRoute items s).items := by
  obtain ⟨r, index, taken, htaken, -, hplaced⟩ := registerRoute_cases items s
  refine (h.isPrefix_take_taken hitems htaken).trans ?_
  split at hplaced
  · rw [hplaced]
    exact List.prefix_append _ _
  · exact hplaced.isPrefix

theorem isPrefix_eliminateFonts (h : IsFront front) (hitems : front <+: items) (s : State) :
    front <+: (eliminateFonts items s).items := by
  rcases eliminateFonts_cases items s with hsame | hflat
  · rwa [hsame]
  · rw [hflat]
    exact isPrefix_flatMap (fun item hitem => (h.isSettled hitem).fontless _ _) hitems

/-- The steps after the first two. -/
def isLater : Pass → Bool
  | .stripUseClient | .importRouter => false
  | _ => true

/-- **One step.**  Every later step keeps the front. -/
theorem isPrefix_next {t : Step} {pass : Pass} (h : IsFront front) (hitems : front <+: t.items)
    (hpass : isLater pass = true) : front <+: (t.next pass).items := by
  cases pass with
  | stripUseClient => cases hpass
  | importRouter => cases hpass
  | bindComponent => exact isPrefix_bindComponent h hitems t.state
  | redirectImports =>
    exact isPrefix_flatMap (fun item hitem => (h.isSettled hitem).redirect _) hitems
  | mapHooks => exact isPrefix_mapHooks h hitems t.state
  | normalizeElements =>
    exact isPrefix_map (fun item hitem => (h.isSettled hitem).normalize) hitems
  | fitShell => exact isPrefix_fitShell h hitems t.state
  | collectHandlers =>
    exact isPrefix_map (fun item hitem => (h.isSettled hitem).hideHandlers) hitems
  | registerRoute => exact isPrefix_registerRoute h hitems t.state
  | eliminateFonts => exact isPrefix_eliminateFonts h hitems t.state

/-- **Any number of steps.** -/
theorem isPrefix_foldl {t : Step} {passes : List Pass} (h : IsFront front)
    (hitems : front <+: t.items) (hpasses : ∀ pass ∈ passes, isLater pass = true) :
    front <+: (passes.foldl Step.next t).items := by
  induction passes generalizing t with
  | nil => exact hitems
  | cons pass passes ih =>
    obtain ⟨hpass, hpasses⟩ := List.forall_mem_cons.mp hpasses
    exact ih (isPrefix_next h hitems hpass) hpasses

/-! ### The first two steps -/

/-- The directives that a module begins with, without those for the browser. -/
def keptDirectives (items : List Node) : List Node :=
  (items.takeWhile fun item => (Shape.directive? item).isSome).filter (!Shape.isUseClient ·)

theorem directive_of_mem_kept (h : item ∈ keptDirectives items) :
    (Shape.directive? item).isSome = true :=
  List.mem_takeWhile_imp (p := fun item => (Shape.directive? item).isSome)
    (List.mem_of_mem_filter h)

theorem isFront_kept (items : List Node) (factory : RouteFactory) :
    IsFront (keptDirectives items ++ [routerImport factory]) :=
  ⟨keptDirectives items, factory, fun _ => directive_of_mem_kept, rfl⟩

/-- What follows the directives begins with no directive. -/
theorem takeWhile_drop_takeWhile {α : Type} (p : α → Bool) (l : List α) :
    (l.drop (l.takeWhile p).length).takeWhile p = [] := by
  induction l with
  | nil => rfl
  | cons a l ih =>
    cases ha : p a with
    | true => rwa [List.takeWhile_cons_of_pos ha, List.length_cons, List.drop_succ_cons]
    | false => simp [ha]

theorem stripUseClient_items (items : List Node) (s : State) :
    (stripUseClient items s).items = keptDirectives items ++ items.drop (Shape.prologue items) := by
  show (items.take (Shape.prologue items)).filter (!Shape.isUseClient ·) ++ _ = _
  rw [Shape.prologue, take_length_takeWhile]
  rfl

theorem prologue_stripUseClient (items : List Node) (s : State) :
    Shape.prologue (stripUseClient items s).items = (keptDirectives items).length := by
  rw [stripUseClient_items, Shape.prologue,
    List.takeWhile_append_of_pos fun item => directive_of_mem_kept, Shape.prologue,
    takeWhile_drop_takeWhile, List.append_nil]

/-- The items after the first two steps. -/
theorem importRouter_stripUseClient (items : List Node) (s : State) :
    (importRouter (stripUseClient items s).items s).items =
      keptDirectives items ++ routerImport s.options.factory ::
        items.drop (Shape.prologue items) := by
  show insertAt (Shape.prologue (stripUseClient items s).items) _ _ = _
  rw [prologue_stripUseClient, stripUseClient_items]
  exact insertAt_append rfl _ _

theorem exists_pipeline_eq_cons (o : Options) :
    ∃ passes, pipeline o = .stripUseClient :: .importRouter :: passes ∧
      ∀ pass ∈ passes, isLater pass = true := by
  refine ⟨_, rfl, ?_⟩
  by_cases hapi : o.kind = .api
  · rw [if_pos hapi]
    decide
  · rw [if_neg hapi]
    cases o.kind.isLayout <;> cases o.fontAware <;> decide

theorem isPrefix_migrate (o : Options) (m : Module) :
    keptDirectives m.items ++ [routerImport o.factory] <+: (migrate o m).module.items := by
  obtain ⟨passes, hpipeline, hpasses⟩ := exists_pipeline_eq_cons o
  let first := ((Step.start m.items { options := o }).next .stripUseClient).next .importRouter
  have hfirst : keptDirectives m.items ++ [routerImport o.factory] <+: first.items := by
    have hitems := importRouter_stripUseClient m.items { options := o }
    exact ⟨m.items.drop (Shape.prologue m.items), by rw [List.append_assoc]; exact hitems.symm⟩
  have hitems : (migrate o m).module.items = (passes.foldl Step.next first).items := by
    unfold migrate
    rw [hpipeline]
    rfl
  rw [hitems]
  exact isPrefix_foldl (isFront_kept m.items o.factory) hfirst hpasses

/-- **The front of a migrated module.**  It begins with the directives it began with, without those
for the browser, and the import of the router follows.  Nothing is imported that has no
counterpart. -/
theorem migrate_front_matter (o : Options) (m : Module) :
    let directives :=
      (m.items.takeWhile fun item => (Shape.directive? item).isSome).filter (!Shape.isUseClient ·)
    (∃ rest, (migrate o m).module.items = directives ++ routerImport o.factory :: rest) ∧
      (∀ item ∈ directives, Shape.isUseClient item = false) ∧
      ∀ item ∈ (migrate o m).module.items, ∀ source, Shape.importSource? item = some source →
        source ∉ ["next", "next/script", "next/image"] := by
  intro directives
  refine ⟨?_, ?_, ?_⟩
  · obtain ⟨rest, hrest⟩ := isPrefix_migrate o m
    rw [List.append_assoc] at hrest
    exact ⟨rest, hrest.symm⟩
  · intro item hitem
    simpa using (List.mem_filter.mp hitem).2
  · intro item hitem source hsource hmem
    have hlegacy := isLegacySource_of_mem_migrate (mem_importSources.mpr ⟨item, hitem, hsource⟩)
    rw [isLegacySource, Bool.eq_false_iff, ne_eq, List.contains_iff_mem] at hlegacy
    exact hlegacy hmem

end RouteMigration.Migration
