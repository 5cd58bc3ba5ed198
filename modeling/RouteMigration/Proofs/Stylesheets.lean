import Mathlib.Data.List.Flatten
import RouteMigration.Proofs.MigratedRegistration

/-!
# Stylesheets

A stylesheet that is imported for its effect is imported by name, and the top layout links it under
that name.  The name is recorded by the step that redirects imports and rendered by the one that
registers the route, and the import has to get through the steps after both.

## Main Definitions

* `sheet?`, `sheets` — the stylesheets that a module imports for their effect, in order
* `sheetImport` — the import that takes the place of such an import
* `Clash` — two sources of stylesheets that are bound to one name

## Main Statements

* `stylesheetBinding_eq_iff` — which sources are bound to one name
* `stylesheet_bindings_distinct_iff` — when the stylesheets of a module are bound to distinct names
* `linked_stylesheets_are_imported` — links and imports of stylesheets in a migrated module

## Design Notes

The source of a stylesheet may look like that of a module of fonts.  Its import is not taken for one
of a font that is removed, as the link refers to the name.
-/

namespace RouteMigration.Migration

open Reference

variable {o : Options} {items items' : List Node} {source : String}

/-! ### Imports of stylesheets -/

/-- The source of the stylesheet that an item imports for its effect. -/
def sheet? : Node → Option String
  | .importDecl _ _ _ [] (.str _ source _) _ =>
    if isStylesheetSource source then some source else none
  | _ => none

/-- The sources of the stylesheets that a module imports for their effect, in order. -/
def sheets (items : List Node) : List String := items.filterMap sheet?

/-- The import of a stylesheet by name: by its URL where fonts are handled. -/
def sheetImport (o : Options) (source : String) : Node :=
  Build.defaultImport (stylesheetBinding source) (if o.fontAware then source ++ "?url" else source)

theorem sheet?_eq_some {item : Node} : sheet? item = some source ↔
    ∃ s isTypeOnly phase ss raw attributes,
      item = .importDecl s isTypeOnly phase [] (.str ss source raw) attributes ∧
        isStylesheetSource source = true := by
  constructor
  · intro h
    unfold sheet? at h
    split at h
    · split at h
      · next hsource =>
        cases h
        exact ⟨_, _, _, _, _, _, rfl, hsource⟩
      · cases h
    · cases h
  · rintro ⟨s, isTypeOnly, phase, ss, raw, attributes, rfl, hsource⟩
    exact if_pos hsource

theorem isStylesheetSource_of_mem_sheets (h : source ∈ sheets items) :
    isStylesheetSource source = true := by
  obtain ⟨item, -, hitem⟩ := List.mem_filterMap.mp h
  obtain ⟨-, -, -, -, -, -, -, hsource⟩ := sheet?_eq_some.mp hitem
  exact hsource

/-- A stylesheet is not what a rule names, and neither is its URL. -/
theorem ne_of_isStylesheetSource (h : isStylesheetSource source = true) {named : String}
    (hnamed : named ∈ namedSources) : source ≠ named ∧ source ++ "?url" ≠ named := by
  have hends : ∀ named ∈ namedSources, named.toList.getLast? ≠ some 'l' := by decide
  refine ⟨?_, url_ne (hends named hnamed) source⟩
  rintro rfl
  rw [isStylesheetSource_of_named hnamed] at h
  cases h

theorem importSource?_sheetImport (o : Options) (h : isStylesheetSource source = true)
    {named : String} (hnamed : named ∈ namedSources) :
    Shape.importSource? (sheetImport o source) ≠ some named := by
  obtain ⟨hsource, hurl⟩ := ne_of_isStylesheetSource h hnamed
  show some (if o.fontAware then source ++ "?url" else source) ≠ some named
  split
  · exact fun heq => hurl (Option.some.inj heq)
  · exact fun heq => hsource (Option.some.inj heq)

/-! ### The step that redirects imports -/

theorem isLegacySource_of_isStylesheetSource (h : isStylesheetSource source = true) :
    isLegacySource source = false := by
  have hall : ∀ legacy ∈ legacySources, ".css".toList.isSuffixOf legacy.toList = false := by decide
  rw [isLegacySource, Bool.eq_false_iff, ne_eq, List.contains_iff_mem]
  intro hmem
  rw [isStylesheetSource_eq, hall source hmem] at h
  cases h

theorem ofStylesheet_eq (o : Options) (source : String) :
    ImportChange.ofStylesheet o source = .replace (sheetImport o source) none
      (if o.kind = .rootLayout then some (stylesheetBinding source) else none) := by
  unfold ImportChange.ofStylesheet sheetImport
  by_cases hroot : o.kind = .rootLayout
  · simp [hroot]
  · simp [hroot, Options.fontAware]

/-- What becomes of an import of a stylesheet. -/
theorem ofItem_of_sheet (hkind : o.kind.isPageLike = true) {item : Node}
    (h : sheet? item = some source) :
    ImportChange.ofItem o item = .replace (sheetImport o source) none
      (if o.kind = .rootLayout then some (stylesheetBinding source) else none) := by
  obtain ⟨s, isTypeOnly, phase, ss, raw, attributes, rfl, hsource⟩ := sheet?_eq_some.mp h
  have hlegacy := isLegacySource_of_isStylesheetSource hsource
  have himage : source ≠ imageSource := by
    rintro rfl
    exact absurd hlegacy (by decide)
  have hlink := (ne_of_isStylesheetSource hsource (show linkSource ∈ namedSources by decide)).1
  rw [← ofStylesheet_eq]
  simp [ImportChange.ofItem, ImportChange.of, ImportChange.ofOther, himage, hlegacy, hlink, hsource,
    hkind]

/-- Nothing else makes the head link a stylesheet. -/
theorem stylesheet?_eq_none {item : Node} (h : o.kind.isPageLike = true → sheet? item = none) :
    (ImportChange.ofItem o item).stylesheet? = none := by
  unfold ImportChange.ofItem
  split
  · next isTypeOnly phase s specifiers source raw ss attributes =>
    unfold ImportChange.of
    split
    · split <;> rfl
    · unfold ImportChange.ofOther
      split
      · rfl
      · split
        · rfl
        · split
          · next hsheet =>
            simp only [Bool.and_eq_true, List.isEmpty_iff] at hsheet
            obtain ⟨⟨hsource, rfl⟩, hkind⟩ := hsheet
            have hnone := h hkind
            rw [sheet?_eq_some.mpr ⟨s, isTypeOnly, phase, ss, raw, attributes, rfl, hsource⟩]
              at hnone
            cases hnone
          · rfl
  · rfl

/-- Only the top layout links stylesheets: those that it imports for their effect. -/
theorem stylesheet?_ofItem (o : Options) (item : Node) :
    (ImportChange.ofItem o item).stylesheet? =
      if o.kind = .rootLayout then (sheet? item).map stylesheetBinding else none := by
  by_cases hkind : o.kind.isPageLike = true
  · cases hitem : sheet? item with
    | none =>
      rw [stylesheet?_eq_none fun _ => hitem]
      split <;> rfl
    | some source =>
      rw [ofItem_of_sheet hkind hitem]
      rfl
  · have hroot : o.kind ≠ .rootLayout := by
      intro hroot
      rw [hroot] at hkind
      exact hkind rfl
    rw [stylesheet?_eq_none fun h => absurd h hkind, if_neg hroot]

/-- The imports that the step puts in the place of stylesheets. -/
def putSheets (o : Options) (items : List Node) : List Node :=
  (items.filter fun item => (sheet? item).isSome).flatMap fun item =>
    (ImportChange.ofItem o item).apply item

/-- Each stylesheet is imported by name in the place of the old import. -/
theorem putSheets_eq (hkind : o.kind.isPageLike = true) (items : List Node) :
    putSheets o items = (sheets items).map (sheetImport o) := by
  induction items with
  | nil => rfl
  | cons item rest ih =>
    cases hitem : sheet? item with
    | none =>
      rw [sheets, List.filterMap_cons_none hitem, ← sheets, ← ih, putSheets,
        List.filter_cons_of_neg (by simp [hitem]), putSheets]
    | some source =>
      rw [sheets, List.filterMap_cons_some hitem, ← sheets, List.map_cons, ← ih, putSheets,
        List.filter_cons_of_pos (by simp [hitem]), List.flatMap_cons, ofItem_of_sheet hkind hitem,
        putSheets]
      rfl

theorem sublist_redirectImports (items : List Node) (s : State) :
    (putSheets s.options items).Sublist (redirectImports items s).items :=
  List.filter_sublist.flatMap _

/-! ### Names of stylesheets -/

/-- The characters of the source of a stylesheet that its name has: without a leading `./` and a
trailing `.css`, the letters, digits, `_` and `$`. -/
def keptChars (source : String) : List Char :=
  let inner := (Text.dropFront? "./" source).getD source
  ((Text.dropBack? ".css" inner).getD inner).toList.filter isBindingChar

/-- The kept characters begin with a digit, and the others are these behind a `_`. -/
def Escapes (kept kept' : List Char) : Prop :=
  ∃ c cs, c.isDigit = true ∧ kept = c :: cs ∧ kept' = '_' :: c :: cs

/-- The sources are bound to one name: they have the same characters left, or one has to be told
from a number by the `_` that the other has. -/
def Clash (a b : String) : Prop :=
  keptChars a = keptChars b ∨ Escapes (keptChars a) (keptChars b) ∨
    Escapes (keptChars b) (keptChars a)

theorem stylesheetBinding_eq (source : String) :
    stylesheetBinding source =
      String.ofList (Text.guardDigit (keptChars source ++ "css".toList)) := rfl

theorem guardDigit_cases (cs : List Char) :
    Text.guardDigit cs = cs ∨
      ∃ c rest, c.isDigit = true ∧ cs = c :: rest ∧ Text.guardDigit cs = '_' :: c :: rest := by
  cases cs with
  | nil => exact Or.inl rfl
  | cons c rest =>
    by_cases hdigit : c.isDigit = true
    · exact Or.inr ⟨c, rest, hdigit, rfl, if_pos hdigit⟩
    · exact Or.inl (if_neg hdigit)

theorem Escapes.guardDigit_eq {cs cs' : List Char} (h : Escapes cs cs') :
    Text.guardDigit cs = Text.guardDigit cs' := by
  obtain ⟨c, rest, hdigit, rfl, rfl⟩ := h
  rw [Text.guardDigit, if_pos hdigit]
  rfl

/-- Texts are alike behind the guard if they are alike, or the guard makes one into the other. -/
theorem guardDigit_eq_iff {cs cs' : List Char} :
    Text.guardDigit cs = Text.guardDigit cs' ↔ cs = cs' ∨ Escapes cs cs' ∨ Escapes cs' cs := by
  constructor
  · intro h
    rcases guardDigit_cases cs with hsame | ⟨c, rest, hdigit, hcs, hguard⟩
    · rcases guardDigit_cases cs' with hsame' | ⟨c', rest', hdigit', hcs', hguard'⟩
      · exact Or.inl (by rw [← hsame, h, hsame'])
      · exact Or.inr (Or.inr ⟨c', rest', hdigit', hcs', by rw [← hguard', ← h, hsame]⟩)
    · rcases guardDigit_cases cs' with hsame' | ⟨c', rest', hdigit', hcs', hguard'⟩
      · exact Or.inr (Or.inl ⟨c, rest, hdigit, hcs, by rw [← hguard, h, hsame']⟩)
      · rw [hguard, hguard'] at h
        exact Or.inl (by rw [hcs, hcs', (List.cons.inj h).2])
  · rintro (rfl | h | h)
    · rfl
    · exact h.guardDigit_eq
    · exact h.guardDigit_eq.symm

/-- What is put behind both texts makes no difference, as it does not begin with a digit. -/
theorem escapes_append_iff {kept kept' : List Char} :
    Escapes (kept ++ "css".toList) (kept' ++ "css".toList) ↔ Escapes kept kept' := by
  constructor
  · rintro ⟨c, cs, hdigit, heq, heq'⟩
    cases kept with
    | nil =>
      obtain ⟨rfl, -⟩ := List.cons.inj heq
      exact absurd hdigit (by decide)
    | cons k ks =>
      obtain ⟨rfl, rfl⟩ := List.cons.inj heq
      refine ⟨k, ks, hdigit, rfl, ?_⟩
      exact List.append_cancel_right (show _ = ('_' :: k :: ks) ++ "css".toList from heq')
  · rintro ⟨c, cs, hdigit, rfl, rfl⟩
    exact ⟨c, cs ++ "css".toList, hdigit, rfl, rfl⟩

/-- **Which stylesheets are bound to one name.** -/
theorem stylesheetBinding_eq_iff {a b : String} :
    stylesheetBinding a = stylesheetBinding b ↔ Clash a b := by
  rw [stylesheetBinding_eq, stylesheetBinding_eq, String.ofList_inj, guardDigit_eq_iff,
    List.append_left_inj, escapes_append_iff, escapes_append_iff, Clash]

/-- **Distinct names.**  The step puts imports by name in the places of the stylesheets of a module,
and they bind distinct names if and only if no two of the sources are bound to one name. -/
theorem stylesheet_bindings_distinct_iff (items : List Node) (s : State)
    (hkind : s.options.kind.isPageLike = true) :
    (putSheets s.options items).Sublist (redirectImports items s).items ∧
      putSheets s.options items = (sheets items).map (sheetImport s.options) ∧
      (((putSheets s.options items).flatMap localNames).Nodup ↔
        (sheets items).Pairwise fun a b => ¬Clash a b) := by
  refine ⟨sublist_redirectImports items s, putSheets_eq hkind items, ?_⟩
  have hnames : (putSheets s.options items).flatMap localNames =
      (sheets items).map fun source => some (stylesheetBinding source) := by
    rw [putSheets_eq hkind, List.flatMap_map]
    exact List.flatMap_pure_eq_map _ _
  rw [hnames, List.Nodup, List.pairwise_map]
  constructor
  · exact List.Pairwise.imp fun hne hclash =>
      hne (congrArg some (stylesheetBinding_eq_iff.mpr hclash))
  · exact List.Pairwise.imp fun hclash heq =>
      hclash (stylesheetBinding_eq_iff.mp (Option.some.inj heq))

/-- `import "./a-b.css"; import "./ab.css";` -/
def twoSheets : List Node :=
  ["./a-b.css", "./ab.css"].map fun source =>
    .importDecl none false .evaluation [] (Build.str source) .absent

/-- Two stylesheets that are bound to one name, in the module of a page. -/
theorem stylesheet_bindings_clash :
    ({ options := {} } : State).options.kind.isPageLike = true ∧
      sheets twoSheets = ["./a-b.css", "./ab.css"] ∧ (sheets twoSheets).Nodup ∧
      ¬((putSheets {} twoSheets).flatMap localNames).Nodup := by
  have hsheets : sheets twoSheets = ["./a-b.css", "./ab.css"] := by decide +kernel
  have hclash : Clash "./a-b.css" "./ab.css" := Or.inl (by decide +kernel)
  obtain ⟨-, -, hiff⟩ := stylesheet_bindings_distinct_iff twoSheets { options := {} } rfl
  refine ⟨rfl, hsheets, by rw [hsheets]; decide, ?_⟩
  rw [hiff, hsheets, List.pairwise_cons]
  exact fun h => h.1 "./ab.css" (List.mem_singleton_self _) hclash

/-! ### Stylesheets that are recorded -/

theorem isForeign_of_mem_sheet {item : Node} (h : sheet? item = some source) :
    isForeign item = true := by
  obtain ⟨s, isTypeOnly, phase, ss, raw, attributes, rfl, hsource⟩ := sheet?_eq_some.mp h
  exact isForeign_iff.mpr ⟨source, rfl, (ne_of_isStylesheetSource hsource (by decide)).1⟩

/-- Stylesheets are imports from elsewhere than the router. -/
theorem sheets_foreignImports (items : List Node) :
    sheets (foreignImports items) = sheets items := by
  rw [sheets, sheets, foreignImports, List.filterMap_filter]
  refine List.filterMap_congr fun item _ => ?_
  split
  · rfl
  · next hforeign =>
    refine (Option.eq_none_iff_forall_ne_some.mpr fun source hitem => hforeign ?_).symm
    exact isForeign_of_mem_sheet hitem

theorem sheets_front (o : Options) (m : Module) : sheets (front o m).items = sheets m.items := by
  rw [← sheets_foreignImports, front, foreignImports_foldl (leavesImports_front o)]
  exact sheets_foreignImports m.items

/-- **What is recorded.**  A top layout has its stylesheets linked, in order, and nothing else
has. -/
theorem stylesheets_arranged (o : Options) (m : Module) :
    (arranged o m).state.stylesheets =
      if o.kind = .rootLayout then (sheets m.items).map stylesheetBinding else [] := by
  have hfront : (front o m).state.stylesheets = [] := congrArg Prod.snd (requests_front o m)
  have harranged : (arranged o m).state.stylesheets = (redirected o m).state.stylesheets :=
    congrArg Prod.snd (requests_foldl (redirectImports_not_mem_middlePasses o) (redirected o m))
  have hredirected : (redirected o m).state.stylesheets =
      (front o m).items.filterMap fun item => (ImportChange.ofItem o item).stylesheet? := by
    show (front o m).state.stylesheets ++ ((front o m).items.map
      (ImportChange.ofItem (front o m).state.options)).filterMap (·.stylesheet?) = _
    rw [hfront, options_front, List.nil_append, List.filterMap_map]
    rfl
  rw [harranged, hredirected]
  simp only [stylesheet?_ofItem]
  split
  · rw [← sheets_front o m, sheets, List.map_filterMap]
  · simp

/-! ### Imports that stay -/

/-- A walk that leaves missing parts alone leaves the import of a stylesheet alone. -/
theorem walk_sheetImport {walk : Node → Node} (hwalk : Rebuilds isRewritten walk)
    (habsent : walk .absent = .absent) (o : Options) (source : String) :
    walk (sheetImport o source) = sheetImport o source := by
  rw [sheetImport, Build.defaultImport, Build.str, walk_importDecl hwalk, habsent,
    List.map_singleton, hwalk.plain none _ rfl, List.map_singleton, hwalk.plain none [] rfl]
  rfl

theorem isForeign_sheetImport (o : Options) (h : isStylesheetSource source = true) :
    isForeign (sheetImport o source) = true := by
  refine isForeign_iff.mpr ⟨_, rfl, fun heq => ?_⟩
  have hrouter : routerPackage ∈ namedSources := by decide
  exact importSource?_sheetImport o h hrouter (congrArg some heq)

/-- Imports stay, in order, where all imports from elsewhere than the router stay. -/
theorem sublist_of_foreignImports_eq {imports : List Node}
    (hforeign : ∀ item ∈ imports, isForeign item = true)
    (heq : foreignImports items' = foreignImports items) (h : imports.Sublist items) :
    imports.Sublist items' := by
  have himports : foreignImports imports = imports := List.filter_eq_self.mpr hforeign
  have hsublist : (foreignImports imports).Sublist (foreignImports items) := h.filter _
  rw [himports, ← heq] at hsublist
  exact hsublist.trans List.filter_sublist

/-- Imports stay, in order, where every item is treated on its own and they are left alone. -/
theorem sublist_flatMap_of_fixed {imports : List Node} {change : Node → List Node}
    (hchange : ∀ item ∈ imports, change item = [item]) (h : imports.Sublist items) :
    imports.Sublist (items.flatMap change) := by
  have hsame : imports.flatMap change = imports := by
    rw [List.flatMap_congr hchange]
    exact List.flatMap_singleton' imports
  rw [← hsame]
  exact h.flatMap change

theorem sublist_map_of_fixed {imports : List Node} {change : Node → Node}
    (hchange : ∀ item ∈ imports, change item = item) (h : imports.Sublist items) :
    imports.Sublist (items.map change) := by
  rw [List.map_eq_flatMap]
  exact sublist_flatMap_of_fixed (fun item hitem => by rw [hchange item hitem]) h

/-- The imports by name of the stylesheets of a module. -/
def sheetImports (o : Options) (m : Module) : List Node := (sheets m.items).map (sheetImport o)

theorem forall_mem_sheetImports {m : Module} {p : Node → Prop} :
    (∀ item ∈ sheetImports o m, p item) ↔ ∀ source ∈ sheets m.items, p (sheetImport o source) :=
  List.forall_mem_map

theorem isForeign_of_mem_sheetImports (o : Options) (m : Module) :
    ∀ item ∈ sheetImports o m, isForeign item = true :=
  forall_mem_sheetImports.mpr fun _ hsource =>
    isForeign_sheetImport o (isStylesheetSource_of_mem_sheets hsource)

theorem sublist_redirected (hkind : o.kind.isPageLike = true) (m : Module) :
    (sheetImports o m).Sublist (redirected o m).items := by
  have hput := sublist_redirectImports (front o m).items (front o m).state
  rw [options_front, putSheets_eq hkind, sheets_front] at hput
  exact hput

theorem sublist_registered (hkind : o.kind.isPageLike = true) (m : Module) :
    (sheetImports o m).Sublist (registered o m).items := by
  have hforeign := isForeign_of_mem_sheetImports o m
  have hmapped : (sheetImports o m).Sublist
      (mapHooks (redirected o m).items (redirected o m).state).items := by
    rw [mapHooks_items]
    refine sublist_map_of_fixed (forall_mem_sheetImports.mpr fun source hsource => ?_)
      (sublist_redirected hkind m)
    have hnavigation : navigationSource ∈ namedSources := by decide
    rw [mapImport_of_ne (importSource?_sheetImport o (isStylesheetSource_of_mem_sheets hsource)
      hnavigation)]
    exact walk_sheetImport (rewrites_renameHooks _) ((rebuilds_renameHooks _).plain none [] rfl) o
      source
  have hnormal : (sheetImports o m).Sublist
      ((redirected o m).next .mapHooks |>.next .normalizeElements).items := by
    rw [items_next, items_next]
    exact sublist_map_of_fixed (forall_mem_sheetImports.mpr fun source _ =>
      walk_sheetImport rewrites_normalize (rebuilds_normalize.plain none [] rfl) o source) hmapped
  have hshell : ∀ pass ∈ (if o.kind.isLayout then [Pass.fitShell] else []),
      leavesImports pass = true := by
    split
    · decide
    · decide
  have harranged : (sheetImports o m).Sublist (arranged o m).items := by
    have hapi : o.kind ≠ .api := by
      intro hapi
      rw [hapi] at hkind
      cases hkind
    rw [arranged, middlePasses, if_neg hapi, List.foldl_append]
    exact sublist_of_foreignImports_eq hforeign (foreignImports_foldl hshell _) hnormal
  exact sublist_of_foreignImports_eq hforeign (@foreignImports_next .registerRoute rfl _)
    harranged

/-! ### Fonts -/

/-- The head refers to the stylesheets that it links. -/
theorem mem_ofNode_head {h : Head} {names : List String} {name : String}
    (hnames : h.stylesheets = some names) (hname : name ∈ names) :
    ⟨name, false⟩ ∈ ofNode (Build.keyValue "head" h.toNode) false := by
  have hlink : ⟨name, false⟩ ∈ ofNode (stylesheetLink name) false := by
    refine mem_ofNode_of_part rfl List.mem_cons_self ?_
    refine mem_ofNode_of_part rfl (List.mem_cons_of_mem _ (List.mem_singleton_self _)) ?_
    simp [Build.ref, ofNode_mk, roleOf]
  have hlinks : ⟨name, false⟩ ∈
      ofNode (Build.keyValue "links" (Build.array (names.map stylesheetLink))) false := by
    refine mem_ofNode_of_part rfl (List.mem_cons_of_mem _ (List.mem_singleton_self _)) ?_
    exact mem_ofNode_of_part rfl (List.mem_map_of_mem hname) hlink
  refine mem_ofNode_of_part rfl (List.mem_cons_of_mem _ (List.mem_singleton_self _)) ?_
  rw [Head.toNode, hnames]
  -- the body of the arrow function is the object in parentheses
  refine mem_ofNode_of_part rfl (List.mem_cons_of_mem _ (List.mem_cons_of_mem _
    (List.mem_cons_of_mem _ (List.mem_singleton_self _)))) ?_
  refine mem_ofNode_of_part rfl (List.mem_singleton_self _) ?_
  exact mem_ofNode_of_part rfl (List.mem_cons_of_mem _ (List.mem_singleton_self _)) hlinks

/-- **A linked stylesheet is no font.**  Its import is not dropped with those of removed fonts. -/
theorem not_contains_droppedFactories_of_sheet (hfont : o.fontAware = true) (m : Module)
    (h : source ∈ sheets m.items) :
    ¬(droppedFactories (registered o m).items).contains (stylesheetBinding source) = true := by
  have hroot : o.kind = .rootLayout := by
    simp only [Options.fontAware, Bool.and_eq_true, decide_eq_true_eq] at hfont
    exact hfont.1
  intro hdropped
  obtain ⟨taken, before, after, -, hsplit⟩ := exists_split_registered o m
  generalize hitems : (registered o m).items = items at hdropped hsplit
  have hhead : ∃ head, (mapTags (cleanClassNames (removedFonts items))
      (registration (arranged o m).state taken.tags)).head = some head ∧
        head.stylesheets = some ((sheets m.items).map stylesheetBinding) := by
    unfold mapTags registration
    rw [options_arranged, stylesheets_arranged, hroot]
    exact ⟨_, rfl, rfl⟩
  generalize registration (arranged o m).state taken.tags = r at hsplit hhead
  obtain ⟨head, hhead, hlinks⟩ := hhead
  have hcleaned : cleanClassNames (removedFonts items) r.item ∈
      removeInstances (removedFonts items) items := by
    refine List.mem_map_of_mem (List.mem_flatMap.mpr ⟨r.item, ?_, List.mem_singleton_self _⟩)
    rw [hsplit]
    exact List.mem_append_right _ List.mem_cons_self
  rw [clean_item] at hcleaned
  refine (of_contains_droppedFactories hdropped).2 hdropped ⟨stylesheetBinding source, false⟩
    (List.mem_flatMap.mpr ⟨_, hcleaned, mem_ofItem (fun ds hds => by cases hds) ?_⟩) rfl
  exact mem_ofNode_of_property (head_mem_properties hhead)
    (mem_ofNode_head hlinks (List.mem_map_of_mem h))

/-- The removal of fonts leaves the import of a stylesheet alone whose name is not dropped. -/
theorem fontless_sheetImport {removed dropped : NameSet}
    (h : ¬dropped.contains (stylesheetBinding source) = true) (o : Options) :
    fontless removed dropped (sheetImport o source) = [sheetImport o source] := by
  have habsent : cleanClassNames removed .absent = .absent :=
    cleanClassNames_mk (by simp) (by simp) (by simp) none []
  have hcleaned : (dropDeclarators removed (sheetImport o source)).map (cleanClassNames removed) =
      [sheetImport o source] := by
    rw [dropDeclarators_of_none rfl, List.map_singleton,
      walk_sheetImport (rewrites_cleanClassNames removed) habsent]
  have hspecifiers : dropSpecifiers dropped (sheetImport o source) = [sheetImport o source] := by
    rw [sheetImport, Build.defaultImport, Build.str]
    generalize (if o.fontAware then source ++ "?url" else source) = url
    rw [dropSpecifiers]
    split
    · simp [localName?, h]
    · rfl
  unfold fontless
  rw [hcleaned]
  split
  · rfl
  · rw [List.flatMap_singleton, hspecifiers]

theorem sublist_migrate (hkind : o.kind.isPageLike = true) (m : Module) :
    (sheetImports o m).Sublist (migrate o m).module.items := by
  have hregistered := sublist_registered hkind m
  rw [items_migrate]
  split
  · next hfont =>
    rcases eliminateFonts_cases (registered o m).items (registered o m).state with hsame | hleft
    · rwa [hsame]
    · rw [hleft]
      refine sublist_flatMap_of_fixed (forall_mem_sheetImports.mpr fun source hsource => ?_)
        hregistered
      exact fontless_sheetImport (not_contains_droppedFactories_of_sheet hfont m hsource) o
  · exact hregistered

/-! ### The migrated module -/

theorem Head.toNode_of_none {h : Head} (hnone : h.stylesheets = none) :
    h.toNode = Build.thunk (Build.object
      [Build.keyValue "meta" (Build.array (h.tags.map MetaTag.toNode))]) := by
  rw [Head.toNode, hnone]

/-- **Linked stylesheets.**  The head of a top layout links the stylesheets that its module imported
for their effect, each under the name that it is bound to, in order, and the head of any other route
has no links.  In the module of a page, a layout or the like, they are imported by these names, in
order: by their URLs in a top layout where fonts are handled, and else from where they were. -/
theorem linked_stylesheets_are_imported (o : Options) (m : Module) :
    ∃ (r : Registration) (before after : List Node),
      (migrate o m).module.items = before ++ r.item :: after ∧ r.factory = o.factory ∧
      r.component = o.kind.slot?.map (·, (migrate o m).component) ∧
      (o.kind = .rootLayout → ∃ tags, Build.keyValue "head" (Build.thunk (Build.object
        [Build.keyValue "meta" (Build.array tags),
          Build.keyValue "links" (Build.array ((sheets m.items).map fun source =>
            Build.object [Build.keyValue "href" (Build.ref (stylesheetBinding source)),
              Build.keyValue "rel" (Build.str "stylesheet")]))])) ∈ r.properties) ∧
      (o.kind ≠ .rootLayout → (∀ head, r.head = some head → head.stylesheets = none) ∧
        ∀ value, Build.keyValue "head" value ∈ r.properties → ∃ tags,
          value = Build.thunk (Build.object [Build.keyValue "meta" (Build.array tags)])) ∧
      (o.kind.isPageLike = true →
        ((sheets m.items).map fun source => Build.defaultImport (stylesheetBinding source)
          (if o.fontAware then source ++ "?url" else source)).Sublist
            (migrate o m).module.items) := by
  obtain ⟨taken, r, before, after, -, hitems, hfactory, hcomponent, hhead⟩ :=
    exists_registration_migrate o m
  refine ⟨r, before, after, hitems, hfactory, hcomponent, fun hroot => ?_, fun hroot => ?_,
    fun hkind => sublist_migrate hkind m⟩
  · have hhasHead : o.kind.hasHead = true := by rw [hroot]; rfl
    rw [if_pos hhasHead, stylesheets_arranged, if_pos hroot] at hhead
    have hproperty := head_mem_properties hhead
    rw [Head.toNode, headOf, if_pos hroot, if_pos hroot] at hproperty
    dsimp only at hproperty
    rw [List.map_map] at hproperty
    exact ⟨_, hproperty⟩
  · have hnone : ∀ head, r.head = some head → head.stylesheets = none := by
      intro head hsome
      rw [hhead] at hsome
      split at hsome
      · cases hsome
        exact if_neg hroot
      · cases hsome
    refine ⟨hnone, fun value hvalue => ?_⟩
    obtain ⟨head, hsome, rfl⟩ := exists_head_of_mem_properties hvalue
    exact ⟨_, Head.toNode_of_none (hnone head hsome)⟩

end RouteMigration.Migration
