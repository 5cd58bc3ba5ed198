import Mathlib.Data.List.Flatten
import Mathlib.Data.List.Perm.Subperm
import RouteMigration.Proofs.FrontMatter
import RouteMigration.Proofs.HookRenames

/-!
# What a migration does not touch

Each step looks for items of its own sort.  An item that none of them looks for passes through the
migration unchanged, and such items stay in order, except that the statement that binds the
component may be moved up to the registration.

## Main Definitions

* `isUnrelated` — no step changes the item
* `unrelated` — the items of a module that no step has to do with

## Main Statements

* `sublist_eraseP_flatMap` — a step that treats items one by one keeps the order of those it keeps
* `Placed.carries` — what the registration of a route does to the order of items
* `unrelated_items_pass_through` — unrelated items pass through

## Design Notes

Only the first statement that exports metadata is registered, so it is taken out of the account by
position, with `eraseP`, all the way from the first step to the registration.
-/

namespace RouteMigration.Migration

variable {items v : List Node} {item : Node}

/-! ### Unrelated items -/

/-- The item exports a function or an arrow function as the component of the module. -/
def exportsComponent (kind : ModuleKind) (item : Node) : Bool :=
  kind ≠ .api &&
    match DefaultExport.of? item with
    | some (.function _) | some .arrow => true
    | _ => false

/-- The item exports metadata that can be registered. -/
def exportsMetadata (kind : ModuleKind) (item : Node) : Bool :=
  kind.hasHead && (Shape.metadata? item).isSome

/-- No step changes the item: it is no import and, in an API route, exports no request handlers;
in other modules it mentions no hook and has neither links nor images. -/
def isUnrelated (kind : ModuleKind) (hooks : NameSet) (item : Node) : Bool :=
  !Shape.isImport item &&
    if kind = .api then (exportedHandlers item).isEmpty
    else !mentions hooks item && (ElementOutline.all item).all (·.known.isNone)

/-- The items of a module that no step has to do with: neither the directives for the browser, nor
the component or the first metadata that it exports, nor what a step changes. -/
def unrelated (o : Options) (items : List Node) : List Node :=
  let kept := keptDirectives items ++ items.drop (Shape.prologue items)
  ((kept.eraseP (exportsComponent o.kind)).eraseP (exportsMetadata o.kind)).filter
    (isUnrelated o.kind (mappedHooks items))

theorem isUnrelated_of_mem {o : Options} (h : item ∈ unrelated o items) :
    isUnrelated o.kind (mappedHooks items) item = true :=
  (List.mem_filter.mp h).2

theorem importSource?_of_unrelated {kind : ModuleKind} {hooks : NameSet}
    (h : isUnrelated kind hooks item = true) : Shape.importSource? item = none := by
  have himport := (Bool.and_eq_true_iff.mp h).1
  simpa [Shape.isImport] using himport

theorem isUnrelated_api {hooks : NameSet} (h : isUnrelated .api hooks item = true) :
    exportedHandlers item = [] := by
  simpa [isUnrelated] using (Bool.and_eq_true_iff.mp h).2

theorem isUnrelated_page {kind : ModuleKind} {hooks : NameSet} (hkind : kind ≠ .api)
    (h : isUnrelated kind hooks item = true) :
    mentions hooks item = false ∧ ∀ e ∈ ElementOutline.all item, e.known = none := by
  have hpage := (Bool.and_eq_true_iff.mp h).2
  rw [if_neg hkind, Bool.and_eq_true, List.all_eq_true] at hpage
  exact ⟨by simpa using hpage.1, fun e he => by simpa using hpage.2 e he⟩

/-! ### Steps that treat items one by one -/

/-- What becomes of an item satisfies `p` if the item does, and is then one item. -/
def Respects (p : Node → Bool) (keep : Node → List Node) : Prop :=
  ∀ item, (p item = true → ∃ n, keep item = [n] ∧ p n = true) ∧
    (p item = false → ∀ n ∈ keep item, p n = false)

variable {p : Node → Bool} {keep : Node → List Node}

theorem eraseP_flatMap (h : Respects p keep) (items : List Node) :
    (items.flatMap keep).eraseP p = (items.eraseP p).flatMap keep := by
  induction items with
  | nil => rfl
  | cons item rest ih =>
    cases hitem : p item with
    | true =>
      obtain ⟨n, hkeep, hn⟩ := (h item).1 hitem
      rw [List.flatMap_cons, hkeep, List.singleton_append, List.eraseP_cons_of_pos hn,
        List.eraseP_cons_of_pos hitem]
    | false =>
      have hnew : ∀ n ∈ keep item, ¬p n = true := by
        intro n hn
        simp [(h item).2 hitem n hn]
      rw [List.flatMap_cons, List.eraseP_append_right _ hnew, ih,
        List.eraseP_cons_of_neg (by simp [hitem]), List.flatMap_cons]

/-- **Steps that treat items one by one.**  The items that such a step keeps stay in order. -/
theorem sublist_eraseP_flatMap (h : Respects p keep) (hkeep : ∀ item ∈ v, keep item = [item])
    (hv : v.Sublist (items.eraseP p)) : v.Sublist ((items.flatMap keep).eraseP p) := by
  have hsame : v.flatMap keep = v := by
    rw [List.flatMap_congr hkeep, List.flatMap_singleton']
  rw [eraseP_flatMap h, ← hsame]
  exact hv.flatMap keep

theorem sublist_eraseP_map {change : Node → Node} (h : ∀ item, p (change item) = p item)
    (hchange : ∀ item ∈ v, change item = item) (hv : v.Sublist (items.eraseP p)) :
    v.Sublist ((items.map change).eraseP p) := by
  have hrespects : Respects p fun item => [change item] := by
    intro item
    refine ⟨fun hitem => ⟨_, rfl, (h item).trans hitem⟩, fun hitem n hn => ?_⟩
    rw [List.mem_singleton.mp hn, h item, hitem]
  rw [List.map_eq_flatMap]
  exact sublist_eraseP_flatMap hrespects (fun item hitem => by rw [hchange item hitem]) hv

/-! ### Metadata -/

variable {kind : ModuleKind}

theorem exportsMetadata_of_isPreamble (h : isPreamble item = true) :
    exportsMetadata kind item = false := by
  simp [exportsMetadata, metadata?_of_inert (isInert_of_isPreamble h)]

theorem exportsMetadata_walk {walk : Node → Node} (hwalk : Keeps keptOf walk) (item : Node) :
    exportsMetadata kind (walk item) = exportsMetadata kind item := by
  have hmetadata : (Shape.metadata? (walk item)).isSome = (Shape.metadata? item).isSome := by
    have hsketch := congrArg Option.isSome (metadata?_sketchOf item)
    have hsketch' := congrArg Option.isSome (metadata?_sketchOf (walk item))
    rw [sketchOf_walk hwalk, hsketch] at hsketch'
    simpa using hsketch'.symm
  rw [exportsMetadata, exportsMetadata, hmetadata]

theorem exportsMetadata_mapImport (item : Node) :
    exportsMetadata kind ((mapImport item).apply item) = exportsMetadata kind item := by
  rcases mapImport_cases item with hsame | ⟨hitem, hnew⟩
  · rw [hsame]
  · rw [exportsMetadata_of_isPreamble hitem, exportsMetadata_of_isPreamble hnew]

theorem respects_redirect (o : Options) :
    Respects (exportsMetadata kind) fun item => (ImportChange.ofItem o item).apply item := by
  intro item
  dsimp only
  rcases ofItem_cases o item with hkeep | ⟨hitem, hnew⟩
  · rw [hkeep]
    exact ⟨fun h => ⟨item, rfl, h⟩, fun h n hn => by rwa [List.mem_singleton.mp hn]⟩
  · refine ⟨fun h => ?_, fun _ n hn => exportsMetadata_of_isPreamble (hnew n hn)⟩
    rw [exportsMetadata_of_isPreamble hitem] at h
    cases h

/-! ### The steps before the registration -/

/-- The items are left, in this order, without the metadata. -/
def Carries (kind : ModuleKind) (v items : List Node) : Prop :=
  v.Sublist (items.eraseP (exportsMetadata kind))

theorem carries_redirectImports (h : Carries kind v items)
    (hv : ∀ item ∈ v, Shape.importSource? item = none) (s : State) :
    Carries kind v (redirectImports items s).items :=
  sublist_eraseP_flatMap (respects_redirect s.options)
    (fun item hitem => apply_ofItem_of_none (hv item hitem) s.options) h

theorem carries_mapHooks (h : Carries kind v items) {hooks : NameSet}
    (hhooks : Covers hooks (hookRenames items))
    (hv : ∀ item ∈ v, Shape.importSource? item = none ∧ mentions hooks item = false) (s : State) :
    Carries kind v (mapHooks items s).items := by
  rw [mapHooks_items]
  refine sublist_eraseP_map (fun item => ?_) (fun item hitem => ?_) h
  · rw [exportsMetadata_walk (keeps_renameHooks _), exportsMetadata_mapImport]
  · obtain ⟨himport, hmentions⟩ := hv item hitem
    rw [mapImport_of_ne (by simp [himport])]
    exact renameHooks_eq_self hhooks hmentions

theorem carries_normalizeElements (h : Carries kind v items)
    (hv : ∀ item ∈ v, ∀ e ∈ ElementOutline.all item, e.known = none) (s : State) :
    Carries kind v (normalizeElements items s).items :=
  sublist_eraseP_map (fun item => exportsMetadata_walk keeps_normalize item)
    (fun item hitem => normalize_eq_self (hv item hitem)) h

theorem carries_collectHandlers (h : Carries .api v items)
    (hv : ∀ item ∈ v, exportedHandlers item = []) (s : State) :
    Carries .api v (collectHandlers items s).items := by
  refine sublist_eraseP_map (fun item => rfl) (fun item hitem => ?_) h
  rw [hideHandlers, hv item hitem]
  rfl

theorem exportsComponent_eq_true {shape : DefaultExport} (hkind : kind ≠ .api)
    (h : DefaultExport.of? item = some shape) (hshape : ∀ name, shape ≠ .reference name) :
    exportsComponent kind item = true := by
  cases shape with
  | function name => simp [exportsComponent, h, hkind]
  | arrow => simp [exportsComponent, h, hkind]
  | reference name => exact absurd rfl (hshape name)

/-- The component that is bound is the first that is exported, so the other items stay. -/
theorem eraseP_sublist_bindComponent (hkind : kind ≠ .api) (items : List Node) (s : State) :
    (items.eraseP (exportsComponent kind)).Sublist (bindComponent items s).items := by
  have hcases := bindComponent_cases items s
  generalize (bindComponent items s).items = items', (bindComponent items s).state = s' at hcases ⊢
  cases hcases with
  | none => exact List.eraseP_sublist
  | reference => exact List.eraseP_sublist
  | @bound before after found shape bound heq hbefore hfound hshape hbound =>
    have hother : ∀ item ∈ before, ¬exportsComponent kind item = true := by
      intro item hitem
      simp [exportsComponent, hbefore item hitem]
    rw [heq, List.eraseP_append_right _ hother,
      List.eraseP_cons_of_pos (exportsComponent_eq_true hkind hfound hshape)]
    exact (List.sublist_cons_self _ _).append_left before

/-! ### The registration -/

/-- Nothing that is carried is taken out with the metadata. -/
theorem Taken.sublist {index : Nat} {taken : List Node} (h : Taken kind items index taken)
    (hv : Carries kind v items) : v.Sublist taken := by
  cases h with
  | leading => exact hv.trans List.eraseP_sublist
  | @metadata before after properties found i hkind heq hbefore hfound =>
    have hother : ∀ item ∈ before, ¬exportsMetadata kind item = true := by
      intro item hitem
      simp [exportsMetadata, hbefore item hitem]
    have hfirst : exportsMetadata kind found = true := by
      simp [exportsMetadata, hkind, hfound]
    rw [Carries, heq, List.eraseP_append_right _ hother, List.eraseP_cons_of_pos hfirst] at hv
    exact hv.trans ((List.sublist_append_right _ _).append_left before)

/-- Items that stay in a list, and stay in order except for one at most, which gives a value to the
name. -/
def KeepsOrder (name : String) (v result : List Node) : Prop :=
  ∃ before moved after, v = before ++ moved ++ after ∧ moved.length ≤ 1 ∧
    (∀ item ∈ moved, (soleValue? name item).isSome = true) ∧ (before ++ after).Sublist result

theorem KeepsOrder.of_sublist {name : String} {result : List Node} (h : v.Sublist result) :
    KeepsOrder name v result :=
  ⟨v, [], [], by simp, by simp, by simp, by simpa using h⟩

/-- **The registration in place.**  Items that were there stay there, and only the one that gives
the component its value can be moved. -/
theorem Placed.carries {name : String} {new : Node} {front rest result : List Node}
    (h : Placed name new front rest result) (hv : v.Sublist (front ++ rest)) :
    v.Subperm result ∧ KeepsOrder name v result := by
  constructor
  · have hnew : (front ++ rest).Subperm (new :: (front ++ rest)) :=
      (List.sublist_cons_self new _).subperm
    exact (hv.subperm.trans hnew).trans h.perm.symm.subperm
  · cases h with
    | here => exact .of_sublist (hv.trans ((List.sublist_cons_self new rest).append_left front))
    | @movedDown pre post item value =>
      refine .of_sublist (hv.trans ?_)
      rw [← List.append_assoc]
      exact ((List.sublist_cons_self new post).cons_cons item).append_left _
    | @movedUp pre post item value hpre hitem hlazy =>
      have hrest : (front ++ (pre ++ post)).Sublist (front ++ item :: new :: (pre ++ post)) :=
        (((List.sublist_cons_self new _).trans (List.sublist_cons_self item _))).append_left front
      rw [← List.append_assoc] at hv
      -- either the statement that is moved is among the items, or it is not
      obtain ⟨before, after, rfl, hbefore, hafter⟩ := List.sublist_append_iff.mp hv
      rcases List.sublist_cons_iff.mp hafter with hpost | ⟨after', rfl, hpost⟩
      · refine .of_sublist (List.Sublist.trans ?_ hrest)
        rw [← List.append_assoc]
        exact hbefore.append hpost
      · refine ⟨before, [item], after', by simp, by simp, ?_, List.Sublist.trans ?_ hrest⟩
        · simp [hitem]
        · rw [← List.append_assoc]
          exact hbefore.append hpost

/-! ### All the steps -/

/-- The first two steps leave unrelated items alone. -/
theorem sublist_importRouter (o : Options) (items : List Node) :
    (unrelated o items).Sublist
      (((importRouter (stripUseClient items { options := o }).items { options := o }).items.eraseP
        (exportsComponent o.kind)).eraseP (exportsMetadata o.kind)) := by
  rw [importRouter_stripUseClient]
  refine List.filter_sublist.trans (List.Sublist.eraseP (List.Sublist.eraseP ?_))
  exact (List.sublist_cons_self _ _).append_left _

/-- The steps of a page between the one that binds the component and its registration leave
unrelated items alone. -/
theorem carries_between {o : Options} (hkind : o.kind ≠ .api) (hlayout : o.kind.isLayout = false)
    {hooks : NameSet} {t : Step} (h : Carries o.kind v t.items)
    (hhooks : Covers hooks (hookRenames t.items))
    (hv : ∀ item ∈ v, isUnrelated o.kind hooks item = true) :
    Carries o.kind v ((betweenPasses o).foldl Step.next t).items := by
  have himport := fun item hitem => importSource?_of_unrelated (hv item hitem)
  have hpage := fun item hitem => isUnrelated_page hkind (hv item hitem)
  have hpasses : betweenPasses o = [.redirectImports, .mapHooks, .normalizeElements] := by
    simp [betweenPasses, hlayout]
  rw [hpasses, List.foldl_cons, List.foldl_cons, List.foldl_cons, List.foldl_nil]
  -- what is carried to the next step, and the hooks that it will rename
  have hredirected : Carries o.kind v (t.next .redirectImports).items :=
    carries_redirectImports h himport t.state
  have hrenames : hookRenames (t.next .redirectImports).items = hookRenames t.items :=
    hookRenames_redirectImports t.items t.state
  rw [← hrenames] at hhooks
  generalize t.next .redirectImports = t at hredirected hhooks ⊢
  have hmapped : Carries o.kind v (t.next .mapHooks).items :=
    carries_mapHooks hredirected hhooks
      (fun item hitem => ⟨himport item hitem, (hpage item hitem).1⟩) t.state
  generalize t.next .mapHooks = t at hmapped ⊢
  exact carries_normalizeElements hmapped (fun item hitem => (hpage item hitem).2) t.state

/-- The steps of a page before its registration leave unrelated items alone. -/
theorem carries_prepared {o : Options} (hkind : o.kind ≠ .api) (hlayout : o.kind.isLayout = false)
    (m : Module) : Carries o.kind (unrelated o m.items) (prepared o m).items := by
  rw [prepared_eq]
  refine carries_between hkind hlayout ?_ ?_ fun item hitem => isUnrelated_of_mem hitem
  · rw [items_boundStep]
    exact (sublist_importRouter o m.items).trans (eraseP_sublist_bindComponent hkind _ _).eraseP
  · rw [hookRenames_boundStep]
    exact covers_mappedHooks m.items

theorem carries_importedItems {o : Options} (hkind : o.kind = .api) (m : Module) :
    Carries .api (unrelated o m.items) ((importedItems o m).map hideHandlers) := by
  let start : State := { options := o }
  have hunrelated : ∀ item ∈ unrelated o m.items, Shape.importSource? item = none ∧
      exportedHandlers item = [] := by
    intro item hitem
    have h := isUnrelated_of_mem hitem
    rw [hkind] at h
    exact ⟨importSource?_of_unrelated h, isUnrelated_api h⟩
  have hfirst : Carries .api (unrelated o m.items)
      (importRouter (stripUseClient m.items start).items start).items := by
    have hsublist := sublist_importRouter o m.items
    rw [hkind] at hsublist
    exact hsublist.trans List.eraseP_sublist.eraseP
  have himported : Carries .api (unrelated o m.items) (importedItems o m) :=
    carries_redirectImports hfirst (fun item hitem => (hunrelated item hitem).1) start
  exact carries_collectHandlers himported (fun item hitem => (hunrelated item hitem).2) start

/-- **Unrelated items pass through.**  Every unrelated item of a page, a loading or error component
or an API route is there in the end, as it was, and as often.  They stay in order, except that the
statement that gives the component its value may be moved. -/
theorem unrelated_items_pass_through (o : Options) (h : o.kind.isLayout = false) (m : Module) :
    (unrelated o m.items).Subperm (migrate o m).module.items ∧
      ∃ before moved after, unrelated o m.items = before ++ moved ++ after ∧
        moved.length ≤ 1 ∧ (o.kind = .api → moved = []) ∧
        (∀ item ∈ moved, (soleValue? (migrate o m).component item).isSome = true) ∧
        (before ++ after).Sublist (migrate o m).module.items := by
  by_cases hkind : o.kind = .api
  · have hcarries := (carries_importedItems hkind m).trans List.eraseP_sublist
    obtain ⟨r, hitems, -, -⟩ := migrate_of_api hkind m
    generalize (importedItems o m).map hideHandlers = items at hcarries hitems
    have hsublist : (unrelated o m.items).Sublist (migrate o m).module.items := by
      rw [hitems]
      conv at hcarries => rw [← List.take_append_drop (Shape.leading items) items]
      exact hcarries.trans ((List.sublist_cons_self _ _).append_left _)
    exact ⟨hsublist.subperm, unrelated o m.items, [], [], by simp, by simp, fun _ => rfl, by simp,
      by simpa using hsublist⟩
  · have hcarries := carries_prepared hkind h m
    have hoptions := options_prepared o m
    obtain ⟨hcomponent, hitems⟩ := migrate_of_page hkind m
    have hfont : o.fontAware = false := by
      cases hroot : o.kind <;> simp_all [Options.fontAware, ModuleKind.isLayout]
    rw [if_neg (by simp [hfont])] at hitems
    obtain ⟨r, index, taken, htaken, -, hplaced⟩ :=
      registerRoute_cases (prepared o m).items (prepared o m).state
    rw [hoptions] at htaken hplaced
    rw [if_neg hkind, ← hitems, ← hcomponent] at hplaced
    have hsublist := htaken.sublist hcarries
    rw [← List.take_append_drop index taken] at hsublist
    obtain ⟨hsubperm, before, moved, after, hsplit, hlength, hmoved, hrest⟩ :=
      hplaced.carries hsublist
    exact ⟨hsubperm, before, moved, after, hsplit, hlength, fun hapi => absurd hapi hkind, hmoved,
      hrest⟩

/-- `export const metadata = {};` before `const a = 1;`, the component and its export. -/
def describedPage : Module where
  items :=
    [Build.exported (Build.constDecl "metadata" (Build.object [])),
      Build.constDecl "a" (.mk (.num "1") none []),
      Build.constDecl "Home" (Build.thunk (.mk .null none [])),
      .exportDefaultExpr none (Build.ref "Home")]

/-- All but the metadata passes through; the component is moved before `a`. -/
theorem describedPage_passes_through :
    ({} : Options).kind.isLayout = false ∧
      unrelated {} describedPage.items =
        [Build.constDecl "a" (.mk (.num "1") none []),
          Build.constDecl "Home" (Build.thunk (.mk .null none [])),
          .exportDefaultExpr none (Build.ref "Home")] ∧
      (unrelated {} describedPage.items).Subperm (migrate {} describedPage).module.items ∧
      ∃ before moved after, unrelated {} describedPage.items = before ++ moved ++ after ∧
        moved.length ≤ 1 ∧ (({} : Options).kind = .api → moved = []) ∧
        (∀ item ∈ moved,
          (soleValue? (migrate {} describedPage).component item).isSome = true) ∧
        (before ++ after).Sublist (migrate {} describedPage).module.items :=
  ⟨rfl, rfl, unrelated_items_pass_through {} rfl describedPage⟩

end RouteMigration.Migration
