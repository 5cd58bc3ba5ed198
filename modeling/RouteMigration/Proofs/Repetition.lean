import RouteMigration.Proofs.FrontMatter
import RouteMigration.Proofs.HookUses
import RouteMigration.Proofs.ModifiedFlag

/-!
# Steps that are done twice

Most steps look for something that they take away: a directive, a default export, an import of the
old router, a link with an old attribute, an exported handler.  What they put in its place is
nothing of the sort, so the same step right after finds nothing to do, neither in the module nor in
what is known about it.

## Main Definitions

* `Pass.isNormalizing` — the steps that only take something away

## Main Statements

* `ofItem_of_replace` — an import that took the place of another stays
* `isMappable_of_walk` — whether an import can be mapped is not changed by renaming uses
* `Pass.run_run` — a step that is done twice does what it does once
-/

namespace RouteMigration

namespace Migration

variable {items : List Node} {item new : Node} {s : State}

/-! ### The top of the module -/

theorem stripUseClient_stripUseClient (items : List Node) (s : State) :
    (stripUseClient (stripUseClient items s).items s).items = (stripUseClient items s).items := by
  have hitems := stripUseClient_items items s
  have hprologue := prologue_stripUseClient items s
  generalize (stripUseClient items s).items = items' at hitems hprologue ⊢
  have hkept : (keptDirectives items).filter (!Shape.isUseClient ·) = keptDirectives items := by
    rw [keptDirectives, List.filter_filter]
    simp only [Bool.and_self]
  show (items'.take (Shape.prologue items')).filter (!Shape.isUseClient ·) ++
    items'.drop (Shape.prologue items') = items'
  rw [hprologue, hitems, List.take_left, List.drop_left, hkept]

/-! ### The component -/

theorem bindComponent_of_none (h : ∀ item ∈ items, DefaultExport.of? item = none) (s : State) :
    (bindComponent items s).items = items ∧ (bindComponent items s).state = s := by
  have hcases := bindComponent_cases items s
  generalize (bindComponent items s).items = items', (bindComponent items s).state = s' at hcases ⊢
  cases hcases with
  | none => exact ⟨rfl, rfl⟩
  | @reference before after item name hitems hbefore hitem =>
    rw [h item (by simp [hitems])] at hitem
    cases hitem
  | @bound before after item shape bound hitems hbefore hitem =>
    rw [h item (by simp [hitems])] at hitem
    cases hitem

/-- The default export that is bound is gone, and a reference names the component as before. -/
theorem bindComponent_bindComponent (h : (defaultExports items).length ≤ 1) (s : State) :
    let first := bindComponent items s
    (bindComponent first.items first.state).items = first.items ∧
      (bindComponent first.items first.state).state = first.state := by
  intro first
  cases hsplit : splitDefaultExport? items with
  | none =>
    have hnone := splitDefaultExport?_eq_none hsplit
    have hitems : first.items = items := (bindComponent_of_none hnone s).1
    rw [hitems]
    exact bindComponent_of_none hnone _
  | some split =>
    obtain ⟨before, item, shape, after⟩ := split
    obtain ⟨hitems, -, hitem⟩ := splitDefaultExport?_eq_some hsplit
    have hsole : defaultExports items = [item] := by
      have hmem : item ∈ defaultExports items :=
        List.mem_filter.mpr ⟨by simp [hitems], isDefaultExport_of_of? hitem⟩
      obtain ⟨found, hfound⟩ := List.length_eq_one_iff.mp
        (Nat.le_antisymm h (List.length_pos_of_mem hmem))
      rw [hfound] at hmem ⊢
      rw [List.mem_singleton.mp hmem]
    rcases bindComponent_of_sole hsole hitem s with ⟨name, rfl, hsame, -⟩ | ⟨-, -, -, -, hgone, -⟩
    · have hstep : ∀ s, (bindComponent items s).items = items ∧
          (bindComponent items s).state = { s with component? := some name } := by
        intro s
        simp only [bindComponent, hsplit, and_self]
      have hfirst := hstep s
      rw [hfirst.1, hfirst.2]
      exact hstep _
    · refine bindComponent_of_none (fun found hfound => ?_) _
      refine Option.eq_none_iff_forall_ne_some.mpr fun shape hshape => ?_
      have hmem := List.mem_filter.mpr ⟨hfound, isDefaultExport_of_of? hshape⟩
      rw [← defaultExports, hgone] at hmem
      cases hmem

/-! ### Imports -/

/-- **What took the place of an import stays.** -/
theorem ofItem_of_replace {o : Options} {package stylesheet : Option String}
    (h : ImportChange.ofItem o item = .replace new package stylesheet) :
    ImportChange.ofItem o new = .keep := by
  obtain ⟨specifier, source', rfl, hlegacy, hlink⟩ := replace_spec h
  exact of_eq_keep_of_ne_nil hlegacy hlink (List.cons_ne_nil specifier []) o

theorem redirectImports_redirectImports (items : List Node) (s : State) :
    let first := redirectImports items s
    (redirectImports first.items first.state).items = first.items ∧
      (redirectImports first.items first.state).state = first.state := by
  intro first
  refine redirectImports_of_keep fun new hnew => ?_
  obtain ⟨item, hitem, happly⟩ := List.mem_flatMap.mp hnew
  rcases mem_apply_iff.mp happly with ⟨hkeep, rfl⟩ | ⟨package, stylesheet, hreplace⟩
  · exact hkeep
  · exact ofItem_of_replace hreplace

/-! ### Navigation hooks -/

theorem isMapped_iff : (mapImport item).isMapped = true ↔
    ∃ s phase specifiers ss raw attributes, (∀ sp ∈ specifiers, isMappable sp = true) ∧
      item = .importDecl s false phase specifiers (.str ss navigationSource raw) attributes := by
  constructor
  · intro h
    unfold mapImport at h
    split at h
    · split at h
      · cases h
      · next hsource =>
        split at h
        · cases h
        · next hguard =>
          simp only [Bool.or_eq_true, Bool.not_eq_true', not_or, Bool.not_eq_true,
            Bool.not_eq_false, List.all_eq_true] at hguard
          obtain ⟨rfl, hall⟩ := hguard
          obtain rfl : _ = navigationSource := by simpa using hsource
          exact ⟨_, _, _, _, _, _, hall, rfl⟩
    · cases h
  · rintro ⟨s, phase, specifiers, ss, raw, attributes, hall, rfl⟩
    have hguard : ¬(false || !specifiers.all isMappable) = true := by
      simpa using hall
    dsimp only [mapImport]
    rw [if_neg (by simp), if_neg hguard]
    rfl

/-- The name that the first part of a specifier spells. -/
def givenName? : Form → Option String
  | .ident name | .str name _ => some name
  | _ => none

theorem givenName?_eq_some {f : Form} {name : String} :
    givenName? f = some name ↔ f = .ident name ∨ ∃ raw, f = .str name raw := by
  constructor
  · intro h
    unfold givenName? at h
    split at h
    · cases h
      exact Or.inl rfl
    · cases h
      exact Or.inr ⟨_, rfl⟩
    · cases h
  · rintro (rfl | ⟨raw, rfl⟩)
    · rfl
    · rfl

theorem givenName?_walk {walk : Node → Node} (hwalk : Rebuilds isRewritten walk) (n : Node) :
    givenName? (walk n).form = givenName? n.form := by
  refine Option.ext fun name => ?_
  have hident := hwalk.form_eq_iff (f := .ident name) rfl n
  have hstr := fun raw => hwalk.form_eq_iff (f := .str name raw) rfl n
  simp only [givenName?_eq_some, hident, hstr]

/-- A specifier without a name of its own imports its local name. -/
theorem specifierNames?_named (isTypeOnly : Bool) (s : Option Span) (given : Node)
    (ns : Option Span) (name : String) (nps : List Node) :
    specifierNames? (.mk (.importNamed isTypeOnly) s [given, .mk (.ident name) ns nps]) =
      some ((givenName? given.form).getD name, name) := by
  obtain ⟨f, gs, gps⟩ := given
  cases f <;> rfl

theorem exists_of_specifierNames? {sp : Node} {names : String × String}
    (h : specifierNames? sp = some names) : ∃ isTypeOnly s given ns nps,
      sp = .mk (.importNamed isTypeOnly) s [given, .mk (.ident names.2) ns nps] := by
  unfold specifierNames? at h
  split at h
  · cases h
    exact ⟨_, _, _, _, _, rfl⟩
  · cases h
    exact ⟨_, _, _, _, _, rfl⟩
  · cases h
    exact ⟨_, _, _, _, _, rfl⟩
  · cases h

/-- A specifier names after a walk what it named before. -/
theorem specifierNames?_of_walk {walk : Node → Node} (hwalk : Rebuilds isRewritten walk)
    {sp : Node} {names : String × String} (h : specifierNames? (walk sp) = some names) :
    specifierNames? sp = some names ∧ isTypeSpecifier (walk sp) = isTypeSpecifier sp := by
  obtain ⟨isTypeOnly, s, given', ns, nps', heq⟩ := exists_of_specifierNames? h
  rw [heq, specifierNames?_named] at h
  rw [heq]
  obtain ⟨given, name, rfl, rfl, hname⟩ := hwalk.of_eq_pair rfl heq
  obtain ⟨nps, rfl, -⟩ := hwalk.of_eq rfl hname
  rw [givenName?_walk hwalk] at h
  exact ⟨(specifierNames?_named ..).trans h, rfl⟩

/-- What can be mapped after a walk could have been mapped before it. -/
theorem isMappable_of_walk {walk : Node → Node} (hwalk : Rebuilds isRewritten walk) {sp : Node}
    (h : isMappable (walk sp) = true) : isMappable sp = true := by
  unfold isMappable at h
  split at h
  · next imported name hnames =>
    obtain ⟨hnames, htype⟩ := specifierNames?_of_walk hwalk hnames
    rw [isMappable, hnames, ← htype]
    exact h
  · cases h

theorem isMapped_of_walk {walk : Node → Node} (hwalk : Rebuilds isRewritten walk)
    (h : (mapImport (walk item)).isMapped = true) : (mapImport item).isMapped = true := by
  obtain ⟨s, phase, specifiers, ss, raw, attributes, hall, heq⟩ := isMapped_iff.mp h
  have hsource : Shape.importSource? (walk item) = some navigationSource := by
    rw [heq]
    rfl
  rw [importSource?_walk hwalk] at hsource
  obtain ⟨s', t, p, specifiers', ss', raw', a, rfl⟩ := importSource?_eq_some.mp hsource
  rw [walk_importDecl hwalk] at heq
  obtain ⟨rfl, rfl⟩ : t = false ∧ specifiers'.map walk = specifiers := by
    simp only [Node.mk.injEq, List.cons.injEq, Form.importDecl.injEq, true_and] at heq
    exact ⟨heq.1.1, heq.2.2.1⟩
  refine isMapped_iff.mpr ⟨s', p, specifiers', ss', raw', a, fun sp hsp => ?_, rfl⟩
  exact isMappable_of_walk hwalk (hall _ (List.mem_map_of_mem hsp))

/-- An import that was mapped comes from another module now, and one that was kept is kept again. -/
theorem isMapped_walk_apply {walk : Node → Node} (hwalk : Rebuilds isRewritten walk)
    (item : Node) : (mapImport (walk ((mapImport item).apply item))).isMapped = false := by
  refine Bool.eq_false_iff.mpr fun h => ?_
  have hmapped := isMapped_of_walk hwalk h
  obtain ⟨s, phase, specifiers, ss, raw, attributes, -, heq⟩ := isMapped_iff.mp hmapped
  have hkept := (importSource?_mapImport_iff item).mp (by rw [heq]; rfl)
  cases hmap : mapImport item with
  | none =>
    rw [hmap] at hkept
    cases hkept
  | kept =>
    rw [hmap] at hmapped
    change (mapImport item).isMapped = true at hmapped
    rw [hmap] at hmapped
    cases hmapped
  | mapped new renames =>
    rw [hmap] at hkept
    cases hkept

theorem mapHooks_mapHooks (items : List Node) (s : State) :
    (mapHooks (mapHooks items s).items s).items = (mapHooks items s).items := by
  refine mapHooks_of_unmapped (fun new hnew => ?_) s
  rw [mapHooks_items] at hnew
  obtain ⟨item, -, rfl⟩ := List.mem_map.mp hnew
  exact isMapped_walk_apply (rewrites_renameHooks _) item

/-! ### Elements and handlers -/

theorem normalizeElements_normalizeElements (items : List Node) (s : State) :
    (normalizeElements (normalizeElements items s).items s).items =
      (normalizeElements items s).items :=
  map_eq_self (List.forall_mem_map.mpr fun item _ => normalize_normalize item)

/-- A hidden item exports no handlers. -/
theorem exportedHandlers_hideHandlers (item : Node) :
    exportedHandlers (hideHandlers item) = [] := by
  by_cases h : exportedHandlers item = []
  · rw [hideHandlers_of_none h, h]
  · rw [hideHandlers, if_neg (by simpa using h)]
    unfold exportedHandlers at h
    split at h
    · next d =>
      show exportedHandlers d = []
      unfold exportedHandlers
      split
      · exact absurd rfl h
      · rfl
    · exact absurd rfl h

theorem collectHandlers_collectHandlers (items : List Node) (s : State) :
    let first := collectHandlers items s
    (collectHandlers first.items first.state).items = first.items ∧
      (collectHandlers first.items first.state).state = first.state := by
  have hnone : ∀ item ∈ items.map hideHandlers, exportedHandlers item = [] :=
    List.forall_mem_map.mpr fun item _ => exportedHandlers_hideHandlers item
  constructor
  · exact map_eq_self fun item hitem => hideHandlers_of_none (hnone item hitem)
  · simp [collectHandlers, List.flatMap_eq_nil_iff.mpr hnone]

end Migration

/-- The steps that put a form of the new router in place of one of the old, and leave the rest. -/
def Pass.isNormalizing : Pass → Bool
  | stripUseClient | bindComponent | redirectImports | mapHooks | normalizeElements
  | collectHandlers => true
  | _ => false

/-- **Doing a step twice.**  Right after itself a normalizing step finds nothing to do: it leaves
the items and all that is known about them as they are.  Where the component is bound there may be
only one default export, since each time the first one is bound. -/
theorem Pass.run_run (pass : Pass) (items : List Node) (s : State)
    (hpass : pass.isNormalizing = true)
    (hitems : pass = .bindComponent → (Migration.defaultExports items).length ≤ 1) :
    let first := pass.run items s
    (pass.run first.items first.state).items = first.items ∧
      (pass.run first.items first.state).state = first.state := by
  cases pass with
  | stripUseClient => exact ⟨Migration.stripUseClient_stripUseClient items s, rfl⟩
  | bindComponent => exact Migration.bindComponent_bindComponent (hitems rfl) s
  | redirectImports => exact Migration.redirectImports_redirectImports items s
  | mapHooks => exact ⟨Migration.mapHooks_mapHooks items s, rfl⟩
  | normalizeElements => exact ⟨Migration.normalizeElements_normalizeElements items s, rfl⟩
  | collectHandlers => exact Migration.collectHandlers_collectHandlers items s
  | importRouter => cases hpass
  | fitShell => cases hpass
  | registerRoute => cases hpass
  | eliminateFonts => cases hpass

/-- The items of `export default function Page() {}`. -/
def defaultPage : List Node :=
  [.exportDefaultDecl none (.functionExpr none (.ident none "Page")
    (.function none false false .absent [] .absent (.mk .block none [])))]

/-- The page is bound the first time, and that is all. -/
theorem Pass.run_run_bindComponent_defaultPage :
    let s : State := { options := { kind := .page } }
    let first := Pass.bindComponent.run defaultPage s
    (Migration.defaultExports defaultPage).length ≤ 1 ∧ first.isModified = true ∧
      (Pass.bindComponent.run first.items first.state).items = first.items ∧
      (Pass.bindComponent.run first.items first.state).state = first.state := by
  intro s first
  exact ⟨by decide, by decide,
    Pass.run_run .bindComponent defaultPage s rfl fun _ => by decide⟩

end RouteMigration
