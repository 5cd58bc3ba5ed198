import RouteMigration.Proofs.FrontMatter
import RouteMigration.Proofs.ModuleNames
import RouteMigration.Proofs.NormalPages

/-!
# Elements of redirected components

Imports are redirected by where they import from, and elements are changed by the name in their tag.
A module may give a component any name, so the two agree only where the name is the usual one.

## Main Definitions

* `Redirects` — an import that is redirected, and the name of its component
* `elementPage` — a page with one element of an imported component

## Main Statements

* `mem_migrate_of_page` — what no step of a page looks for stays
* `redirected_elements_change_iff` — the names under which the elements of a component are changed
-/

namespace RouteMigration.Migration

variable {items : List Node} {item n : Node} {name : String}

/-- The item imports a component from a source by default, under a name, and is redirected. -/
def Redirects (o : Options) (source name : String) (item : Node) : Prop :=
  Shape.importSource? item = some source ∧ defaultImportName? item = some name ∧
    ∃ new package stylesheet, ImportChange.ofItem o item = .replace new package stylesheet

/-! ### What stays -/

theorem mem_bindComponent (hitem : item ∈ items) (hcomponent : DefaultExport.of? item = none)
    (s : State) : item ∈ (bindComponent items s).items := by
  have hcases := bindComponent_cases items s
  generalize (bindComponent items s).items = items', (bindComponent items s).state = s' at hcases ⊢
  cases hcases with
  | none => exact hitem
  | reference => exact hitem
  | @bound before after found shape bound heq hbefore hfound hshape hbound =>
    rw [heq, List.mem_append, List.mem_cons] at hitem
    rw [List.mem_append, List.mem_cons]
    rcases hitem with hitem | rfl | hitem
    · exact Or.inl hitem
    · rw [hcomponent] at hfound
      cases hfound
    · exact Or.inr (Or.inr hitem)

theorem mem_boundStep {m : Module} (o : Options) (hitem : item ∈ m.items)
    (hdirective : Shape.directive? item = none) (hcomponent : DefaultExport.of? item = none) :
    item ∈ (boundStep o m).items := by
  rw [items_boundStep]
  refine mem_bindComponent ?_ hcomponent _
  rw [importRouter_stripUseClient]
  rw [← List.take_append_drop (Shape.prologue m.items) m.items, List.mem_append] at hitem
  rcases hitem with hitem | hitem
  · have hsome := directive_of_mem_prologue hitem
    rw [hdirective] at hsome
    cases hsome
  · exact List.mem_append_right _ (List.mem_cons_of_mem _ hitem)

/-- **What stays on a page.**  An item of a page that is no directive and no import, that exports
neither the component nor metadata, that uses none of the mapped hooks and is normal, is there in
the end as it was. -/
theorem mem_migrate_of_page {o : Options} (hkind : o.kind ≠ .api)
    (hlayout : o.kind.isLayout = false) {m : Module} (hitem : item ∈ m.items)
    (hdirective : Shape.directive? item = none) (himport : Shape.importSource? item = none)
    (hcomponent : DefaultExport.of? item = none) (hmetadata : Shape.metadata? item = none)
    (hhooks : mentions (mappedHooks m.items) item = false) (hnormal : isNormal item = true) :
    item ∈ (migrate o m).module.items := by
  have hprepared : item ∈ (prepared o m).items := by
    have hpasses : betweenPasses o = [.redirectImports, .mapHooks, .normalizeElements] := by
      simp [betweenPasses, hlayout]
    have hbound := mem_boundStep o hitem hdirective hcomponent
    have hrenames := hookRenames_boundStep o m
    rw [prepared_eq, hpasses]
    generalize boundStep o m = t at hbound hrenames
    have hredirected : item ∈ (t.next .redirectImports).items :=
      List.mem_flatMap.mpr ⟨item, hbound, by rw [apply_ofItem_of_none himport, List.mem_singleton]⟩
    have hmapped : item ∈ ((t.next .redirectImports).next .mapHooks).items := by
      have hcovers :
          Covers (mappedHooks m.items) (hookRenames (t.next .redirectImports).items) := by
        show Covers _ (hookRenames (redirectImports t.items t.state).items)
        rw [hookRenames_redirectImports, hrenames]
        exact covers_mappedHooks m.items
      show item ∈ (mapHooks (t.next .redirectImports).items
        (t.next .redirectImports).state).items
      rw [mapHooks_items]
      refine List.mem_map.mpr ⟨item, hredirected, ?_⟩
      rw [mapImport_of_ne (by simp [himport])]
      exact renameHooks_eq_self hcovers hhooks
    exact List.mem_map.mpr ⟨item, hmapped, normalize_of_isNormal hnormal⟩
  have hoptions := options_prepared o m
  have hfont : o.fontAware = false := by
    cases hroot : o.kind <;> simp_all [Options.fontAware, ModuleKind.isLayout]
  obtain ⟨-, hitems⟩ := migrate_of_page hkind m
  rw [hitems, if_neg (by simp [hfont])]
  obtain ⟨r, index, taken, htaken, -, hperm⟩ :=
    exists_perm_registerRoute (prepared o m).items (prepared o m).state
  exact hperm.symm.subset (List.mem_cons_of_mem _ (htaken.mem hprepared hmetadata))

/-! ### An element of a component -/

/-- `import name from "source";` and the statement `<name key="value"/>;`. -/
def elementPage (source name key value : String) : Module where
  items := [Build.defaultImport name source, .exprStmt none (attributed name key value)]

variable {key value : String}

/-- The element is normal unless its attribute is one that has to change. -/
theorem isNormal_attributed (hlink : name = "Link" → key ≠ "href")
    (himage : name = "Image" → key ≠ "priority") : isNormal (attributed name key value) = true := by
  have hattr : isNormal (Build.stringAttr key value) = true := by
    simp [Build.stringAttr, Build.str, isNormal_iff_parts]
  have hopening : isNormal (.opening none true (Build.tag name) .absent
      [Build.stringAttr key value]) = true := by
    simp [Build.tag, isNormal_iff_parts, hattr]
  have hroot : isNormalElement (attributed name key value) = true := by
    have hname : ∀ other, key ≠ other → isAttr other (Build.stringAttr key value) = false := by
      intro other hne
      simpa [isAttr, Build.stringAttr, Shape.attrName?] using hne
    rw [isNormalElement_iff]
    rintro _ _ _ _ _ _ _ _ _ _ ⟨⟩
    simp only [List.forall_mem_singleton]
    exact ⟨fun h => hname _ (hlink h), fun h => by simpa using hname _ (himage h)⟩
  refine (isNormal_mk (by simp) none _).mpr ⟨hroot, ?_⟩
  simpa [isNormal_iff_parts] using hopening

/-- Then it is there in the end as it was. -/
theorem attributed_mem_elements (source : String) (hlink : name = "Link" → key ≠ "href")
    (himage : name = "Image" → key ≠ "priority") : attributed name key value ∈
      (migrate {} (elementPage source name key value)).module.items.flatMap elements := by
  have hnormal : isNormal (.exprStmt none (attributed name key value)) = true := by
    simpa [isNormal_iff_parts] using isNormal_attributed hlink himage
  refine List.mem_flatMap.mpr ⟨_, mem_migrate_of_page (by decide) rfl (List.mem_cons_of_mem _
    (List.mem_singleton_self _)) rfl rfl rfl rfl rfl hnormal, ?_⟩
  rw [elements_parts (by simp) (by simp), List.flatMap_singleton, attributed,
    elements_eq (by simp [Node.form])]
  exact List.mem_append_left _ (List.mem_singleton_self _)

theorem isElement_attributed (name key value : String) :
    Shape.isElement name (attributed name key value) = true := beq_self_eq_true _

theorem isAttr_attributed (name key value : String) :
    ∃ a ∈ attrsOf (attributed name key value), isAttr key a = true :=
  ⟨_, List.mem_singleton_self _, beq_self_eq_true _⟩

/-- The import of the page is redirected. -/
theorem redirects_elementPage (name key value : String) :
    (∃ item ∈ (elementPage linkSource name key value).items, Redirects {} linkSource name item) ∧
      ∃ item ∈ (elementPage imageSource name key value).items,
        Redirects {} imageSource name item :=
  ⟨⟨_, .head _, rfl, rfl, _, _, _, rfl⟩, _, .head _, rfl, rfl, _, _, _, rfl⟩

/-! ### The elements of a component -/

/-- **Redirected components.**  Where the default import of the link is redirected, no element of
its name has an `href` in the end; where that of the image is, no element of its name has a
`priority` or children.  This holds of all modules, under all page-like options, if the name is
`Link` or `Image`, and of no other name.  As ever, elements in types do not count. -/
theorem redirected_elements_change_iff (name : String) :
    ((∀ (o : Options) (m : Module), o.kind.isPageLike = true →
        (∃ item ∈ m.items, Redirects o linkSource name item) →
        ∀ n ∈ (migrate o m).module.items.flatMap elements, Shape.isElement name n = true →
          ∀ a ∈ attrsOf n, isAttr "href" a = false) ↔ name = "Link") ∧
      ((∀ (o : Options) (m : Module), o.kind.isPageLike = true →
        (∃ item ∈ m.items, Redirects o imageSource name item) →
        ∀ n ∈ (migrate o m).module.items.flatMap elements, Shape.isElement name n = true →
          childrenOf n = [] ∧ ∀ a ∈ attrsOf n, isAttr "priority" a = false) ↔ name = "Image") := by
  have hnormal : ∀ (o : Options) (m : Module), o.kind.isPageLike = true →
      ∀ n ∈ (migrate o m).module.items.flatMap elements, isNormalElement n = true := by
    intro o m hkind n hn
    obtain ⟨item, hitem, hn⟩ := List.mem_flatMap.mp hn
    have hapi : o.kind ≠ .api := by
      rintro h
      rw [h] at hkind
      cases hkind
    exact isNormalElement_of_mem (isNormal_migrate hapi m item hitem) hn
  constructor
  · constructor
    · intro h
      by_contra hname
      obtain ⟨a, ha, hattr⟩ := isAttr_attributed name "href" ""
      have hnone := h {} (elementPage linkSource name "href" "") rfl
        (redirects_elementPage name "href" "").1 _
        (attributed_mem_elements linkSource (fun h => absurd h hname) fun _ => by decide)
        (isElement_attributed name "href" "") a ha
      rw [hattr] at hnone
      cases hnone
    · rintro rfl o m hkind - n hn hlink
      exact link_of_isNormalElement (hnormal o m hkind n hn) hlink
  · constructor
    · intro h
      by_contra hname
      obtain ⟨a, ha, hattr⟩ := isAttr_attributed name "priority" ""
      have hnone := (h {} (elementPage imageSource name "priority" "") rfl
        (redirects_elementPage name "priority" "").2 _
        (attributed_mem_elements imageSource (fun _ => by decide) fun h => absurd h hname)
        (isElement_attributed name "priority" "")).2 a ha
      rw [hattr] at hnone
      cases hnone
    · rintro rfl o m hkind - n hn himage
      exact (image_of_isNormalElement (hnormal o m hkind n hn) himage).2

/-- A link under another name keeps its `href`: `<NextLink href="/a"/>` is there as it was. -/
theorem aliased_link_keeps_href :
    let page := elementPage linkSource "NextLink" "href" "/a"
    ({} : Options).kind.isPageLike = true ∧
      (∃ item ∈ page.items, Redirects {} linkSource "NextLink" item) ∧
      ∃ n ∈ (migrate {} page).module.items.flatMap elements,
        Shape.isElement "NextLink" n = true ∧ ∃ a ∈ attrsOf n, isAttr "href" a = true :=
  ⟨rfl, (redirects_elementPage _ _ _).1, _,
    attributed_mem_elements linkSource (by decide) (by decide), isElement_attributed _ _ _,
    isAttr_attributed _ _ _⟩

end RouteMigration.Migration
