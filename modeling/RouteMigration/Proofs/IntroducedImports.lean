import RouteMigration.Proofs.ImportDeclarations
import RouteMigration.Proofs.MadeModules

/-!
# Imports that a migration introduces

A migrated module imports from where it did before, from the router, from the package of images, or
the URL of a stylesheet that it imported before.  The router is needed by every project, the package
of images is asked for by the very step that redirects imports to it, and a stylesheet stays in its
package.  So the plan of a run adds every package that a module starts to import and that the
project does not declare.

## Main Definitions

* `IsReplacedBy` — an import that is replaced by one from another source
* `packageOf?` — the package that a source names

## Main Statements

* `source_of_mem_migrate` — where a migrated module imports from
* `contains_packages_migrate` — which packages a migrated module asks for
* `introduced_packages_are_planned` — for modules, and for every run over a project
-/

namespace RouteMigration.Migration

variable {o : Options} {m : Module} {source : String}

/-- The import is replaced by one from a source. -/
def IsReplacedBy (o : Options) (source : String) (item : Node) : Prop :=
  ∃ new package stylesheet,
    ImportChange.ofItem o item = .replace new package stylesheet ∧
      Shape.importSource? new = some source

/-! ### Packages that are asked for -/

/-- A change asks for the package of images if that is where it imports from, and for no other. -/
theorem package_of_replace {specifiers : List Node} {new : Node}
    {package stylesheet : Option String}
    (h : ImportChange.of o specifiers source = .replace new package stylesheet) :
    (package = some imagePackage ∧ Shape.importSource? new = some imagePackage) ∨
      package = none ∧ Shape.importSource? new ≠ some imagePackage := by
  rcases replace_cases h with himage | ⟨hnone, hrouter⟩ | ⟨-, hstylesheet, hnone, hurl⟩
  · exact Or.inl himage
  · refine Or.inr ⟨hnone, ?_⟩
    rw [hrouter]
    decide
  · refine Or.inr ⟨hnone, fun heq => ?_⟩
    rw [heq, Option.some.injEq, Option.some.injEq] at hurl
    rcases hurl with rfl | hurl
    · rw [isStylesheetSource_of_named (by decide)] at hstylesheet
      cases hstylesheet
    · exact url_ne (by decide) source hurl.symm

theorem package?_ofItem_eq_some {item : Node} {p : String} :
    (ImportChange.ofItem o item).package? = some p ↔
      p = imagePackage ∧ IsReplacedBy o imagePackage item := by
  unfold IsReplacedBy
  cases hof : ImportChange.ofItem o item with
  | keep => simp [ImportChange.package?]
  | remove => simp [ImportChange.package?]
  | replace new package stylesheet =>
    obtain ⟨source, specifiers, -, hof⟩ := ofItem_eq_replace hof
    rcases package_of_replace hof with ⟨rfl, hsource⟩ | ⟨rfl, hsource⟩
    · constructor
      · intro h
        exact ⟨(Option.some.inj h).symm, new, _, stylesheet, rfl, hsource⟩
      · rintro ⟨rfl, -⟩
        rfl
    · refine iff_of_false (by simp [ImportChange.package?]) ?_
      rintro ⟨-, new', package', stylesheet', heq, hsource'⟩
      cases heq
      exact hsource hsource'

/-- The steps after the one that redirects imports ask for nothing. -/
theorem packages_migrate (o : Options) (m : Module) :
    (migrate o m).packages = (redirected o m).state.packages := by
  have hfonts : Pass.redirectImports ∉ (if o.fontAware then [Pass.eliminateFonts] else []) := by
    split
    · decide
    · decide
  have hregistered : requests (registered o m).state = requests (redirected o m).state :=
    (requests_next (by decide) _).trans
      (requests_foldl (redirectImports_not_mem_middlePasses o) (redirected o m))
  have hlast : requests ((pipeline o).foldl Step.next
      (Step.start m.items { options := o })).state = requests (redirected o m).state := by
    rw [foldl_pipeline]
    exact (requests_foldl hfonts (registered o m)).trans hregistered
  exact congrArg Prod.fst hlast

/-- **Packages.**  A migrated module asks for the package of images exactly when one of its imports
was replaced by one from there, and for no other. -/
theorem contains_packages_migrate (o : Options) (m : Module) (p : String) :
    (migrate o m).packages.contains p = true ↔
      p = imagePackage ∧ ∃ item ∈ m.items, IsReplacedBy o imagePackage item := by
  have hfront : (front o m).state.packages = .empty := congrArg Prod.fst (requests_front o m)
  have hpackages : (redirected o m).state.packages =
      (((front o m).items.map (ImportChange.ofItem o)).filterMap (·.package?)).foldl
        (fun set p => set.insert p) .empty := by
    show (((front o m).items.map (ImportChange.ofItem (front o m).state.options)).filterMap
      (·.package?)).foldl _ (front o m).state.packages = _
    rw [options_front, hfront]
  have hmem : ∀ item, IsReplacedBy o imagePackage item →
      (item ∈ (front o m).items ↔ item ∈ m.items) := by
    rintro item ⟨new, package, stylesheet, hof, hsource⟩
    have hnew : new ∈ (ImportChange.ofItem o item).apply item := by
      rw [hof]
      exact List.mem_singleton_self new
    have hforeign : isForeign new = true := isForeign_iff.mpr ⟨_, hsource, by decide⟩
    exact sameImports_front o m item (isForeign_of_apply hnew hforeign)
  rw [packages_migrate, hpackages, NameSet.contains_foldl_insert,
    or_iff_left (NameSet.not_contains_empty p), List.mem_filterMap]
  constructor
  · rintro ⟨change, hchange, hp⟩
    obtain ⟨item, hitem, rfl⟩ := List.mem_map.mp hchange
    obtain ⟨rfl, hreplaced⟩ := package?_ofItem_eq_some.mp hp
    exact ⟨rfl, item, (hmem item hreplaced).mp hitem, hreplaced⟩
  · rintro ⟨rfl, item, hitem, hreplaced⟩
    have hfront := (hmem item hreplaced).mpr hitem
    exact ⟨_, List.mem_map_of_mem hfront, package?_ofItem_eq_some.mpr ⟨rfl, hreplaced⟩⟩

/-! ### Sources -/

/-- **Sources.**  Where a migrated module imports from. -/
theorem source_of_mem_migrate (h : source ∈ importSources (migrate o m).module.items) :
    source ∈ importSources m.items ∨ source = routerPackage ∨
      (source = imagePackage ∧ ∃ item ∈ m.items, IsReplacedBy o imagePackage item) ∨
      ∃ s ∈ importSources m.items, isStylesheetSource s = true ∧ source = s ++ "?url" := by
  by_cases hrouter : source = routerPackage
  · exact Or.inr (Or.inl hrouter)
  · obtain ⟨item, hitem, new, hnew, hsource, -, -⟩ :=
      (mem_importSources_migrate_iff hrouter o m).mp h
    rcases mem_apply_iff.mp hnew with ⟨-, rfl⟩ | ⟨package, stylesheet, hof⟩
    · exact Or.inl (mem_importSources.mpr ⟨new, hitem, hsource⟩)
    · have hreplaced : IsReplacedBy o source item := ⟨new, package, stylesheet, hof, hsource⟩
      obtain ⟨old, specifiers, hold, hof⟩ := ofItem_eq_replace hof
      have hold : old ∈ importSources m.items := mem_importSources.mpr ⟨item, hitem, hold⟩
      rcases source_of_replace hof hsource with rfl | heq | ⟨-, hstylesheet, rfl | rfl⟩
      · exact Or.inr (Or.inr (Or.inl ⟨rfl, item, hitem, hreplaced⟩))
      · exact Or.inr (Or.inl heq)
      · exact Or.inl hold
      · exact Or.inr (Or.inr (Or.inr ⟨old, hold, hstylesheet, rfl⟩))

/-- An import that is replaced by one from the package of images is one from there in the end. -/
theorem mem_migrate_of_isReplacedBy {item : Node} (hitem : item ∈ m.items)
    (h : IsReplacedBy o imagePackage item) :
    imagePackage ∈ importSources (migrate o m).module.items := by
  obtain ⟨new, package, stylesheet, hof, hsource⟩ := h
  have hnavigation : Shape.importSource? new ≠ some navigationSource := by
    rw [hsource]
    decide
  refine (mem_importSources_migrate_iff (by decide) o m).mpr
    ⟨item, hitem, new, ?_, hsource, Or.inr ?_, ?_⟩
  · rw [hof]
    exact List.mem_singleton_self new
  · rw [mapImport_of_ne hnavigation]
    rfl
  · have hfont : isFontSource imagePackage = false := isFontSource_of_named (by decide)
    rw [isLost, hfont, Bool.and_false, Bool.false_and]

/-! ### Packages of sources -/

/-- The package that a source names: its first piece, or its first two under a scope.  A path names
none, and what follows a question mark is about the import and not about where it is from. -/
def packageOf? (source : String) : Option String :=
  match Text.splitAt (· == '/') (source.toList.takeWhile (· != '?')) with
  | ('@' :: scope) :: name :: _ => some (String.ofList ('@' :: scope ++ '/' :: name))
  | ('.' :: _) :: _ | [] :: _ | [] => none
  | first :: _ => some (String.ofList first)

theorem takeWhile_append_stop {α : Type} {p : α → Bool} {stop : α} (hstop : p stop = false)
    (front back : List α) :
    (front ++ stop :: back).takeWhile p = front.takeWhile p := by
  induction front with
  | nil => simp [hstop]
  | cons a front ih => simp only [List.cons_append, List.takeWhile_cons, ih]

/-- The URL of a stylesheet is in the package of the stylesheet. -/
theorem packageOf?_url (source : String) : packageOf? (source ++ "?url") = packageOf? source := by
  have hcut : (source ++ "?url").toList.takeWhile (· != '?') =
      source.toList.takeWhile (· != '?') := by
    rw [String.toList_append]
    exact takeWhile_append_stop rfl source.toList ['u', 'r', 'l']
  rw [packageOf?, hcut, packageOf?]

example : packageOf? "bootstrap/dist/all.css?url" = some "bootstrap" ∧
    packageOf? "../styles.css" = none := by
  decide

/-! ### A run -/

/-- **Introduced imports.**  A migrated module imports from where it did, from the router, from the
package of images, or the URL of a stylesheet that it imported; it asks for the package of images
exactly when an import was replaced by one from there, and for no other.  In a run that gives a
report, the package of every import that a migrated module did not have before is declared by the
project or added by the plan, or else it was imported before, by a stylesheet of which the import is
the URL. -/
theorem introduced_packages_are_planned :
    (∀ (o : Options) (m : Module),
      (∀ source ∈ importSources (migrate o m).module.items,
        source ∈ importSources m.items ∨ source = routerPackage ∨ source = imagePackage ∨
          ∃ s ∈ importSources m.items, isStylesheetSource s = true ∧ source = s ++ "?url") ∧
      (∀ p, (migrate o m).packages.contains p = true ↔
        p = imagePackage ∧ ∃ item ∈ m.items, IsReplacedBy o imagePackage item) ∧
      ((∃ item ∈ m.items, IsReplacedBy o imagePackage item) →
        imagePackage ∈ importSources (migrate o m).module.items)) ∧
    ∀ (w : Workspace) (tools : Toolbox) (root : String) (c : Config) (report : MigrationReport),
      (w.migrate tools root c).1 = .ok report →
      report.files.filter (·.outcome.isMigrated) =
          (w.projectModules root c).map MadeModule.report ∧
        ∃ declared, (w.migrate tools root c).2.declaredPackages root = .ok declared ∧
          ∀ made ∈ w.projectModules root c, ∀ source ∈ importSources made.result.module.items,
            source ∉ importSources made.module.items → ∀ p, packageOf? source = some p →
              declared.contains p = true ∨ report.dependencies.add.contains p = true ∨
                ∃ s ∈ importSources made.module.items,
                  isStylesheetSource s = true ∧ source = s ++ "?url" ∧ packageOf? s = some p := by
  refine ⟨fun o m => ⟨?_, contains_packages_migrate o m, ?_⟩, ?_⟩
  · intro source hsource
    rcases source_of_mem_migrate hsource with hold | hrouter | ⟨himage, -⟩ | hurl
    · exact Or.inl hold
    · exact Or.inr (Or.inl hrouter)
    · exact Or.inr (Or.inr (Or.inl himage))
    · exact Or.inr (Or.inr (Or.inr hurl))
  · rintro ⟨item, hitem, hreplaced⟩
    exact mem_migrate_of_isReplacedBy hitem hreplaced
  · intro w tools root c report hreport
    obtain ⟨hfiles, declared, hdeclared, hplan⟩ := Workspace.migrate_report hreport
    refine ⟨hfiles, declared, hdeclared, ?_⟩
    intro made hmade source hsource hnew p hp
    have hplanned : p ∈ basePackages ∨ (requiredPackages report.files).contains p = true →
        declared.contains p = true ∨ report.dependencies.add.contains p = true := by
      rw [hplan]
      exact DependencyPlan.contains_add_make
    rcases source_of_mem_migrate hsource with hold | rfl | ⟨rfl, hreplaced⟩ | ⟨s, hs, hsheet, rfl⟩
    · exact absurd hold hnew
    · obtain rfl : routerPackage = p := by
        have hname : packageOf? routerPackage = some routerPackage := by decide
        exact Option.some.inj (hname.symm.trans hp)
      exact (hplanned (Or.inl (by decide))).imp_right Or.inl
    · obtain rfl : imagePackage = p := by
        have hname : packageOf? imagePackage = some imagePackage := by decide
        exact Option.some.inj (hname.symm.trans hp)
      have hasked : made.result.packages.contains imagePackage = true :=
        (contains_packages_migrate made.options made.module imagePackage).mpr ⟨rfl, hreplaced⟩
      have hrequired := (Workspace.contains_requiredPackages hreport imagePackage).mpr
        ⟨made, hmade, hasked⟩
      exact (hplanned (Or.inr hrequired)).imp_right Or.inl
    · rw [packageOf?_url] at hp
      exact Or.inr (Or.inr ⟨s, hs, hsheet, rfl, hp⟩)

/-- A project that declares nothing, with a page that imports the image component. -/
def photoProject : Workspace where
  tree := ⟨[(["p"], .directory), (["p", "app"], .directory),
    (["p", "app", "page.tsx"], .file "import Photo from 'next/image';".toUTF8.data),
    (["p", "package.json"], .file #[123, 125])]⟩

/-- Its page starts to import from the package of images, and the package is planned. -/
theorem photoProject_is_planned :
    ∃ report declared, (photoProject.migrate (fun _ => none) "p" {}).1 = .ok report ∧
      (∃ made ∈ photoProject.projectModules "p" {},
        imagePackage ∈ importSources made.result.module.items ∧
          imagePackage ∉ importSources made.module.items) ∧
      (photoProject.migrate (fun _ => none) "p" {}).2.declaredPackages "p" = .ok declared ∧
      (declared.contains imagePackage = true ∨
        report.dependencies.add.contains imagePackage = true) := by
  have hruns : ((photoProject.migrate (fun _ => none) "p" {}).1.toOption.any (fun _ => true) &&
      (photoProject.projectModules "p" {}).any fun made =>
        (importSources made.result.module.items).contains imagePackage &&
          !(importSources made.module.items).contains imagePackage) = true := by
    decide +kernel
  obtain ⟨hruns, hmakes⟩ := Bool.and_eq_true_iff.mp hruns
  obtain ⟨made, hmade, himports⟩ := List.any_eq_true.mp hmakes
  simp only [Bool.and_eq_true, Bool.not_eq_true', List.contains_eq_mem, decide_eq_true_eq,
    decide_eq_false_iff_not] at himports
  obtain ⟨report, hrun, -⟩ := exists_eq_ok_of_any hruns
  obtain ⟨-, declared, hdeclared, hplanned⟩ :=
    introduced_packages_are_planned.2 photoProject (fun _ => none) "p" {} report hrun
  refine ⟨report, declared, hrun, ⟨made, hmade, himports⟩, hdeclared, ?_⟩
  rcases hplanned made hmade imagePackage himports.1 himports.2 imagePackage (by decide)
    with hdeclares | hadds | ⟨s, -, -, hurl, -⟩
  · exact Or.inl hdeclares
  · exact Or.inr hadds
  · exact absurd hurl.symm (url_ne (by decide) s)

end RouteMigration.Migration
