import RouteMigration.Proofs.ImportDeclarations
import RouteMigration.Proofs.MadeModules

/-!
# Imports from the framework that is left behind

A project that has been migrated is told to remove the package of the framework it comes from.  Not
every import from there has a counterpart, though: some are kept, each by its own rule, and the plan
looks at what the project declares and not at what its modules import.  Here it is said exactly
which imports are left, and so when the plan removes a package that is still imported.

## Main Definitions

* `isFrameworkSource`, `ImportsFramework` — sources in the framework, and modules that import them
* `keepsFramework` — the imports that are left

## Main Statements

* `importsFramework_migrate_iff` — which migrated modules import from the framework
* `plan_removes_imported_framework_iff` — when the plan of a run removes it all the same
* `plan_removes_segmentProject`, `plan_removes_imported_helloProject` — projects in which it does
-/

namespace RouteMigration.Migration

variable {o : Options} {dropped : NameSet} {source : String}

/-- The package of the framework. -/
def frameworkPackage : String := "next"

/-- The source is in the package of the framework. -/
def isFrameworkSource (source : String) : Bool :=
  source = frameworkPackage || source.startsWith (frameworkPackage ++ "/")

/-- The module imports from the framework. -/
def ImportsFramework (items : List Node) : Prop :=
  ∃ source ∈ importSources items, isFrameworkSource source = true

/-- The names that an import binds once a stylesheet that is imported for its effect is bound. -/
def boundLocalNames (specifiers : List Node) (source : String) : List (Option String) :=
  if isStylesheetSource source && specifiers.isEmpty then [some (stylesheetBinding source)]
  else specifiers.map localName?

/-- The item is an import from the framework of which something is left: in an API route, all but
what has no counterpart at all; elsewhere, links that are not imported by default, hooks next to
something without a counterpart or for types only, fonts that are not removed, and whatever no rule
is about. -/
def keepsFramework (o : Options) (dropped : NameSet) : Node → Bool
  | .importDecl _ isTypeOnly _ specifiers (.str _ source _) _ =>
    isFrameworkSource source && !isLegacySource source &&
      if o.kind = .api then true
      else if source = linkSource then (ImportChange.defaultName? specifiers).isNone
      else if source = navigationSource then isTypeOnly || !specifiers.all isMappable
      else !isLost dropped source (boundLocalNames specifiers source)
  | _ => false

/-! ### One import -/

/-- The item is an import from the framework after all steps. -/
def staysFramework (o : Options) (dropped : NameSet) (new : Node) : Prop :=
  ∃ source, Shape.importSource? new = some source ∧ isFrameworkSource source = true ∧
    (o.kind = .api ∨ (mapImport new).isMapped = false) ∧
    isLost dropped source (localNames new) = false

theorem prefix_append_stop_iff {α : Type} {stop : α} {front : List α} (h : stop ∉ front)
    (xs back : List α) : front <+: xs ++ stop :: back ↔ front <+: xs := by
  constructor
  · intro hprefix
    induction xs generalizing front with
    | nil =>
      cases front with
      | nil => exact List.nil_prefix
      | cons a front =>
        obtain ⟨rfl, -⟩ := List.cons_prefix_cons.mp hprefix
        exact absurd List.mem_cons_self h
    | cons x xs ih =>
      cases front with
      | nil => exact List.nil_prefix
      | cons a front =>
        obtain ⟨rfl, htail⟩ := List.cons_prefix_cons.mp hprefix
        rw [List.cons_prefix_cons]
        exact ⟨rfl, ih (fun hmem => h (List.mem_cons_of_mem _ hmem)) htail⟩
  · intro hprefix
    exact hprefix.trans (List.prefix_append xs _)

/-- What a source begins with is not changed by the query of its URL. -/
theorem startsWith_url {front : String} (h : '?' ∉ front.toList) (source : String) :
    (source ++ "?url").startsWith front = source.startsWith front := by
  rw [Bool.eq_iff_iff, String.startsWith_string_iff, String.startsWith_string_iff,
    String.toList_append]
  exact prefix_append_stop_iff h source.toList ['u', 'r', 'l']

theorem isFrameworkSource_eq (source : String) :
    isFrameworkSource source =
      (source = frameworkPackage || "next/".toList.isPrefixOf source.toList) := by
  have hstarts : source.startsWith (frameworkPackage ++ "/") =
      "next/".toList.isPrefixOf source.toList := by
    rw [Bool.eq_iff_iff, String.startsWith_string_iff, List.isPrefixOf_iff_prefix]
    rfl
  rw [isFrameworkSource, hstarts]

/-- Where imports are redirected to is not the framework. -/
theorem not_isFrameworkSource_of_mem (h : source ∈ [routerPackage, imagePackage]) :
    ¬isFrameworkSource source = true := by
  have hall : ∀ target ∈ [routerPackage, imagePackage],
      ¬(target = frameworkPackage || "next/".toList.isPrefixOf target.toList) = true := by
    decide
  rw [isFrameworkSource_eq]
  exact hall source h

theorem isFrameworkSource_url (h : isStylesheetSource source = true) :
    isFrameworkSource (source ++ "?url") = isFrameworkSource source := by
  have hsource : source ≠ frameworkPackage := by
    rintro rfl
    rw [isStylesheetSource_eq] at h
    exact absurd h (by decide)
  have hurl : source ++ "?url" ≠ frameworkPackage := url_ne (by decide) source
  rw [isFrameworkSource, isFrameworkSource, startsWith_url (by decide)]
  simp [hsource, hurl]

theorem isLost_url (dropped : NameSet) (source : String) (names : List (Option String)) :
    isLost dropped (source ++ "?url") names = isLost dropped source names := by
  rw [isLost, isLost, isFontSource, isFontSource, startsWith_url (by decide)]

/-- In an API route an import is dropped or kept. -/
theorem of_eq_keep_of_api (hapi : o.kind = .api) (hlegacy : isLegacySource source = false)
    (specifiers : List Node) : ImportChange.of o specifiers source = .keep := by
  simp [ImportChange.of, ImportChange.ofOther, ModuleKind.isPageLike, hapi, hlegacy]

theorem isPageLike_of_ne_api (hapi : o.kind ≠ .api) : o.kind.isPageLike = true := by
  cases hkind : o.kind with
  | api => exact absurd hkind hapi
  | _ => rfl

/-- A link is redirected if it is imported by default. -/
theorem of_linkSource (hapi : o.kind ≠ .api) (specifiers : List Node) :
    ImportChange.of o specifiers linkSource =
      match ImportChange.defaultName? specifiers with
      | some name =>
        .replace (Build.namedImport [(RouterSymbol.link.name, name)] routerPackage) none none
      | none => .keep := by
  have hpage := isPageLike_of_ne_api hapi
  have himage : linkSource ≠ imageSource := by decide
  have hlegacy : isLegacySource linkSource = false := by decide
  have hstylesheet : isStylesheetSource linkSource = false :=
    isStylesheetSource_of_named (by decide)
  cases hname : ImportChange.defaultName? specifiers with
  | some name => simp [ImportChange.of, ImportChange.ofOther, himage, hlegacy, hpage, hname]
  | none =>
    simp [ImportChange.of, ImportChange.ofOther, himage, hlegacy, hpage, hname, hstylesheet]

/-- What becomes of any other import that has a counterpart. -/
theorem of_ne_linkSource (hapi : o.kind ≠ .api) (hlegacy : isLegacySource source = false)
    (hlink : source ≠ linkSource) (specifiers : List Node) :
    ImportChange.of o specifiers source =
      if isStylesheetSource source && specifiers.isEmpty then .ofStylesheet o source
      else .keep := by
  have hpage := isPageLike_of_ne_api hapi
  have himage : source ≠ imageSource := by
    rintro rfl
    exact absurd hlegacy (by decide)
  simp [ImportChange.of, ImportChange.ofOther, himage, hlegacy, hlink, hpage]

/-- Nothing of an import without a counterpart is left in the framework. -/
theorem not_staysFramework_of_legacy {specifiers : List Node}
    (hlegacy : isLegacySource source = true) {item new : Node}
    (hnew : new ∈ (ImportChange.of o specifiers source).apply item) :
    ¬staysFramework o dropped new := by
  rintro ⟨source', hsource, hframework, -⟩
  rcases mem_apply_iff.mp hnew with ⟨hkeep, -⟩ | ⟨package, stylesheet, hof⟩
  · rw [isLegacySource_of_keep hkeep] at hlegacy
    cases hlegacy
  · rcases source_of_replace hof hsource with rfl | rfl | ⟨hnot, -⟩
    · exact not_isFrameworkSource_of_mem (by decide) hframework
    · exact not_isFrameworkSource_of_mem (by decide) hframework
    · rw [hnot] at hlegacy
      cases hlegacy

/-- An import of hooks is mapped unless it is for types only or has a specifier without a
counterpart. -/
theorem isMapped_mapImport (s : Option Span) (isTypeOnly : Bool) (phase : ImportPhase)
    (specifiers : List Node) (ss : Option Span) (raw : Option String) (attributes : Node) :
    (mapImport (.importDecl s isTypeOnly phase specifiers (.str ss source raw)
      attributes)).isMapped = true ↔
        source = navigationSource ∧ (isTypeOnly || !specifiers.all isMappable) = false := by
  dsimp only [mapImport]
  by_cases hsource : source = navigationSource
  · rw [if_neg (by simp [hsource])]
    cases hkept : isTypeOnly || !specifiers.all isMappable with
    | true => exact iff_of_false (by simp [HookImport.isMapped]) (by simp)
    | false => exact iff_of_true rfl ⟨hsource, rfl⟩
  · rw [if_pos (by simpa using hsource)]
    exact iff_of_false (by simp [HookImport.isMapped]) fun h => hsource h.1

/-- An import that is not redirected is left in the framework unless its hooks are mapped or its
fonts are gone. -/
theorem staysFramework_importDecl (s : Option Span) (isTypeOnly : Bool) (phase : ImportPhase)
    (specifiers : List Node) (ss : Option Span) (raw : Option String) (attributes : Node) :
    staysFramework o dropped (.importDecl s isTypeOnly phase specifiers (.str ss source raw)
      attributes) ↔
        isFrameworkSource source = true ∧
          (o.kind = .api ∨ source ≠ navigationSource ∨
            (isTypeOnly || !specifiers.all isMappable) = true) ∧
          isLost dropped source (specifiers.map localName?) = false := by
  have hmapped : (mapImport (.importDecl s isTypeOnly phase specifiers (.str ss source raw)
      attributes)).isMapped = true ↔ _ :=
    isMapped_mapImport s isTypeOnly phase specifiers ss raw attributes
  rw [← not_iff_not, Bool.not_eq_true, not_and_or, Bool.not_eq_false] at hmapped
  constructor
  · rintro ⟨source', hsource, hframework, hhooks, hkept⟩
    obtain rfl := Option.some.inj hsource
    exact ⟨hframework, hhooks.imp_right hmapped.mp, hkept⟩
  · rintro ⟨hframework, hhooks, hkept⟩
    exact ⟨source, rfl, hframework, hhooks.imp_right hmapped.mpr, hkept⟩

/-- Of an import from a source without fonts nothing is lost. -/
theorem isLost_of_not_font (h : isFontSource source = false) (dropped : NameSet)
    (names : List (Option String)) : isLost dropped source names = false := by
  rw [isLost, h, Bool.and_false, Bool.false_and]

/-- A stylesheet in the framework is left there, under the name that it is bound to. -/
theorem staysFramework_stylesheet (hstylesheet : isStylesheetSource source = true) (item : Node) :
    (∃ new ∈ (ImportChange.ofStylesheet o source).apply item, staysFramework o dropped new) ↔
      isFrameworkSource source = true ∧
        isLost dropped source [some (stylesheetBinding source)] = false := by
  have himport : ∀ url, (url = source ∨ url = source ++ "?url") →
      (staysFramework o dropped (Build.defaultImport (stylesheetBinding source) url) ↔
        isFrameworkSource source = true ∧
          isLost dropped source [some (stylesheetBinding source)] = false) := by
    intro url hurl
    have hnavigation : url ≠ navigationSource := by
      rcases hurl with rfl | rfl
      · rintro rfl
        rw [isStylesheetSource_of_named (by decide)] at hstylesheet
        cases hstylesheet
      · exact url_ne (by decide) source
    have hstays : staysFramework o dropped (Build.defaultImport (stylesheetBinding source) url) ↔
        isFrameworkSource url = true ∧
          isLost dropped url [some (stylesheetBinding source)] = false := by
      refine (staysFramework_importDecl ..).trans ?_
      simp [hnavigation, localName?]
    rw [hstays]
    rcases hurl with rfl | rfl
    · exact Iff.rfl
    · rw [isFrameworkSource_url hstylesheet, isLost_url]
  unfold ImportChange.ofStylesheet
  dsimp only
  split
  · simp only [ImportChange.apply, List.mem_singleton, exists_eq_left]
    split
    · exact himport _ (Or.inr rfl)
    · exact himport _ (Or.inl rfl)
  · simp only [ImportChange.apply, List.mem_singleton, exists_eq_left]
    exact himport _ (Or.inl rfl)

/-- An import of a page that has a counterpart. -/
theorem exists_staysFramework_of_page (hapi : o.kind ≠ .api)
    (hlegacy : isLegacySource source = false) (s : Option Span) (isTypeOnly : Bool)
    (phase : ImportPhase) (specifiers : List Node) (ss : Option Span) (raw : Option String)
    (attributes : Node) :
    (∃ new ∈ (ImportChange.of o specifiers source).apply
        (.importDecl s isTypeOnly phase specifiers (.str ss source raw) attributes),
      staysFramework o dropped new) ↔
    isFrameworkSource source = true ∧
      if source = linkSource then ImportChange.defaultName? specifiers = none
      else if source = navigationSource then (isTypeOnly || !specifiers.all isMappable) = true
      else isLost dropped source (boundLocalNames specifiers source) = false := by
  by_cases hlink : source = linkSource
  · subst hlink
    have hlost : ∀ names, isLost dropped linkSource names = false :=
      isLost_of_not_font (isFontSource_of_named (by decide)) dropped
    rw [of_linkSource hapi, if_pos rfl]
    cases hname : ImportChange.defaultName? specifiers with
    | some name =>
      refine iff_of_false ?_ (by simp)
      rintro ⟨new, hnew, source, hsource, hframework, -⟩
      obtain rfl := List.mem_singleton.mp hnew
      obtain rfl : routerPackage = source := Option.some.inj hsource
      exact not_isFrameworkSource_of_mem (by decide) hframework
    | none =>
      have hnavigation : linkSource ≠ navigationSource := by decide
      simp only [ImportChange.apply, List.mem_singleton, exists_eq_left, staysFramework_importDecl,
        hlost, hnavigation, ne_eq, not_false_eq_true, true_or, or_true, and_true]
  · rw [of_ne_linkSource hapi hlegacy hlink, if_neg hlink]
    by_cases hnavigation : source = navigationSource
    · subst hnavigation
      have hlost : ∀ names, isLost dropped navigationSource names = false :=
        isLost_of_not_font (isFontSource_of_named (by decide)) dropped
      have hstylesheet : isStylesheetSource navigationSource = false :=
        isStylesheetSource_of_named (by decide)
      rw [if_pos rfl, hstylesheet, Bool.false_and, if_neg Bool.false_ne_true]
      simp only [ImportChange.apply, List.mem_singleton, exists_eq_left, staysFramework_importDecl,
        hlost, hapi, ne_eq, not_true_eq_false, false_or, and_true]
    · rw [if_neg hnavigation, boundLocalNames]
      split
      · next hstylesheet =>
        exact staysFramework_stylesheet (Bool.and_eq_true_iff.mp hstylesheet).1 _
      · simp only [ImportChange.apply, List.mem_singleton, exists_eq_left,
          staysFramework_importDecl, hnavigation, ne_eq, not_false_eq_true, true_or, or_true,
          true_and]

/-- **One import.**  It is left in the framework exactly if `keepsFramework` says so. -/
theorem exists_staysFramework_iff (hdropped : o.kind = .api → dropped.isEmpty = true)
    (item : Node) :
    (∃ new ∈ (ImportChange.ofItem o item).apply item, staysFramework o dropped new) ↔
      keepsFramework o dropped item = true := by
  cases hsource : Shape.importSource? item with
  | none =>
    have hne : ∀ s isTypeOnly phase specifiers ss source raw attributes,
        item ≠ .importDecl s isTypeOnly phase specifiers (.str ss source raw) attributes := by
      rintro s isTypeOnly phase specifiers ss source raw attributes rfl
      cases hsource
    refine iff_of_false ?_ ?_
    · rintro ⟨new, hnew, source, hnewSource, -⟩
      unfold ImportChange.ofItem at hnew
      split at hnew
      · exact hne _ _ _ _ _ _ _ _ rfl
      · obtain rfl := List.mem_singleton.mp hnew
        rw [hsource] at hnewSource
        cases hnewSource
    · unfold keepsFramework
      split
      · exact absurd rfl (hne _ _ _ _ _ _ _ _)
      · exact Bool.false_ne_true
  | some source =>
    obtain ⟨s, isTypeOnly, phase, specifiers, ss, raw, attributes, rfl⟩ :=
      importSource?_eq_some.mp hsource
    show (∃ new ∈ (ImportChange.of o specifiers source).apply _, staysFramework o dropped new) ↔
      (isFrameworkSource source && !isLegacySource source &&
        if o.kind = .api then true
        else if source = linkSource then (ImportChange.defaultName? specifiers).isNone
        else if source = navigationSource then isTypeOnly || !specifiers.all isMappable
        else !isLost dropped source (boundLocalNames specifiers source)) = true
    by_cases hlegacy : isLegacySource source = true
    · refine iff_of_false ?_ ?_
      · rintro ⟨new, hnew, hstays⟩
        exact not_staysFramework_of_legacy hlegacy hnew hstays
      · rw [hlegacy, Bool.not_true, Bool.and_false, Bool.false_and]
        exact Bool.false_ne_true
    rw [Bool.not_eq_true] at hlegacy
    rw [hlegacy, Bool.not_false, Bool.and_true, Bool.and_eq_true]
    by_cases hapi : o.kind = .api
    · have hlost : isLost dropped source (specifiers.map localName?) = false := by
        rw [isLost, hdropped hapi]
        rfl
      rw [of_eq_keep_of_api hapi hlegacy, if_pos hapi]
      simp only [ImportChange.apply, List.mem_singleton, exists_eq_left, staysFramework_importDecl,
        hapi, hlost, true_or, and_true]
    · rw [exists_staysFramework_of_page hapi hlegacy, if_neg hapi]
      refine and_congr_right fun _ => ?_
      split
      · exact Option.isNone_iff_eq_none.symm
      · split
        · exact Iff.rfl
        · rw [Bool.not_eq_true']

/-! ### Modules and runs -/

theorem isEmpty_lostFonts_of_api (hapi : o.kind = .api) (m : Module) :
    (lostFonts o m).isEmpty = true := by
  simp [lostFonts, Options.fontAware, hapi, NameSet.isEmpty, NameSet.empty]

/-- **A module.**  It imports from the framework in the end exactly if one of its imports is kept
there. -/
theorem importsFramework_migrate_iff (o : Options) (m : Module) :
    ImportsFramework (migrate o m).module.items ↔
      ∃ item ∈ m.items, keepsFramework o (lostFonts o m) item = true := by
  have hdropped := fun hapi => isEmpty_lostFonts_of_api (o := o) hapi m
  have hrouter : ∀ {source}, isFrameworkSource source = true → source ≠ routerPackage := by
    rintro source hframework rfl
    exact not_isFrameworkSource_of_mem (by decide) hframework
  constructor
  · rintro ⟨source, hsource, hframework⟩
    obtain ⟨item, hitem, new, hnew, hsource, hhooks, hkept⟩ :=
      (mem_importSources_migrate_iff (hrouter hframework) o m).mp hsource
    refine ⟨item, hitem, (exists_staysFramework_iff hdropped item).mp ?_⟩
    exact ⟨new, hnew, source, hsource, hframework, hhooks, hkept⟩
  · rintro ⟨item, hitem, hkeeps⟩
    obtain ⟨new, hnew, source, hsource, hframework, hhooks, hkept⟩ :=
      (exists_staysFramework_iff hdropped item).mpr hkeeps
    refine ⟨source, ?_, hframework⟩
    exact (mem_importSources_migrate_iff (hrouter hframework) o m).mpr
      ⟨item, hitem, new, hnew, hsource, hhooks, hkept⟩

end RouteMigration.Migration

namespace RouteMigration.Workspace

open Migration

/-- **A run.**  The plan removes the package of the framework while a module that was made still
imports from it exactly if the project declares the package and one of the modules that were read
has an import that is kept there.  The modules are those of the migrated files of the report. -/
theorem plan_removes_imported_framework_iff (w : Workspace) (tools : Toolbox) (root : String)
    (c : Config) (report : MigrationReport) (h : (w.migrate tools root c).1 = .ok report) :
    report.files.filter (·.outcome.isMigrated) =
        (w.projectModules root c).map MadeModule.report ∧
      ((report.dependencies.remove.contains frameworkPackage = true ∧
          ∃ made ∈ w.projectModules root c, ImportsFramework made.result.module.items) ↔
        (∃ declared, (w.migrate tools root c).2.declaredPackages root = .ok declared ∧
          declared.contains frameworkPackage = true) ∧
        ∃ made ∈ w.projectModules root c, ∃ item ∈ made.module.items,
          keepsFramework made.options (lostFonts made.options made.module) item = true) := by
  obtain ⟨hfiles, declared, hdeclared, hplan⟩ := migrate_report h
  have hobsolete : frameworkPackage ∈ obsoletePackages := by decide
  have hremove : report.dependencies.remove.contains frameworkPackage = true ↔
      ∃ declared, (w.migrate tools root c).2.declaredPackages root = .ok declared ∧
        declared.contains frameworkPackage = true := by
    rw [hplan, DependencyPlan.contains_remove_make, hdeclared]
    constructor
    · rintro ⟨-, hcontains⟩
      exact ⟨declared, rfl, hcontains⟩
    · rintro ⟨declared', heq, hcontains⟩
      cases heq
      exact ⟨hobsolete, hcontains⟩
  have hmodules : ∀ made : MadeModule, ImportsFramework made.result.module.items ↔
      ∃ item ∈ made.module.items,
        keepsFramework made.options (lostFonts made.options made.module) item = true :=
    fun made => importsFramework_migrate_iff made.options made.module
  refine ⟨hfiles, ?_⟩
  rw [hremove]
  simp only [hmodules]

/-- A project that declares the framework, with a page that imports a hook without a
counterpart. -/
def segmentProject : Workspace where
  tree := ⟨[(["p"], .directory), (["p", "app"], .directory),
    (["p", "app", "page.tsx"],
      .file "import \x7b useSelectedLayoutSegment \x7d from 'next/navigation';".toUTF8.data),
    (["p", "package.json"],
      .file "\x7b\"dependencies\":\x7b\"next\":\"15\"\x7d\x7d".toUTF8.data)]⟩

/-- The plan removes the framework, from which the page still imports. -/
theorem plan_removes_segmentProject :
    ∃ report, (segmentProject.migrate (fun _ => none) "p" {}).1 = .ok report ∧
      report.dependencies.remove.contains frameworkPackage = true ∧
      ∃ made ∈ segmentProject.projectModules "p" {},
        ImportsFramework made.result.module.items := by
  have hruns : ((segmentProject.migrate (fun _ => none) "p" {}).1.toOption.any (fun _ => true) &&
      (((segmentProject.migrate (fun _ => none) "p" {}).2.declaredPackages "p").toOption.any
        (·.contains frameworkPackage) &&
      (segmentProject.projectModules "p" {}).any fun made => made.module.items.any
        (keepsFramework made.options (lostFonts made.options made.module)))) = true := by
    decide +kernel
  simp only [Bool.and_eq_true] at hruns
  obtain ⟨hruns, hdeclares, hkeeps⟩ := hruns
  obtain ⟨report, hrun, -⟩ := exists_eq_ok_of_any hruns
  obtain ⟨declared, hdeclared, hcontains⟩ := exists_eq_ok_of_any hdeclares
  obtain ⟨made, hmade, hany⟩ := List.any_eq_true.mp hkeeps
  have hiff := (plan_removes_imported_framework_iff segmentProject (fun _ => none) "p" {} report
    hrun).2
  exact ⟨report, hrun, hiff.mpr ⟨⟨declared, hdeclared, hcontains⟩, made, hmade,
    List.any_eq_true.mp hany⟩⟩

/-- A project that declares the framework, with a handler that answers with the response type of
the framework. -/
def helloProject : Workspace where
  tree := ⟨[(["p"], .directory), (["p", "app"], .directory), (["p", "app", "api"], .directory),
    (["p", "app", "api", "hello"], .directory),
    (["p", "app", "api", "hello", "route.ts"],
      .file ("import \x7b NextResponse \x7d from \"next/server\";\n\n" ++
        "export async function GET() \x7b\n" ++
        "  return NextResponse.json(\x7b hello: \"world\" \x7d);\n\x7d\n").toUTF8.data),
    (["p", "package.json"],
      .file "\x7b\"dependencies\":\x7b\"next\":\"15\"\x7d\x7d".toUTF8.data)]⟩

/-- The import from `next/server` has no rule, so the module of the handler keeps it, and the plan
removes the package all the same. -/
theorem plan_removes_imported_helloProject :
    ∃ report, (helloProject.migrate (fun _ => none) "p" {}).1 = .ok report ∧
      report.dependencies.remove.contains "next" = true ∧
      ∃ made ∈ helloProject.projectModules "p" {},
        made.report ∈ report.files ∧ made.report.outcome.isMigrated = true ∧
        "next/server" ∈ importSources made.result.module.items := by
  have hruns : ((helloProject.migrate (fun _ => none) "p" {}).1.toOption.any
        (·.dependencies.remove.contains "next") &&
      (helloProject.projectModules "p" {}).any fun made =>
        (importSources made.result.module.items).contains "next/server") = true := by
    decide +kernel
  obtain ⟨hruns, hmakes⟩ := Bool.and_eq_true_iff.mp hruns
  obtain ⟨report, hrun, hremoves⟩ := exists_eq_ok_of_any hruns
  obtain ⟨made, hmade, himports⟩ := List.any_eq_true.mp hmakes
  have hreport : made.report ∈ report.files.filter (·.outcome.isMigrated) := by
    rw [(migrate_report hrun).1]
    exact List.mem_map_of_mem hmade
  obtain ⟨hfile, hmigrated⟩ := List.mem_filter.mp hreport
  exact ⟨report, hrun, hremoves, made, hmade, hfile, hmigrated, List.contains_iff_mem.mp himports⟩

end RouteMigration.Workspace
