import RouteMigration.Proofs.NameSet
import RouteMigration.Proofs.Retention

/-!
# The modules that a run makes

A report says which route files were migrated, with the packages that their modules need, but not
what the modules are.  Here they are listed, each with the module it was made of, in the order of
the report.

## Main Definitions

* `MadeModule` — a route file with the module that was read from it
* `Workspace.madeModules` — those of a run over some route files
* `Workspace.projectModules` — those of a run over a project

## Main Statements

* `Workspace.map_madeModules` — the modules are those of the migrated files of the report
* `Workspace.migrate_report` — a report in terms of its modules and of what the project declares
-/

namespace RouteMigration

/-- A route file that was migrated: the module that was read from it, and the options. -/
structure MadeModule where
  route : RouteFile
  options : Options
  module : Module

namespace MadeModule

/-- The module that was made. -/
def result (made : MadeModule) : Migrated := RouteMigration.migrate made.options made.module

/-- What a report says about the route file. -/
def report (made : MadeModule) : FileReport :=
  ⟨made.route, .migrated made.route.target made.result.warnings made.result.packages⟩

end MadeModule

namespace Workspace

variable {w : Workspace} {c : Config} {tools : Toolbox} {root : String} {report : MigrationReport}

/-- The module in a route file, if there is one of a supported kind. -/
def module? (w : Workspace) (c : Config) (r : RouteFile) : Option MadeModule := do
  let kind ← r.moduleKind?
  let text ← (w.readText r.source).toOption
  let source ← (Source.read r.dialect text).toOption
  return ⟨r, c.optionsFor r kind, source.module⟩

/-- The modules that are made when route files are migrated one after the other. -/
def madeModules (c : Config) : Workspace → List RouteFile → List MadeModule
  | _, [] => []
  | w, r :: rest =>
    let (outcome, w') := w.migrateFile c r
    let made := if outcome.isMigrated then (w.module? c r).toList else []
    made ++ madeModules c w' rest

/-- The modules that are made when a project is migrated. -/
def projectModules (w : Workspace) (root : String) (c : Config) : List MadeModule :=
  match (do w.routeFiles (← w.appDirectory root).path) with
  | .error _ => []
  | .ok routes => madeModules c w routes

/-! ### One file -/

theorem toOption_eq_some {ε α : Type} {x : Except ε α} {a : α} (h : x = .ok a) :
    x.toOption = some a := by
  rw [h]
  rfl

/-- What is prepared is the module of the route file, migrated. -/
theorem module?_of_prepare {r : RouteFile} {p : Prepared} (h : w.prepare c r = .ok (.inr p)) :
    ∃ made, w.module? c r = some made ∧ made.route = r ∧ p.warnings = made.result.warnings ∧
      p.packages = made.result.packages := by
  unfold prepare at h
  split at h
  · cases h
  · next kind hkind =>
    split at h
    · cases h
    · cases hprepare : w.prepareKind c r kind with
      | error e =>
        rw [hprepare] at h
        cases h
      | ok p' =>
        rw [hprepare] at h
        cases h
        simp only [prepareKind, bind_eq_ok_iff, mapError_eq_ok_iff, return_eq_ok_iff,
          migrateSource] at hprepare
        obtain ⟨text, hread, ⟨code, m⟩, ⟨source, hsource, hmade⟩, rfl⟩ := hprepare
        obtain ⟨rfl, rfl⟩ := Prod.mk.inj hmade
        refine ⟨⟨r, c.optionsFor r kind, source.module⟩, ?_, rfl, rfl, rfl⟩
        rw [module?, hkind, toOption_eq_some hread]
        show (do
          let source ← (Source.read r.dialect text).toOption
          return (⟨r, c.optionsFor r kind, source.module⟩ : MadeModule)) = _
        rw [toOption_eq_some hsource]
        rfl

/-- **One file.**  If it was migrated, its report is that of its module. -/
theorem module?_of_isMigrated {r : RouteFile} (h : (w.migrateFile c r).1.isMigrated = true) :
    ∃ made, w.module? c r = some made ∧ made.report = ⟨r, (w.migrateFile c r).1⟩ := by
  cases hprepare : w.prepare c r with
  | error e =>
    rw [migrateFile, hprepare] at h
    cases h
  | ok prepared =>
    cases prepared with
    | inl reason =>
      rw [migrateFile, hprepare] at h
      cases h
    | inr p =>
      obtain ⟨made, hmade, rfl, hwarnings, hpackages⟩ := module?_of_prepare hprepare
      refine ⟨made, hmade, ?_⟩
      have hdone : (w.migrateFile c made.route).1 =
          .migrated made.route.target p.warnings p.packages := by
        simp only [migrateFile, hprepare] at h ⊢
        split at h
        · next hdry => rw [if_pos hdry]
        · next hdry =>
          rw [if_neg hdry]
          split at h
          · cases h
          · rfl
      rw [hdone, hwarnings, hpackages, MadeModule.report]

/-! ### A run -/

/-- **A run.**  Its modules are those of the files that were migrated. -/
theorem map_madeModules (c : Config) (w : Workspace) (routes : List RouteFile) :
    (madeModules c w routes).map MadeModule.report =
      (migrateFiles c w routes).1.filter (·.outcome.isMigrated) := by
  induction routes generalizing w with
  | nil => rfl
  | cons r rest ih =>
    have htail := ih (w.migrateFile c r).2
    show ((if (w.migrateFile c r).1.isMigrated then (w.module? c r).toList else []) ++
      madeModules c (w.migrateFile c r).2 rest).map _ =
        List.filter _ (⟨r, (w.migrateFile c r).1⟩ :: (migrateFiles c (w.migrateFile c r).2 rest).1)
    rw [List.map_append, htail]
    cases hdone : (w.migrateFile c r).1.isMigrated with
    | false =>
      rw [List.filter_cons_of_neg (by simp [hdone])]
      rfl
    | true =>
      obtain ⟨made, hmade, hreport⟩ := module?_of_isMigrated hdone
      rw [List.filter_cons_of_pos (p := fun f : FileReport => f.outcome.isMigrated) hdone,
        ← hreport, hmade]
      rfl

theorem dependencies_install (w : Workspace) (tools : Toolbox) (root : String) (c : Config)
    (report : MigrationReport) :
    (w.install tools root c report).dependencies = report.dependencies := by
  unfold install
  split <;> rfl

/-- **A report.**  Its migrated files are those of the modules that were made, and its dependencies
are planned from what the project declares after the last file. -/
theorem migrate_report (h : (w.migrate tools root c).1 = .ok report) :
    report.files.filter (·.outcome.isMigrated) =
        (w.projectModules root c).map MadeModule.report ∧
      ∃ declared, (w.migrate tools root c).2.declaredPackages root = .ok declared ∧
        report.dependencies = .make declared (requiredPackages report.files) := by
  unfold migrate at h ⊢
  unfold projectModules
  cases hroutes : (do w.routeFiles (← w.appDirectory root).path) with
  | error e =>
    rw [hroutes] at h
    cases h
  | ok routes =>
    have hmade := map_madeModules c w routes
    rw [hroutes] at h
    cases hrun : migrateFiles c w routes with
    | mk files w₁ =>
      simp only [hrun] at h hmade ⊢
      cases hdeclared : w₁.declaredPackages root with
      | error e =>
        rw [hdeclared] at h
        cases h
      | ok declared =>
        rw [hdeclared] at h
        obtain rfl := Except.ok.inj h
        rw [files_install, dependencies_install]
        exact ⟨hmade.symm, declared, hdeclared, rfl⟩

/-! ### Dependencies -/

/-- The packages that a run needs are those of its modules. -/
theorem contains_requiredPackages (h : (w.migrate tools root c).1 = .ok report) (p : String) :
    (requiredPackages report.files).contains p = true ↔
      ∃ made ∈ w.projectModules root c, made.result.packages.contains p = true := by
  obtain ⟨hfiles, -⟩ := migrate_report h
  rw [requiredPackages, NameSet.contains_ofList, List.mem_flatMap]
  constructor
  · rintro ⟨f, hf, hp⟩
    have hdone : f.outcome.isMigrated = true := by
      cases houtcome : f.outcome with
      | migrated target warnings packages => rfl
      | skipped reason =>
        rw [houtcome] at hp
        cases hp
      | failed e =>
        rw [houtcome] at hp
        cases hp
    have hmem : f ∈ (w.projectModules root c).map MadeModule.report := by
      rw [← hfiles]
      exact List.mem_filter.mpr ⟨hf, hdone⟩
    obtain ⟨made, hmade, rfl⟩ := List.mem_map.mp hmem
    exact ⟨made, hmade, (NameSet.contains_iff_mem _ _).mpr hp⟩
  · rintro ⟨made, hmade, hp⟩
    have hmem : made.report ∈ report.files.filter (·.outcome.isMigrated) := by
      rw [hfiles]
      exact List.mem_map_of_mem hmade
    exact ⟨made.report, (List.mem_filter.mp hmem).1, (NameSet.contains_iff_mem _ _).mp hp⟩

end Workspace

namespace DependencyPlan

variable {declared required : NameSet} {p : String}

/-- What is needed is added where it is not declared. -/
theorem contains_add_make_iff :
    (make declared required).add.contains p = true ↔
      (p ∈ basePackages ∨ required.contains p = true) ∧ ¬declared.contains p = true := by
  rw [make, NameSet.contains_filter, NameSet.contains_ofList, List.mem_append,
    ← NameSet.contains_iff_mem required p, Bool.not_eq_true', Bool.not_eq_true]

/-- What is needed is declared or added. -/
theorem contains_add_make (h : p ∈ basePackages ∨ required.contains p = true) :
    declared.contains p = true ∨ (make declared required).add.contains p = true := by
  by_cases hdeclared : declared.contains p = true
  · exact Or.inl hdeclared
  · exact Or.inr (contains_add_make_iff.mpr ⟨h, hdeclared⟩)

/-- What is obsolete is removed where it is declared. -/
theorem contains_remove_make :
    (make declared required).remove.contains p = true ↔
      p ∈ obsoletePackages ∧ declared.contains p = true := by
  rw [make, NameSet.contains_filter, NameSet.contains_ofList]

end DependencyPlan

end RouteMigration
