import RouteMigration.Proofs.FailedRun
import RouteMigration.Proofs.MadeModules

/-!
# Dry runs

A dry run writes nothing, so all its decisions are made in the tree that it starts from.  A run
that writes makes each decision in the tree that the steps before have changed.  Where no target is
in the way of another one, the earlier steps change nothing that a later decision looks at: the
text of its route file, and whether anything is at its target.

## Main Definitions

* `Workspace.forecast` — what becomes of a route file, before anything is written
* `AreTargetsApart` — no target is another one, or on the way to it

## Main Statements

* `Workspace.migrateFiles_of_dryRun` — a dry run reports what is forecast
* `Site.prepare_of_first` — a step leaves the decisions on the route files after it
* `Site.migrateFiles_forecast` — so does a run, and it reports what was forecast at its start
* `Workspace.dry_run_predicts_run` — a whole project
-/

namespace RouteMigration

/-- The file could not be written, moved or removed. -/
def FileOutcome.isWriteFailure : FileOutcome → Bool
  | .failed (.write _ _) => true
  | _ => false

/-- A report without the installation of the dependencies. -/
def MigrationReport.uninstalled (report : MigrationReport) : MigrationReport :=
  { report with installation := {} }

/-- No target of a supported route file is the target of another one, or a directory on the way to
it. -/
def AreTargetsApart (routes : List RouteFile) : Prop :=
  ∀ r ∈ routes, ∀ r' ∈ routes, r ≠ r' → r.moduleKind?.isSome = true → r'.moduleKind?.isSome = true →
    ¬Path.components r.target <+: Path.components r'.target

instance (routes : List RouteFile) : Decidable (AreTargetsApart routes) :=
  inferInstanceAs (Decidable (∀ r ∈ routes, ∀ r' ∈ routes, r ≠ r' → r.moduleKind?.isSome = true →
    r'.moduleKind?.isSome = true → ¬Path.components r.target <+: Path.components r'.target))

namespace Workspace

variable {w : Workspace} {c : Config} {r : RouteFile} {routes : List RouteFile}

/-! ### Forecasts -/

/-- What becomes of a route file, as far as it can be told before anything is written. -/
def forecast (w : Workspace) (c : Config) (r : RouteFile) : FileOutcome :=
  match w.prepare c r with
  | .error e => .failed e
  | .ok (.inl reason) => .skipped reason
  | .ok (.inr p) => .migrated r.target p.warnings p.packages

/-- Only writing can make a difference to what is forecast. -/
theorem migrateFile_fst_cases (w : Workspace) (c : Config) (r : RouteFile) :
    (w.migrateFile c r).1 = w.forecast c r ∨ (w.migrateFile c r).1.isWriteFailure = true := by
  unfold migrateFile forecast
  cases w.prepare c r with
  | error e => exact Or.inl rfl
  | ok prepared =>
    cases prepared with
    | inl reason => exact Or.inl rfl
    | inr p =>
      dsimp only
      split
      · exact Or.inl rfl
      · unfold commit
        cases w.replace r.target p.code with
        | error fault => exact Or.inr rfl
        | ok w₁ =>
          dsimp only
          cases w₁.retire r c.keepBackups with
          | error fault => exact Or.inr rfl
          | ok w₂ => exact Or.inl rfl

theorem migrateFile_of_dryRun (hdry : c.dryRun = true) (w : Workspace) (r : RouteFile) :
    w.migrateFile c r = (w.forecast c r, w) := by
  unfold migrateFile forecast
  cases w.prepare c r with
  | error e => rfl
  | ok prepared =>
    cases prepared with
    | inl reason => rfl
    | inr p => exact if_pos hdry

/-- **A dry run.**  It leaves the workspace, and reports what is forecast there. -/
theorem migrateFiles_of_dryRun (hdry : c.dryRun = true) (w : Workspace) (routes : List RouteFile) :
    migrateFiles c w routes = (routes.map fun r => ⟨r, w.forecast c r⟩, w) := by
  induction routes with
  | nil => rfl
  | cons r routes ih => simp only [migrateFiles, migrateFile_of_dryRun hdry, ih, List.map_cons]

/-- A file of a kind that is not supported is left alone. -/
theorem migrateFile_of_unsupported (h : r.moduleKind? = none) :
    (w.migrateFile c r).2 = w := by
  unfold migrateFile prepare
  rw [h]

/-- Decisions only look at the text of the route file and for something at the target. -/
theorem prepare_congr {w' : Workspace} (htext : w'.readText r.source = w.readText r.source)
    (htarget : r.moduleKind?.isSome = true → w'.contains r.target = w.contains r.target) :
    w'.prepare c r = w.prepare c r := by
  unfold prepare
  cases hkind : r.moduleKind? with
  | none => rfl
  | some kind => simp only [prepareKind, htext, htarget (by rw [hkind]; rfl)]

end Workspace

/-! ### One step -/

namespace Site

open FileTree (IsConnected)

variable {s : Site} {w w₁ : Workspace} {c : Config} {r r' : RouteFile} {routes : List RouteFile}
  {t t₁ : FileTree} {outcome : FileOutcome}

/-- A location on the way to another one, or that one itself, has such a path. -/
theorem components_isPrefix_of_place {path path' : String} (hp : s.Holds path)
    (hp' : s.Holds path') (h : s.place path <+: s.place path') :
    Path.components path <+: Path.components path' := by
  obtain ⟨names, n, hnames, rfl⟩ := hp
  obtain ⟨names', n', hnames', rfl⟩ := hp'
  rw [place_below hnames, place_below hnames', List.prefix_append_right_inj] at h
  rw [Path.components_below hnames, Path.components_below hnames', List.prefix_append_right_inj]
  exact h.map _

/-- **Nothing comes to a later target, and nothing goes from there.** -/
theorem isSome_find?_target (hwalk : s.IsWalk (r :: routes))
    (hfirst : s.Changes [⟨r, outcome⟩] t t₁) (hr' : r' ∈ routes)
    (hapart : ¬Path.components r'.target <+: Path.components r.target) :
    (t₁.find? (s.place r'.target)).isSome = (t.find? (s.place r'.target)).isSome := by
  obtain ⟨dirs, stem, hlies⟩ := hwalk.liesAt r (List.mem_cons_self ..)
  obtain ⟨dirs', stem', hlies'⟩ := hwalk.liesAt r' (List.mem_cons_of_mem r hr')
  have hplace : ¬s.place r'.target <+: s.place r.target := fun h =>
    hapart (components_isPrefix_of_place hlies'.holds_target hlies.holds_target h)
  cases hentry : t.find? (s.place r'.target) with
  | some e =>
    cases e with
    | directory => rw [hfirst.directory _ hentry]
    | file content =>
      -- the first route file stands before the second, so it is not what the target is at
      rw [hfirst.file _ content hentry]
      · intro f hf _
        rw [List.mem_singleton.mp hf]
        exact (hwalk.isApart hr').source_target.symm
      · intro f hf
        rw [List.mem_singleton.mp hf]
        exact (hlies.place_backup_ne_target hlies').symm
  | none =>
    rcases hfirst.absent _ hentry with hnone | ⟨f, hf, htouched⟩ | ⟨-, f, hf, hon⟩
    · rw [hnone]
    · rw [List.mem_singleton.mp hf] at htouched
      rcases htouched with htarget | hbackup
      · exact absurd (htarget ▸ List.prefix_refl _) hplace
      · exact absurd hbackup.symm (hlies.place_backup_ne_target hlies')
    · rw [List.mem_singleton.mp hf] at hon
      exact absurd (hon.trans (List.dropLast_prefix _)) hplace

/-- **A step leaves the later decisions.**  What is prepared for a route file after the first one
is what would have been prepared for it before. -/
theorem prepare_of_first (hs : s.IsIn w) (hwalk : s.IsWalk (r :: routes))
    (hfirst : s.Changes [⟨r, outcome⟩] w.tree t₁) (hr' : r' ∈ routes)
    (hsource : ∃ bytes, w.tree.find? (s.place r'.source) = some (.file bytes))
    (hapart : r'.moduleKind?.isSome = true →
      ¬Path.components r'.target <+: Path.components r.target) :
    Workspace.prepare { w with tree := t₁ } c r' = w.prepare c r' := by
  obtain ⟨dirs', stem', hlies'⟩ := hwalk.liesAt r' (List.mem_cons_of_mem r hr')
  obtain ⟨bytes, hbytes⟩ := hsource
  have hs₁ : s.IsIn { w with tree := t₁ } := hs.mono hfirst.connected hfirst.directory
  refine Workspace.prepare_congr ?_ fun hkind => ?_
  · have htext : w.find? r'.source = some (.file bytes) := by
      rw [find?_eq hs hlies'.holds_source, hbytes]
    have htext₁ : Workspace.find? { w with tree := t₁ } r'.source = some (.file bytes) := by
      rw [find?_eq hs₁ hlies'.holds_source]
      exact hwalk.find?_of_first hfirst hr' hbytes
    rw [Workspace.readText_of_file htext, Workspace.readText_of_file htext₁]
  · rw [Workspace.contains, Workspace.contains, find?_eq hs₁ hlies'.holds_target,
      find?_eq hs hlies'.holds_target]
    exact isSome_find?_target hwalk hfirst hr' (hapart hkind)

/-! ### A run -/

/-- **A run reports what was forecast at its start**, as long as everything could be written. -/
theorem migrateFiles_forecast (hs : s.IsIn w) (hwalk : s.IsWalk routes)
    (hsources : ∀ r ∈ routes, ∃ bytes, w.tree.find? (s.place r.source) = some (.file bytes))
    (hdry : c.dryRun = false) (hapart : AreTargetsApart routes)
    (hwritten : ∀ f ∈ (Workspace.migrateFiles c w routes).1, f.outcome.isWriteFailure = false) :
    (Workspace.migrateFiles c w routes).1 = routes.map fun r => ⟨r, w.forecast c r⟩ := by
  -- from the front: the others are forecast in the same way before and after the first step
  induction routes generalizing w with
  | nil => rfl
  | cons r routes ih =>
    obtain ⟨dirs, stem, hlies⟩ := hwalk.liesAt r (List.mem_cons_self ..)
    obtain ⟨bytes, hsource⟩ := hsources r (List.mem_cons_self ..)
    have houtcome : (w.migrateFile c r).1 = w.forecast c r :=
      (Workspace.migrateFile_fst_cases w c r).resolve_right
        (Bool.eq_false_iff.mp (hwritten _ (List.mem_cons_self ..)))
    have hstep : w.migrateFile c r = ((w.migrateFile c r).1, (w.migrateFile c r).2) := rfl
    obtain ⟨t₁, hw₁, hfirst, -⟩ := migrateFile_spec hs hlies hdry hsource hstep
    have hlater : ∀ r' ∈ routes, (w.migrateFile c r).2.prepare c r' = w.prepare c r' := by
      intro r' hr'
      have hne : r' ≠ r := by
        rintro rfl
        exact (hwalk.isApart hr').source rfl
      cases hkind : r.moduleKind? with
      | none => rw [Workspace.migrateFile_of_unsupported hkind]
      | some kind =>
        rw [hw₁]
        refine prepare_of_first hs hwalk hfirst hr' (hsources r' (List.mem_cons_of_mem r hr'))
          fun hkind' => ?_
        exact hapart r' (List.mem_cons_of_mem r hr') r (List.mem_cons_self ..) hne hkind'
          (by rw [hkind]; rfl)
    have hrest : (Workspace.migrateFiles c (w.migrateFile c r).2 routes).1 =
        routes.map fun r' => ⟨r', (w.migrateFile c r).2.forecast c r'⟩ := by
      refine ih ?_ hwalk.tail ?_ ?_ ?_
      · rw [hw₁]
        exact hs.mono hfirst.connected hfirst.directory
      · intro r' hr'
        obtain ⟨bytes', hbytes⟩ := hsources r' (List.mem_cons_of_mem r hr')
        exact ⟨bytes', by rw [hw₁]; exact hwalk.find?_of_first hfirst hr' hbytes⟩
      · exact fun r₁ h₁ r₂ h₂ =>
          hapart r₁ (List.mem_cons_of_mem r h₁) r₂ (List.mem_cons_of_mem r h₂)
      · exact fun f hf => hwritten f (List.mem_cons_of_mem _ hf)
    show ⟨r, (w.migrateFile c r).1⟩ :: (Workspace.migrateFiles c (w.migrateFile c r).2 routes).1 = _
    rw [houtcome, hrest, List.map_cons]
    refine congrArg _ (List.map_congr_left fun r' hr' => ?_)
    rw [Workspace.forecast, Workspace.forecast, hlater r' hr']

end Site

/-! ### A project -/

namespace Workspace

variable {w : Workspace} {tools : Toolbox} {root : String} {c : Config} {report : MigrationReport}

/-- The targets of the route files that are found are apart. -/
def HasTargetsApart (w : Workspace) (root : String) : Prop :=
  ∀ app routes, w.appDirectory root = .ok app → w.routeFiles app.path = .ok routes →
    AreTargetsApart routes

/-- A dry run leaves the workspace. -/
theorem migrate_snd_of_dryRun (w : Workspace) (tools : Toolbox) (root : String)
    (hdry : c.dryRun = true) : (w.migrate tools root c).2 = w := by
  unfold migrate
  split
  · rfl
  · rw [migrateFiles_of_dryRun hdry]
    dsimp only
    split <;> rfl

/-- What is reported of a run over the route files that are found, but for the installation. -/
theorem migrate_fst_eq (tools : Toolbox) (c : Config) {app : AppDirectory}
    {routes : List RouteFile} (happ : w.appDirectory root = .ok app)
    (hroutes : w.routeFiles app.path = .ok routes) :
    (w.migrate tools root c).1.map MigrationReport.uninstalled =
      ((migrateFiles c w routes).2.declaredPackages root).map fun declared =>
        { files := (migrateFiles c w routes).1
          dependencies := .make declared (requiredPackages (migrateFiles c w routes).1) } := by
  have hfound : (do w.routeFiles (← w.appDirectory root).path) = .ok routes :=
    bind_eq_ok_iff.mpr ⟨app, happ, hroutes⟩
  unfold migrate
  rw [hfound]
  dsimp only
  cases (migrateFiles c w routes).2.declaredPackages root with
  | error e => rfl
  | ok declared =>
    simp only [Except.map, MigrationReport.uninstalled, files_install, dependencies_install]

/-- A dry run starts no program. -/
theorem installation_of_dryRun (hdry : c.dryRun = true)
    (h : (w.migrate tools root c).1 = .ok report) : report.installation = {} := by
  unfold migrate at h
  split at h
  · cases h
  · rw [migrateFiles_of_dryRun hdry] at h
    dsimp only at h
    split at h
    · cases h
    · obtain rfl := Except.ok.inj h
      simp [install, hdry]

theorem uninstalled_of_dryRun (hdry : c.dryRun = true) :
    (w.migrate tools root c).1.map MigrationReport.uninstalled = (w.migrate tools root c).1 := by
  cases hrun : (w.migrate tools root c).1 with
  | error e => rfl
  | ok report =>
    have hnone := installation_of_dryRun hdry hrun
    show Except.ok { report with installation := {} } = _
    rw [← hnone]

/-- **A dry run changes nothing and predicts the run.**  It leaves the workspace and starts no
program.  If the targets of the supported route files are apart and the run that writes reports no
failure to write, both report the same outcomes and plan the same dependencies, or fail with the
same error. -/
theorem dry_run_predicts_run (w : Workspace) (tools : Toolbox) (root : String) (c : Config)
    (hsound : w.tree.IsSound) (hplain : w.HasPlainRoutes root) :
    (w.migrate tools root { c with dryRun := true }).2 = w ∧
    (∀ report, (w.migrate tools root { c with dryRun := true }).1 = .ok report →
      report.installation = {}) ∧
    (w.HasTargetsApart root →
      (∀ report, (w.migrate tools root { c with dryRun := false }).1 = .ok report →
        ∀ f ∈ report.files, f.outcome.isWriteFailure = false) →
      (w.migrate tools root { c with dryRun := true }).1 =
        (w.migrate tools root { c with dryRun := false }).1.map MigrationReport.uninstalled) := by
  refine ⟨migrate_snd_of_dryRun w tools root rfl, fun _ => installation_of_dryRun rfl, ?_⟩
  intro hapart hwritten
  cases hfound : (do w.routeFiles (← w.appDirectory root).path) with
  | error e =>
    unfold migrate
    rw [hfound]
    rfl
  | ok routes =>
    obtain ⟨app, happ, hroutes⟩ := bind_eq_ok_iff.mp hfound
    obtain ⟨s, -, hs, hwalk, hsources⟩ := routeFiles_spec hsound (isDirectory_of_appDirectory happ)
      (fun l hl => hplain app l happ hl) hroutes
    have hadvance : w.Advances _ (migrateFiles { c with dryRun := false } w routes).2 :=
      migrateFiles_advances hsound.isConnected (areSources_of_routeFiles hsound happ hroutes)
    have hrun := migrate_fst_eq tools { c with dryRun := false } happ hroutes
    rw [hadvance.declaredPackages_eq happ] at hrun
    rw [← uninstalled_of_dryRun rfl, migrate_fst_eq _ _ happ hroutes, migrateFiles_of_dryRun rfl,
      hrun]
    cases hdeclared : w.declaredPackages root with
    | error e => rfl
    | ok declared =>
      -- the run ends with a report, so what was written is known to be no failure
      have hfiles : ∀ f ∈ (migrateFiles { c with dryRun := false } w routes).1,
          f.outcome.isWriteFailure = false := by
        rw [hdeclared] at hrun
        cases hreport : (w.migrate tools root { c with dryRun := false }).1 with
        | error e =>
          rw [hreport] at hrun
          cases hrun
        | ok report =>
          rw [hreport] at hrun
          have hsame := congrArg MigrationReport.files (Except.ok.inj hrun)
          intro f hf
          exact hwritten report hreport f (hsame ▸ hf)
      rw [Site.migrateFiles_forecast hs hwalk hsources rfl (hapart app routes happ hroutes) hfiles]
      rfl

/-- The targets of that project are apart, though one of them lies below the path of a page. -/
theorem hasTargetsApart_pathTaken : pathTaken.HasTargetsApart "p" := by
  intro app routes happ hroutes
  have happ' : pathTaken.appDirectory "p" = .ok ⟨"p/app", false⟩ := by decide +kernel
  rw [happ'] at happ
  cases happ
  have hapart : ((pathTaken.routeFiles "p/app").toOption.all fun routes =>
      decide (AreTargetsApart routes)) = true := by
    decide +kernel
  rw [hroutes] at hapart
  exact of_decide_eq_true hapart

/-- The dry run over that project forecasts both of its migrations. -/
theorem dry_run_predicts_pathTaken :
    pathTaken.tree.IsSound ∧ pathTaken.HasPlainRoutes "p" ∧ pathTaken.HasTargetsApart "p" ∧
      (pathTaken.migrate (fun _ => none) "p" { dryRun := true }).2 = pathTaken ∧
      ∃ report, (pathTaken.migrate (fun _ => none) "p" {}).1 = .ok report ∧
        report.files.length = 2 ∧ (∀ f ∈ report.files, f.outcome.isMigrated = true) ∧
        (pathTaken.migrate (fun _ => none) "p" { dryRun := true }).1 = .ok report.uninstalled := by
  obtain ⟨report, hreport, hlength, hmigrated, -⟩ := migrate_pathTaken
  have hpredicts := dry_run_predicts_run pathTaken (fun _ => none) "p" {} isSound_pathTaken
    hasPlainRoutes_pathTaken
  have hwritten : ∀ report', (pathTaken.migrate (fun _ => none) "p" {}).1 = .ok report' →
      ∀ f ∈ report'.files, f.outcome.isWriteFailure = false := by
    intro report' hreport' f hf
    obtain rfl := Except.ok.inj (hreport.symm.trans hreport')
    have hdone := hmigrated f hf
    cases houtcome : f.outcome with
    | migrated target warnings packages => rfl
    | skipped reason => rfl
    | failed e =>
      rw [houtcome] at hdone
      cases hdone
  refine ⟨isSound_pathTaken, hasPlainRoutes_pathTaken, hasTargetsApart_pathTaken, hpredicts.1,
    report, hreport, hlength, hmigrated, ?_⟩
  rw [hpredicts.2.2 hasTargetsApart_pathTaken hwritten, hreport]
  rfl

end Workspace

end RouteMigration
