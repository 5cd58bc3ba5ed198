import RouteMigration.Proofs.DryRun
import RouteMigration.Proofs.FlatTargets
import RouteMigration.Proofs.Reaches

/-!
# Runs after a run

A module that a run has written is looked at by the next run like any other file.  What a run puts
into a tree has the name of a target or of a backup, so it is a route file of the next run only if
one of these names is the name of a route file.  Backups never have such a name.  Targets have one
in one case: the page of `/page`, or of another route that is called like a stem, goes to a file of
just that name.

## Main Definitions

* `IsRouteName` — the name of a route file that a run migrates
* `RouteFile.TakesRouteName` — a page whose module has the name of a route file

## Main Statements

* `RouteFile.analyze?_backup`, `RouteFile.isSome_analyze?_target_iff` — which backups and targets
  are route files
* `Workspace.mem_routeFiles_of_reaches` — a route file that is found later was found before
* `Workspace.second_run_changes_nothing` — a run after a run in which nothing was left to do
-/

namespace RouteMigration

open RouteMigration.Path (IsName)

/-! ### Last names -/

namespace Text

/-- What is written after a text belongs to its last piece. -/
theorem splitAt_append_text {cut : Char → Bool} {ys : List Char} (hys : ∀ c ∈ ys, cut c = false)
    (xs : List Char) : ∃ front last, splitAt cut (xs ++ ys) = front ++ [last ++ ys] := by
  induction xs with
  | nil => exact ⟨[], [], by rw [List.nil_append, splitAt_eq_singleton hys]; rfl⟩
  | cons x xs ih =>
    obtain ⟨front, last, hsplit⟩ := ih
    rw [List.cons_append, splitAt, hsplit]
    split
    · exact ⟨[] :: front, last, rfl⟩
    · cases front with
      | nil => exact ⟨[], x :: last, rfl⟩
      | cons piece front => exact ⟨(x :: piece) :: front, last, rfl⟩

end Text

namespace Path

/-- The last name of a backup ends as the backup does. -/
theorem exists_fileName?_backup (path : String) :
    ∃ front, fileName? (path ++ ".backup") = some (front ++ ".backup") := by
  have hback : ∀ c ∈ ".backup".toList, (c == '/') = false := by simp
  obtain ⟨front, last, hsplit⟩ := Text.splitAt_append_text hback path.toList
  have hslash : '/' ∉ (String.ofList last ++ ".backup").toList := by
    have hmem : last ++ ".backup".toList ∈
        Text.splitAt (· == '/') (path.toList ++ ".backup".toList) := by
      rw [hsplit]
      exact List.mem_append_right _ (List.mem_singleton_self _)
    intro hmem'
    have hcut := Text.not_cut_of_mem_splitAt hmem '/' (by simpa using hmem')
    exact absurd hcut (by decide)
  have hname : IsName (String.ofList last ++ ".backup") := by
    refine isName_of_length ?_ hslash
    rw [String.length_append, show ".backup".length = 7 from rfl]
    omega
  have hpiece : String.ofList (last ++ ".backup".toList) = String.ofList last ++ ".backup" := by
    rw [← String.toList_inj]
    simp
  refine ⟨String.ofList last, ?_⟩
  rw [fileName?, components_eq, Text.pieces, String.toList_append, hsplit, List.map_append,
    List.map_singleton, hpiece, List.filterMap_append, List.filterMap_cons_some hname.ofPiece?,
    List.filterMap_nil, ← List.append_assoc, List.getLast?_concat]

end Path

/-- The name of a route file that a run migrates. -/
def IsRouteName (n : String) : Prop :=
  ∃ stem, ∃ ext ∈ routeExtensions, n = stem ++ "." ++ ext ∧
    ∃ kind, RouteKind.ofStem? stem = some kind ∧ kind ≠ .notFound

/-- The name of a backup is not the name of a route file. -/
theorem not_isRouteName_backup (front : String) : ¬IsRouteName (front ++ ".backup") := by
  rintro ⟨stem, ext, hext, heq, -⟩
  exact dotted_ne_backup stem front hext heq.symm

/-- Only the route that is called like a stem has the stem as its flat name. -/
theorem flatName_routePath_eq_iff {dir stem : String} (hstem : stem ∈ routeStems) :
    flatName (routePath dir) = stem ↔ routePath dir = "/" ++ stem := by
  have hplain := plain_of_routeStem stem hstem
  have hindex : "index".toList ≠ stem.toList := by
    have hall : ∀ stem ∈ routeStems, "index".toList ≠ stem.toList := by decide
    exact hall stem hstem
  have hnonempty : stem.toList ≠ [] := by
    have hall : ∀ stem ∈ routeStems, stem.toList ≠ [] := by decide
    exact hall stem hstem
  rw [show "/" ++ stem = "/" ++ String.ofList stem.toList by rw [String.ofList_toList],
    routePath_eq_iff, flatName, ← String.toList_inj, String.toList_ofList]
  generalize (routePath dir).toList.drop 1 = below
  cases below with
  | nil => exact iff_of_false hindex (Ne.symm hnonempty)
  | cons c cs =>
    show (c :: cs).map flatChar = stem.toList ↔ c :: cs = stem.toList
    constructor
    · -- a slash in the route would be a dot in the stem
      intro heq
      have hslash : '/' ∉ c :: cs := by
        intro hmem
        have hdot : '.' ∈ (c :: cs).map flatChar := List.mem_map.mpr ⟨'/', hmem, rfl⟩
        rw [heq] at hdot
        exact hplain.1 hdot
      rw [← heq, map_flatChar_of_not_slash hslash]
    · intro heq
      rw [heq]
      exact map_flatChar_of_not_slash hplain.2.1

/-! ### Targets and backups as route files -/

/-- What is no page keeps its directory, or goes to the top, under a name that no route file has. -/
theorem targetPath_of_not_page (app dir : String) {kind : RouteKind} (hkind : kind ≠ .page)
    (ext : String) : ∃ parent front,
      targetPath app dir kind ext = Path.join parent (front ++ "." ++ ext) ∧
      '/' ∉ front.toList ∧ RouteKind.ofStem? front = none := by
  have hlabel : ∀ kind : RouteKind, '/' ∉ ("_" ++ kind.label).toList ∧
      RouteKind.ofStem? ("_" ++ kind.label) = none := by
    intro kind
    cases kind <;> decide
  unfold targetPath
  split
  · exact absurd rfl hkind
  · exact absurd rfl hkind
  · exact ⟨app, "__root", rfl, by decide, by decide⟩
  · exact ⟨_, _, rfl, hlabel _⟩

namespace RouteFile

variable {path app : String} {r : RouteFile}

/-- A page whose module has the name of a route file: its route is called like a stem. -/
def TakesRouteName (r : RouteFile) : Prop :=
  r.kind = .page ∧ ∃ stem ∈ routeStems, r.route = "/" ++ stem

instance (r : RouteFile) : Decidable r.TakesRouteName :=
  inferInstanceAs (Decidable (r.kind = .page ∧ ∃ stem ∈ routeStems, r.route = "/" ++ stem))

/-- **Backups are no route files.** -/
theorem analyze?_backup (r : RouteFile) (app : String) : analyze? r.backup app = none := by
  cases h : analyze? r.backup app with
  | none => rfl
  | some r' =>
    obtain ⟨-, hext, ⟨stem, hfile, -⟩, -⟩ := analyze?_eq_some h
    obtain ⟨front, hback⟩ := Path.exists_fileName?_backup r.source
    rw [backup, hback] at hfile
    exact absurd (Option.some.inj hfile).symm (dotted_ne_backup stem front hext)

/-- The last name of a target.  It has the stem of a route file only if it is the flat name of a
page. -/
theorem fileName?_target (h : analyze? path app = some r) :
    ∃ front, Path.fileName? r.target = some (front ++ "." ++ r.ext) ∧
      ∀ kind, RouteKind.ofStem? front = some kind → r.kind = .page ∧ r.route = "/" ++ front := by
  have hext := (analyze?_eq_some h).2.1
  by_cases hpage : r.kind = .page
  · refine ⟨flatName r.route, ?_, fun kind hkind => ⟨hpage, ?_⟩⟩
    · rw [target_of_page h hpage]
      exact Path.fileName?_join (isName_dotted (not_slash_flatName r.dir) hext)
    · exact (flatName_routePath_eq_iff (mem_routeStems hkind)).mp rfl
  · obtain ⟨parent, front, htarget, hslash, hnone⟩ := targetPath_of_not_page app r.dir hpage r.ext
    refine ⟨front, ?_, fun kind hkind => ?_⟩
    · rw [target_eq h, htarget]
      exact Path.fileName?_join (isName_dotted hslash hext)
    · rw [hnone] at hkind
      cases hkind

/-- **Targets as route files.**  The module of a route file is a route file itself exactly if it is
the module of a page whose route is called like a stem. -/
theorem isSome_analyze?_target_iff (h : analyze? path app = some r) :
    (analyze? r.target app).isSome = true ↔ r.TakesRouteName := by
  have hext := (analyze?_eq_some h).2.1
  constructor
  · intro hsome
    obtain ⟨r', hr'⟩ := Option.isSome_iff_exists.mp hsome
    obtain ⟨-, hext', ⟨stem, hfile, hkind⟩, -⟩ := analyze?_eq_some hr'
    obtain ⟨front, hfront, hpage⟩ := fileName?_target h
    rw [hfront] at hfile
    obtain ⟨rfl, -⟩ := eq_of_dotted (not_dot_of_routeExtension _ hext)
      (not_dot_of_routeExtension _ hext') (Option.some.inj hfile)
    exact ⟨(hpage _ hkind).1, front, mem_routeStems hkind, (hpage _ hkind).2⟩
  · rintro ⟨hpage, stem, hstem, hroute⟩
    have hflat : flatName r.route = stem := (flatName_routePath_eq_iff hstem).mpr hroute
    have hname : ∀ n ∈ [] ++ [flatName r.route ++ "." ++ r.ext], IsName n :=
      List.forall_mem_singleton.mpr (isName_dotted (not_slash_flatName r.dir) hext)
    have hbelow : r.target = Path.below app ([] ++ [flatName r.route ++ "." ++ r.ext]) := by
      rw [target_of_page h hpage, Path.below_concat, Path.below_nil]
    rw [hbelow, isSome_analyze?_below_iff hname]
    exact ⟨stem, hstem, r.ext, hext, by rw [hflat]⟩

/-- What the migration of a route file puts in is called like no route file that a run migrates,
unless its module is. -/
theorem puts_of_analyze? {name : String} {dirs : List String} (hname : IsName name)
    (h : analyze? (Path.below app (dirs ++ [name])) app = some r)
    (hroute : r.TakesRouteName → r.route = "/not-found") : r.Puts fun n => ¬IsRouteName n := by
  have hpaths := hasWorkPaths_of_analyze? hname h
  have hext := (analyze?_eq_some h).2.1
  refine ⟨hpaths, ?_, ?_⟩
  · obtain ⟨dir, n, hn, -, htarget⟩ := hpaths.target
    refine ⟨dir, n, hn, ?_, htarget⟩
    rintro ⟨stem, ext, hext', rfl, kind, hkind, hsupported⟩
    obtain ⟨front, hfront, hpage⟩ := fileName?_target h
    rw [htarget, Path.fileName?_join hn] at hfront
    obtain ⟨rfl, -⟩ := eq_of_dotted (not_dot_of_routeExtension _ hext')
      (not_dot_of_routeExtension _ hext) (Option.some.inj hfront)
    obtain ⟨hkind', hcalled⟩ := hpage kind hkind
    have hsame : "/" ++ stem = "/" ++ "not-found" :=
      hcalled.symm.trans (hroute ⟨hkind', stem, mem_routeStems hkind, hcalled⟩)
    obtain rfl := (String.append_right_inj "/").mp hsame
    exact hsupported (Option.some.inj hkind).symm
  · obtain ⟨dir, n, hn, -, hbackup⟩ := hpaths.backup
    refine ⟨dir, n, hn, ?_, hbackup⟩
    obtain ⟨front, hfront⟩ := Path.exists_fileName?_backup r.source
    rw [← backup, hbackup, Path.fileName?_join hn] at hfront
    rw [Option.some.inj hfront]
    exact not_isRouteName_backup front

/-- A route file that a run migrates has the name of one. -/
theorem isRouteName_fileName (h : analyze? path app = some r)
    (hkind : r.moduleKind?.isSome = true) :
    IsRouteName r.fileName := by
  obtain ⟨hsource, hext, ⟨stem, hfile, hstem⟩, -⟩ := analyze?_eq_some h
  have hsupported : r.kind ≠ .notFound := by
    intro hnone
    rw [moduleKind?, hnone] at hkind
    cases hkind
  exact ⟨stem, r.ext, hext, by rw [fileName, hsource, hfile, Option.getD_some], r.kind, hstem,
    hsupported⟩

end RouteFile

/-! ### Where the next run looks -/

namespace Workspace

open FileTree (Reaches)

variable {w w' : Workspace} {P : String → Prop} {root : String} {app : AppDirectory}
  {routes : List RouteFile} {here : Location} {kept : Location → Prop}

theorem locate_below_of_directory (hw : w.tree.IsConnected)
    (hsteps : (Path.components root).foldlM w.tree.step w.directory = .ok here)
    {dirs : List String} {n : String} (hnames : ∀ m ∈ dirs ++ [n], IsName m)
    (h : w.tree.find? (here ++ (dirs ++ [n])) = some .directory) :
    w.locate (Path.below root (dirs ++ [n])) = .ok (here ++ (dirs ++ [n])) := by
  refine (FileTree.locate_below_eq_ok_iff hw hsteps hnames).mpr ⟨hw (here ++ dirs) n ?_, rfl⟩
  rw [List.append_assoc, h]
  simp

/-- A path of names below a directory leads to a directory where there is one at the location with
these names. -/
theorem isDirectory_below_iff (hw : w.tree.IsConnected)
    (hsteps : (Path.components root).foldlM w.tree.step w.directory = .ok here)
    {dirs : List String} {n : String} (hnames : ∀ m ∈ dirs ++ [n], IsName m) :
    w.isDirectory (Path.below root (dirs ++ [n])) = true ↔
      w.tree.find? (here ++ (dirs ++ [n])) = some .directory := by
  rw [isDirectory, decide_eq_true_iff, find?]
  constructor
  · intro h
    split at h
    · next l hl =>
      obtain ⟨-, rfl⟩ := (FileTree.locate_below_eq_ok_iff hw hsteps hnames).mp hl
      exact h
    · cases h
  · intro h
    rw [locate_below_of_directory hw hsteps hnames h]
    exact h

/-- **The app directory later.**  It is the one from before, or one that was no directory then. -/
theorem exists_appDirectory_later (hw : w.tree.IsConnected) (happ : w.appDirectory root = .ok app)
    (hlater : w.Advances kept w') :
    ∃ app' l, w'.appDirectory root = .ok app' ∧ w'.locate app'.path = .ok l ∧
      w'.tree.find? l = some .directory ∧
      (w.tree.find? l = some .directory → app' = app ∧ w.locate app.path = .ok l) := by
  obtain ⟨here, hsteps, -⟩ := exists_root_of_appDirectory happ
  have hsteps' : (Path.components root).foldlM w'.tree.step w'.directory = .ok here := by
    rw [hlater.start]
    exact FileTree.foldlM_step_mono hlater.directory hsteps
  have hw' := hlater.connected
  have hsrc : ∀ m ∈ ["src"] ++ ["app"], IsName m := by decide
  have htop : ∀ m ∈ [] ++ ["app"], IsName m := by decide
  by_cases hnew : w'.isDirectory (Path.below root (["src"] ++ ["app"])) = true
  · have hnew' := (isDirectory_below_iff hw' hsteps' hsrc).mp hnew
    refine ⟨_, _, if_pos hnew, locate_below_of_directory hw' hsteps' hsrc hnew', hnew',
      fun hold => ?_⟩
    have happ' : w.appDirectory root = .ok ⟨Path.below root (["src"] ++ ["app"]), true⟩ :=
      if_pos ((isDirectory_below_iff hw hsteps hsrc).mpr hold)
    obtain rfl := Except.ok.inj (happ.symm.trans happ')
    exact ⟨rfl, locate_below_of_directory hw hsteps hsrc hold⟩
  · -- then there was none below `src` before either
    have hnone : ¬w.isDirectory (Path.below root (["src"] ++ ["app"])) = true := fun hold =>
      hnew ((isDirectory_below_iff hw' hsteps' hsrc).mpr
        (hlater.directory _ ((isDirectory_below_iff hw hsteps hsrc).mp hold)))
    have hold : w.isDirectory (Path.below root ([] ++ ["app"])) = true := by
      by_contra hnot
      have hfail : w.appDirectory root = .error (.noAppDirectory root) :=
        (if_neg hnone).trans (if_neg hnot)
      rw [happ] at hfail
      cases hfail
    have hold' := (isDirectory_below_iff hw hsteps htop).mp hold
    have hlast := hlater.directory _ hold'
    have happ' : w.appDirectory root = .ok ⟨Path.below root ([] ++ ["app"]), false⟩ :=
      (if_neg hnone).trans (if_pos hold)
    obtain rfl := Except.ok.inj (happ.symm.trans happ')
    refine ⟨_, _, (if_neg hnew).trans (if_pos ((isDirectory_below_iff hw' hsteps' htop).mpr hlast)),
      locate_below_of_directory hw' hsteps' htop hlast, hlast, fun _ => ⟨rfl, ?_⟩⟩
    exact locate_below_of_directory hw hsteps htop hold'

/-- **A route file that is found later was found before**, if its name is none of a file that was
put in. -/
theorem mem_routeFiles_of_reaches (hw : w.tree.IsSound) (happ : w.appDirectory root = .ok app)
    (hroutes : w.routeFiles app.path = .ok routes) (hlater : w.Advances kept w')
    (hreach : w.tree.Reaches P w'.tree) :
    ∃ app' routes', w'.appDirectory root = .ok app' ∧ w'.routeFiles app'.path = .ok routes' ∧
      ∀ r ∈ routes', ¬P r.fileName → r ∈ routes ∧ ∃ here content,
        w.locate r.source = .ok (here ++ [r.fileName]) ∧
          w'.tree.find? (here ++ [r.fileName]) = some (.file content) := by
  obtain ⟨app', l, happ', hl', hdir', hsame⟩ := exists_appDirectory_later hw.isConnected happ hlater
  have hw' := hreach.isSound hw
  refine ⟨app', _, happ', routeFiles_of_directory hl' hdir', fun r hr hnew => ?_⟩
  obtain ⟨names, hnames, hread⟩ := List.mem_filterMap.mp hr
  obtain ⟨hne, hpublic, -⟩ := (mem_publicFiles_iff hw' hdir').mp hnames
  obtain ⟨dirs, n, content, rfl, hvalid, hfile'⟩ := isName_of_mem_publicFiles hw' hdir' hnames
  have hname : r.fileName = n := by
    rw [RouteFile.fileName, (RouteFile.analyze?_eq_some hread).1,
      Path.fileName?_below (hvalid n (by simp)), Option.getD_some]
  rw [hname] at hnew ⊢
  have hfile : w.tree.find? (l ++ dirs ++ [n]) = some (.file content) :=
    hreach.find?_file hnew (by rwa [List.append_assoc])
  -- so the directory that is looked into now was there
  have hdir : w.tree.find? l = some .directory := by
    refine hw.isConnected.find?_of_append (show dirs ++ [n] ≠ [] by simp) ?_
    rw [← List.append_assoc, hfile]
    simp
  obtain ⟨rfl, hl⟩ := hsame hdir
  refine ⟨?_, l ++ dirs, content, ?_, by rwa [List.append_assoc]⟩
  · rw [routeFiles_of_directory hl hdir] at hroutes
    cases hroutes
    refine List.mem_filterMap.mpr ⟨dirs ++ [n], ?_, hread⟩
    exact (mem_publicFiles_iff hw hdir).mpr ⟨hne, hpublic, content, by rwa [← List.append_assoc]⟩
  · have hs : (⟨app'.path, l⟩ : Site).IsIn w := ⟨hw.isConnected, hl, hdir⟩
    have hplace := Site.place_below (s := ⟨app'.path, l⟩) hvalid
    rw [(RouteFile.analyze?_eq_some hread).1, List.append_assoc]
    refine (Site.locate_eq_ok_iff hs ⟨dirs, n, hvalid, rfl⟩).mpr ⟨?_, hplace.symm⟩
    rw [hplace, ← List.append_assoc, List.dropLast_concat]
    have hsome : w.tree.find? (l ++ dirs ++ [n]) ≠ none := by
      rw [hfile]
      simp
    exact hw.isConnected (l ++ dirs) n hsome

/-- A project is looked for from a directory. -/
theorem find?_directory_of_appDirectory (happ : w.appDirectory root = .ok app) :
    w.tree.find? w.directory = some .directory := by
  obtain ⟨here, hsteps, hhere⟩ := exists_root_of_appDirectory happ
  have hname : IsName "app" := by decide
  have hpath : IsPathTo (fun _ => True) (Path.join root "app") := ⟨root, "app", hname, trivial, rfl⟩
  exact FileTree.find?_start_of_locate hpath
    ((FileTree.locate_join_eq_ok_iff hname).mpr ⟨here, hsteps, hhere, rfl⟩)

/-! ### The next run -/

/-- A run over route files that are not supported. -/
theorem migrateFiles_of_unsupported {c : Config} (h : ∀ r ∈ routes, r.moduleKind? = none) :
    migrateFiles c w routes =
      (routes.map fun r => ⟨r, .skipped (.unsupported r.kind)⟩, w) := by
  induction routes with
  | nil => rfl
  | cons r routes ih =>
    have hstep : w.migrateFile c r = (.skipped (.unsupported r.kind), w) := by
      rw [migrateFile, prepare, h r (List.mem_cons_self ..)]
    simp only [migrateFiles, hstep, ih fun r' hr' => h r' (List.mem_cons_of_mem r hr'),
      List.map_cons]

/-- Nothing is installed where no file was migrated. -/
theorem install_of_none {tools : Toolbox} {c : Config} {report : MigrationReport}
    (h : report.migrated = 0) : w.install tools root c report = report := by
  simp [install, h]

/-- A project without supported route files. -/
theorem migrate_of_unsupported (tools : Toolbox) (c : Config) {declared : NameSet}
    (happ : w.appDirectory root = .ok app) (hroutes : w.routeFiles app.path = .ok routes)
    (hdeclared : w.declaredPackages root = .ok declared)
    (h : ∀ r ∈ routes, r.moduleKind? = none) :
    ∃ report, w.migrate tools root c = (.ok report, w) ∧ report.migrated = 0 ∧
      (∀ f ∈ report.files, f.outcome.isSkipped = true) ∧ report.installation = {} := by
  have hfound : (do w.routeFiles (← w.appDirectory root).path) = .ok routes :=
    bind_eq_ok_iff.mpr ⟨app, happ, hroutes⟩
  obtain ⟨files, hfiles⟩ : ∃ files : List FileReport,
      files = routes.map fun r => ⟨r, .skipped (.unsupported r.kind)⟩ := ⟨_, rfl⟩
  have hskipped : ∀ f ∈ files, f.outcome.isSkipped = true ∧ f.outcome.isMigrated = false := by
    intro f hf
    rw [hfiles] at hf
    obtain ⟨r, -, rfl⟩ := List.mem_map.mp hf
    exact ⟨rfl, rfl⟩
  have hnone : MigrationReport.migrated
      { files, dependencies := .make declared (requiredPackages files) } = 0 := by
    rw [MigrationReport.migrated, MigrationReport.count, List.length_eq_zero_iff,
      List.filter_eq_nil_iff]
    exact fun f hf => Bool.eq_false_iff.mp (hskipped f hf).2
  refine ⟨_, ?_, hnone, fun f hf => (hskipped f hf).1, rfl⟩
  rw [migrate, hfound]
  dsimp only
  rw [migrateFiles_of_unsupported h, ← hfiles]
  dsimp only
  rw [hdeclared]
  dsimp only
  rw [install_of_none hnone]

/-- Where a route file that is found was read. -/
theorem exists_of_mem_routeFiles (hw : w.tree.IsSound) (happ : w.appDirectory root = .ok app)
    (hroutes : w.routeFiles app.path = .ok routes) {r : RouteFile} (hr : r ∈ routes) :
    ∃ dirs n, IsName n ∧
      RouteFile.analyze? (Path.below app.path (dirs ++ [n])) app.path = some r := by
  obtain ⟨l, hl, rfl⟩ := routeFiles_eq_ok hroutes
  have hdir : w.tree.find? l = some .directory := by
    simpa [isDirectory, find?, hl] using isDirectory_of_appDirectory happ
  obtain ⟨names, hnames, hread⟩ := List.mem_filterMap.mp hr
  obtain ⟨dirs, n, content, rfl, hvalid, -⟩ := isName_of_mem_publicFiles hw hdir hnames
  exact ⟨dirs, n, hvalid n (by simp), hread⟩

/-- **Runs after a run.**  The backup of a route file is never one itself, and its target only if it
takes the name of one.  So when a run has migrated every route file of a supported kind, and no
target took such a name but that of `/not-found`, the next run finds nothing that it supports: it
skips all files, installs nothing and changes nothing. -/
theorem second_run_changes_nothing :
    (∀ path app r, RouteFile.analyze? path app = some r →
      RouteFile.analyze? r.backup app = none ∧
        ((RouteFile.analyze? r.target app).isSome = true ↔ r.TakesRouteName)) ∧
    ∀ (w : Workspace) (tools : Toolbox) (root : String) (c : Config) (report : MigrationReport),
      w.tree.IsSound → c.dryRun = false → (w.migrate tools root c).1 = .ok report →
      (∀ f ∈ report.files, f.route.moduleKind?.isSome = true → f.outcome.isMigrated = true) →
      (∀ f ∈ report.files, f.route.TakesRouteName → f.route.route = "/not-found") →
      ∀ (tools' : Toolbox) (c' : Config), ∃ report',
        (w.migrate tools root c).2.migrate tools' root c' =
          (.ok report', (w.migrate tools root c).2) ∧
        report'.migrated = 0 ∧ (∀ f ∈ report'.files, f.outcome.isSkipped = true) ∧
        report'.installation = {} := by
  refine ⟨fun path app r h =>
    ⟨RouteFile.analyze?_backup r app, RouteFile.isSome_analyze?_target_iff h⟩, ?_⟩
  intro w tools root c report hsound hdry hrun hmigrated hroute tools' c'
  obtain ⟨app, routes, happ, hroutes, hfiles⟩ := migrate_eq_ok hrun
  have hsources := areSources_of_routeFiles hsound happ hroutes
  have hadvance : w.Advances _ (migrateFiles c w routes).2 :=
    migrateFiles_advances hsound.isConnected hsources
  obtain ⟨-, declared, hdeclared, -⟩ := migrate_report hrun
  rw [migrate_snd happ hroutes] at hdeclared ⊢
  have hfiles' : (migrateFiles c w routes).1 = report.files := by rw [hfiles]
  have hmap : report.files.map (·.route) = routes := by
    rw [← hfiles']
    exact map_route_migrateFiles c w routes
  have hputs : ∀ r ∈ routes, r.Puts fun n => ¬IsRouteName n := by
    intro r hr
    obtain ⟨dirs, n, hn, hread⟩ := exists_of_mem_routeFiles hsound happ hroutes hr
    rw [← hmap] at hr
    obtain ⟨f, hf, rfl⟩ := List.mem_map.mp hr
    exact RouteFile.puts_of_analyze? hn hread (hroute f hf)
  have hstart := find?_directory_of_appDirectory happ
  have hreach := migrateFiles_reaches hsound hstart hputs hdry
  obtain ⟨app', routes', happ', hroutes', hlater⟩ :=
    mem_routeFiles_of_reaches hsound happ hroutes hadvance hreach
  refine migrate_of_unsupported tools' c' happ' hroutes' hdeclared fun r hr => ?_
  by_contra hkind
  have hkind : r.moduleKind?.isSome = true := Option.isSome_iff_ne_none.mpr hkind
  obtain ⟨dirs, n, hn, hread⟩ := exists_of_mem_routeFiles (hreach.isSound hsound) happ' hroutes' hr
  have hname := RouteFile.isRouteName_fileName hread hkind
  obtain ⟨hold, here, content, hl, hfile⟩ := hlater r hr (not_not_intro hname)
  -- it was a route file of the first run, and migrated there, so it cannot be a file now
  rw [← hmap] at hold
  obtain ⟨f, hf, rfl⟩ := List.mem_map.mp hold
  exact find?_source_of_migrated hsound hstart hputs hdry (hfiles' ▸ hf) (hmigrated f hf hkind)
    (not_not_intro hname) hl hfile

/-- A project with a top page, a layout, and a page whose module is called like a file for what is
not found. -/
def missingPage : Workspace where
  tree := ⟨[(["p"], .directory), (["p", "app"], .directory),
    (["p", "app", "layout.tsx"], .file #[]), (["p", "app", "not-found"], .directory),
    (["p", "app", "not-found", "page.tsx"], .file #[]), (["p", "app", "page.tsx"], .file #[])]⟩

/-- The run after the run over that project finds one route file, of a kind that is not supported,
and changes nothing. -/
theorem second_run_leaves_missingPage :
    (∃ r, RouteFile.analyze? "p/app/page.tsx" "p/app" = some r ∧
      RouteFile.analyze? r.backup "p/app" = none ∧ RouteFile.analyze? r.target "p/app" = none) ∧
    missingPage.tree.IsSound ∧ ∃ report report',
      (missingPage.migrate (fun _ => none) "p" {}).1 = .ok report ∧ report.migrated = 3 ∧
      (missingPage.migrate (fun _ => none) "p" {}).2.migrate (fun _ => none) "p" {} =
        (.ok report', (missingPage.migrate (fun _ => none) "p" {}).2) ∧
      report'.migrated = 0 := by
  have hsound : missingPage.tree.IsSound := ⟨by decide, by decide, by decide⟩
  have hrun : ((missingPage.migrate (fun _ => none) "p" {}).1.toOption.any fun report =>
      report.migrated = 3 && report.files.all fun f =>
        f.outcome.isMigrated &&
          (!f.route.TakesRouteName || f.route.route = "/not-found")) = true := by
    decide +kernel
  obtain ⟨hroutes, hruns⟩ := second_run_changes_nothing
  refine ⟨?_, hsound, ?_⟩
  · refine ⟨_, rfl, (hroutes "p/app/page.tsx" "p/app" _ rfl).1, ?_⟩
    rw [← Option.not_isSome_iff_eq_none, (hroutes "p/app/page.tsx" "p/app" _ rfl).2]
    decide +kernel
  · obtain ⟨report, hreport, htests⟩ := exists_eq_ok_of_any hrun
    simp only [Bool.and_eq_true, decide_eq_true_eq, List.all_eq_true, Bool.or_eq_true,
      Bool.not_eq_true', decide_eq_false_iff_not] at htests
    obtain ⟨hthree, hfiles⟩ := htests
    obtain ⟨report', hsecond, hnone, -⟩ := hruns missingPage (fun _ => none) "p" {} report hsound
      rfl hreport (fun f hf _ => (hfiles f hf).1)
      (fun f hf htakes => (hfiles f hf).2.resolve_left (not_not_intro htakes)) (fun _ => none) {}
    exact ⟨report, report', hreport, hthree, hsecond, hnone⟩

/-- **A target is taken for a route file.**  The page of `/page` goes to `page.tsx`. -/
theorem target_is_route_file :
    ¬∀ (path app : String) (r : RouteFile), RouteFile.analyze? path app = some r →
      r.moduleKind?.isSome = true →
      RouteFile.analyze? r.target app = none ∧ RouteFile.analyze? r.backup app = none := by
  intro hall
  have hnone := (hall "app/page/page.tsx" "app" _ rfl rfl).1
  exact absurd hnone (by decide +kernel)

end Workspace

end RouteMigration
