import RouteMigration.Proofs.Retention

/-!
# Runs that fail

A run fails before its first step, when no app directory is found or it cannot be walked, or after
its last one, when the packages that the project declares cannot be read.  In the second case the
route files have been migrated by then.

Nothing is asked of the names of directories here, so a target may lead through `..` and out of the
app directory.  What remains true is weaker than for plain names, and enough: directories stay,
what a run puts where nothing was stays, and a file with the name of a package description is
never touched.

## Main Definitions

* `IsWorkPath` — a path with a name that a run works with
* `Workspace.Advances` — what the steps of a run do to any workspace
* `Workspace.IsWritten` — the module of a route file is made and written
* `Workspace.WritesModule` — a project has a route file whose module is written

## Main Statements

* `Workspace.migrateFile_advances`, `Workspace.migrateFiles_advances` — one step, and a run
* `Workspace.tree_migrateFiles_ne` — a module that is written is never undone
* `Workspace.Advances.declaredPackages_eq` — a run leaves what a project declares
* `Workspace.failed_run_changes_tree_iff` — when a failed run has changed the tree
-/

namespace RouteMigration

open RouteMigration.Path (IsName)

/-! ### Names that a run works with -/

/-- A name that a run may put in or take out: one with the extension of a route file, or one of a
backup. -/
def IsWorkName (n : String) : Prop :=
  (∃ front, ∃ ext ∈ routeExtensions, n = front ++ "." ++ ext) ∨ ∃ front, n = front ++ ".backup"

/-- The path ends in a name that a run works with. -/
def IsWorkPath (path : String) : Prop :=
  ∃ dir n, IsName n ∧ IsWorkName n ∧ path = Path.join dir n

/-- The description of a project is no file that a run works with. -/
theorem not_isWorkName_manifest : ¬IsWorkName "package.json" := by
  rintro (⟨front, ext, hext, heq⟩ | ⟨front, heq⟩)
  · have hsplit : "package" ++ "." ++ "json" = front ++ "." ++ ext := heq
    obtain ⟨-, rfl⟩ := eq_of_dotted (by decide) (not_dot_of_routeExtension ext hext) hsplit
    exact absurd hext (by decide)
  · have hlast := congrArg (fun s : String => s.toList.getLast?) heq
    have hbackup : ".backup".toList.getLast? = some 'p' := by decide
    simp only [String.toList_append, List.getLast?_append, hbackup, Option.some_or] at hlast
    exact absurd hlast (by decide)

/-- A converted segment of any directory has no slash. -/
theorem not_slash_of_mem_convertedSegments {dir n : String} (h : n ∈ convertedSegments dir) :
    '/' ∉ n.toList := by
  obtain ⟨segment, hsegment, rfl⟩ := List.mem_map.mp h
  obtain ⟨piece, hpiece, rfl⟩ := List.mem_map.mp (List.mem_filter.mp hsegment).1
  have hpiece : ∀ c ∈ (String.ofList piece).toList, isSeparator c = false := by
    rw [String.toList_ofList]
    exact Text.not_cut_of_mem_splitAt hpiece
  intro hmem
  exact absurd (Segment.isSeparator_convert hpiece '/' hmem) (by decide)

/-- Every target has a name with the extension of its route file, wherever it leads. -/
theorem isWorkPath_targetPath (app dir : String) (kind : RouteKind) {ext : String}
    (hext : ext ∈ routeExtensions) : IsWorkPath (targetPath app dir kind ext) := by
  have hdotted : ∀ parent front : String, '/' ∉ front.toList →
      IsWorkPath (Path.join parent (front ++ "." ++ ext)) := fun parent front hfront =>
    ⟨parent, _, isName_dotted hfront hext, Or.inl ⟨front, ext, hext, rfl⟩, rfl⟩
  have hjoined : '/' ∉ (Text.joinWith "." (convertedSegments dir)).toList :=
    not_slash_joinWith_dot fun n hn => not_slash_of_mem_convertedSegments hn
  have hlabel : '/' ∉ ("_" ++ kind.label).toList := by cases kind <;> decide
  unfold targetPath
  split
  · exact hdotted app "index" (by decide)
  · exact hdotted app _ hjoined
  · exact hdotted app "__root" (by decide)
  · exact hdotted _ _ hlabel

/-- The three paths of a route file end in names that a run works with. -/
structure RouteFile.HasWorkPaths (r : RouteFile) : Prop where
  source : IsWorkPath r.source
  target : IsWorkPath r.target
  backup : IsWorkPath r.backup

theorem RouteFile.hasWorkPaths_of_analyze? {r : RouteFile} {app name : String} {dirs : List String}
    (hname : IsName name) (h : analyze? (Path.below app (dirs ++ [name])) app = some r) :
    r.HasWorkPaths := by
  obtain ⟨hsource, hext, ⟨stem, hfile, -⟩, steps, -, -, htarget⟩ := analyze?_eq_some h
  rw [Path.fileName?_below hname] at hfile
  obtain rfl := Option.some.inj hfile
  refine ⟨⟨Path.below app dirs, _, hname, Or.inl ⟨stem, r.ext, hext, rfl⟩, ?_⟩, ?_,
    ⟨Path.below app dirs, _, isName_backup hname, Or.inr ⟨_, rfl⟩, ?_⟩⟩
  · rw [hsource, Path.below_concat]
  · rw [htarget]
    exact isWorkPath_targetPath app _ r.kind hext
  · rw [backup, hsource, Path.below_append_text hname (isName_backup hname), Path.below_concat]

namespace FileTree

variable {t : FileTree} {start l : Location}

/-- A name below any path stands for the location of that name in the directory of the path. -/
theorem locate_join_eq_ok_iff {dir n : String} (hn : IsName n) :
    t.locate start (Path.join dir n) = .ok l ↔
      ∃ here, (Path.components dir).foldlM t.step start = .ok here ∧
        t.find? here = some .directory ∧ l = here ++ [n] := by
  rw [locate_eq_ok_iff, Path.components_join _ hn, namesDirectory_join hn, Bool.false_and,
    foldlM_step_concat]
  exact ⟨fun h => h.2.1, fun h => ⟨join_ne_empty hn, h, rfl⟩⟩

end FileTree

namespace Workspace

open FileTree (IsConnected Extends)

variable {w w₁ w' : Workspace} {kept : Location → Prop} {here l : Location} {n path : String}
  {content : Array UInt8} {r : RouteFile} {routes : List RouteFile} {c : Config}

/-! ### What a run does to any workspace -/

/-- What the steps of a run do: no directory is lost, a file whose name they do not work with is as
it was, and at the locations that are kept no file is taken out. -/
structure Advances (kept : Location → Prop) (w w' : Workspace) : Prop where
  connected : w'.tree.IsConnected
  start : w'.directory = w.directory
  directory : ∀ l, w.tree.find? l = some .directory → w'.tree.find? l = some .directory
  file_iff : ∀ l n content, ¬IsWorkName n →
    (w'.tree.find? (l ++ [n]) = some (.file content) ↔
      w.tree.find? (l ++ [n]) = some (.file content))
  file : ∀ l content, kept l → w.tree.find? l = some (.file content) →
    ∃ content', w'.tree.find? l = some (.file content')

theorem Advances.refl (hw : w.tree.IsConnected) (kept : Location → Prop) : w.Advances kept w :=
  ⟨hw, rfl, fun _ h => h, fun _ _ _ _ => Iff.rfl, fun _ content _ h => ⟨content, h⟩⟩

theorem Advances.trans (h : w.Advances kept w₁) (h' : w₁.Advances kept w') :
    w.Advances kept w' where
  connected := h'.connected
  start := h'.start.trans h.start
  directory := fun l hl => h'.directory l (h.directory l hl)
  file_iff := fun l n content hn => (h'.file_iff l n content hn).trans (h.file_iff l n content hn)
  file := by
    intro l content hkept hl
    obtain ⟨content₁, hl₁⟩ := h.file l content hkept hl
    exact h'.file l content₁ hkept hl₁

/-- A name below a path keeps its location. -/
theorem Advances.locate_join (h : w.Advances kept w') {dir : String} (hn : IsName n)
    (hl : w.locate (Path.join dir n) = .ok l) : w'.locate (Path.join dir n) = .ok l := by
  obtain ⟨here, hsteps, hdir, rfl⟩ := (FileTree.locate_join_eq_ok_iff hn).mp hl
  refine (FileTree.locate_join_eq_ok_iff hn).mpr ⟨here, ?_, h.directory here hdir, rfl⟩
  rw [h.start]
  exact FileTree.foldlM_step_mono h.directory hsteps

theorem Advances.locate (h : w.Advances kept w') (hpath : IsWorkPath path)
    (hl : w.locate path = .ok l) : w'.locate path = .ok l := by
  obtain ⟨dir, n, hn, -, rfl⟩ := hpath
  exact h.locate_join hn hl

/-- The location of a path that a run works with. -/
theorem exists_of_locate (hpath : IsWorkPath path) (hl : w.locate path = .ok l) :
    ∃ here n, IsWorkName n ∧ w.tree.find? here = some .directory ∧ l = here ++ [n] := by
  obtain ⟨dir, n, hn, hwork, rfl⟩ := hpath
  obtain ⟨here, -, hdir, rfl⟩ := (FileTree.locate_join_eq_ok_iff hn).mp hl
  exact ⟨here, n, hwork, hdir, rfl⟩

/-- More directories. -/
theorem advances_of_extends {t : FileTree} {goal : Location} (ht : t.IsConnected)
    (hext : Extends w.tree t goal) : w.Advances kept { w with tree := t } where
  connected := ht
  start := rfl
  directory := hext.isDirectory
  file_iff := by
    intro l n content _
    rcases hext (l ++ [n]) with hsame | ⟨hnone, hdir, -⟩
    · exact iff_of_eq (congrArg (· = _) hsame)
    · simp [hnone, hdir]
  file := by
    intro l content _ hl
    rcases hext l with hsame | ⟨hnone, -⟩
    · exact ⟨content, hsame.trans hl⟩
    · rw [hnone] at hl
      cases hl

/-- A file put in. -/
theorem advances_insert (hw : w.tree.IsConnected) (hn : IsWorkName n)
    (hhere : w.tree.find? here = some .directory)
    (hold : w.tree.find? (here ++ [n]) ≠ some .directory) :
    w.Advances kept { w with tree := w.tree.insert (here ++ [n]) (.file content) } where
  connected := hw.insert (by simp) (by rwa [List.dropLast_concat]) (Or.inl hold)
  start := rfl
  directory := by
    intro l hl
    rw [FileTree.find?_insert _ (by simp), if_neg, hl]
    rintro rfl
    exact hold hl
  file_iff := by
    intro l m content' hm
    rw [FileTree.find?_insert _ (by simp), if_neg]
    intro heq
    obtain ⟨-, hlast⟩ := List.append_inj' heq rfl
    exact hm ((List.cons.inj hlast).1 ▸ hn)
  file := by
    intro l content' _ hl
    rw [FileTree.find?_insert _ (by simp)]
    split
    · exact ⟨content, rfl⟩
    · exact ⟨content', hl⟩

/-- A file taken out. -/
theorem advances_erase (hw : w.tree.IsConnected) (hn : IsWorkName n) (hkept : ¬kept (here ++ [n]))
    (hfile : w.tree.find? (here ++ [n]) = some (.file content)) :
    w.Advances kept { w with tree := w.tree.erase (here ++ [n]) } where
  connected := hw.erase (by simp) (by simp [hfile])
  start := rfl
  directory := by
    intro l hl
    rw [FileTree.find?_erase _ (by simp), if_neg, hl]
    rintro rfl
    rw [hfile] at hl
    cases hl
  file_iff := by
    intro l m content' hm
    rw [FileTree.find?_erase _ (by simp), if_neg]
    intro heq
    obtain ⟨-, hlast⟩ := List.append_inj' heq rfl
    exact hm ((List.cons.inj hlast).1 ▸ hn)
  file := by
    intro l content' hl hfind
    rw [FileTree.find?_erase _ (by simp), if_neg]
    · exact ⟨content', hfind⟩
    · rintro rfl
      exact hkept hl

/-! ### One step -/

theorem makeDirectories_advances (hw : w.tree.IsConnected) {steps : List PathComponent}
    (h : w.makeDirectories steps l = .ok w') : w.Advances kept w' := by
  have hmake : ∀ {w : Workspace} {l : Location} {t : FileTree}, w.tree.IsConnected →
      w.tree.makeDirectories l = .ok t → w.Advances kept { w with tree := t } := by
    intro w l t hw ht
    obtain ⟨hext, ht', -⟩ := FileTree.makeDirectories_spec hw ht
    exact advances_of_extends ht' hext
  induction steps generalizing w l with
  | nil =>
    rw [makeDirectories, bind_eq_ok_iff] at h
    obtain ⟨t, ht, hreturn⟩ := h
    obtain rfl := return_eq_ok_iff.mp hreturn
    exact hmake hw ht
  | cons step steps ih =>
    cases step with
    | name n => exact ih hw h
    | root | here | up =>
      rw [makeDirectories, bind_eq_ok_iff] at h
      · obtain ⟨t, ht, h⟩ := h
        obtain ⟨l', -, h⟩ := bind_eq_ok_iff.mp h
        have hfirst := hmake hw ht
        exact hfirst.trans (ih hfirst.connected h)
      · simp

/-- **A module written.**  It is at the location that its path has then. -/
theorem replace_advances (hw : w.tree.IsConnected) (hpath : IsWorkPath path) {text : String}
    (h : w.replace path text = .ok w') :
    w.Advances kept w' ∧
      ∃ l, w'.locate path = .ok l ∧ w'.tree.find? l = some (.file text.toUTF8.data) := by
  obtain ⟨w₁, hmake, hwrite⟩ := bind_eq_ok_iff.mp h
  have hfirst : w.Advances kept w₁ := makeDirectories_advances hw hmake
  simp only [writeText, writeBytes, bind_eq_ok_iff, check_eq_ok_iff, return_eq_ok_iff] at hwrite
  obtain ⟨l, hl, hfree, rfl⟩ := hwrite
  obtain ⟨here, n, hn, hdir, rfl⟩ := exists_of_locate hpath hl
  have hold : w₁.tree.find? (here ++ [n]) ≠ some .directory := by
    intro hplace
    exact hfree (by rw [FileTree.isDirectory_iff.mpr hplace, Bool.true_or])
  have hinsert : w₁.Advances kept
      { w₁ with tree := w₁.tree.insert (here ++ [n]) (.file text.toUTF8.data) } :=
    advances_insert hfirst.connected hn hdir hold
  refine ⟨hfirst.trans hinsert, here ++ [n], hinsert.locate hpath hl, ?_⟩
  rw [FileTree.find?_insert _ (by simp), if_pos rfl]

/-- **A route file retired.** -/
theorem retire_advances (hw : w.tree.IsConnected) (hpaths : r.HasWorkPaths) {keepBackup : Bool}
    (hl : w.locate r.source = .ok l) (hfile : w.tree.find? l = some (.file content))
    (hkept : ¬kept l) (h : w.retire r keepBackup = .ok w') : w.Advances kept w' := by
  obtain ⟨here, n, hn, -, rfl⟩ := exists_of_locate hpaths.source hl
  have herase := advances_erase hw hn hkept hfile
  cases keepBackup with
  | false =>
    simp only [retire, Bool.false_eq_true, if_false, remove, hl, hfile, bind_eq_ok_iff,
      Except.ok.injEq, exists_eq_left', return_eq_ok_iff] at h
    rwa [← h]
  | true =>
    simp only [retire, if_true, rename, hl, hfile, bind_eq_ok_iff, Except.ok.injEq,
      exists_eq_left', check_eq_ok_iff, return_eq_ok_iff] at h
    obtain ⟨target, htarget, hfree, rfl⟩ := h
    obtain ⟨here', n', hn', hdir', rfl⟩ := exists_of_locate hpaths.backup htarget
    -- a move is a removal and then an insertion
    refine herase.trans (advances_insert herase.connected hn' (herase.directory _ hdir') ?_)
    rw [FileTree.find?_erase _ (by simp)]
    split
    · simp
    · rwa [FileTree.isDirectory_iff] at hfree

/-- The module of a route file is made, and written. -/
def IsWritten (w : Workspace) (c : Config) (r : RouteFile) : Prop :=
  ∃ p w₁, w.prepare c r = .ok (.inr p) ∧ w.replace r.target p.code = .ok w₁

/-- A step that writes no module changes nothing. -/
theorem migrateFile_eq_self (h : c.dryRun = false → ¬w.IsWritten c r) :
    (w.migrateFile c r).2 = w := by
  unfold migrateFile
  split
  · rfl
  · rfl
  · next p hprepare =>
    cases hdry : c.dryRun with
    | true => rfl
    | false =>
      cases hreplace : w.replace r.target p.code with
      | ok w₁ => exact absurd ⟨p, w₁, hprepare, hreplace⟩ (h hdry)
      | error fault => simp [commit, hreplace]

/-- **A step that writes a module.**  The route file is retired after that, or left. -/
theorem advances_migrateFile_of_replace (hw : w.tree.IsConnected) (hpaths : r.HasWorkPaths)
    (hdry : c.dryRun = false) (hkept : ∀ l, w.locate r.source = .ok l → ¬kept l) {p : Prepared}
    (hprepare : w.prepare c r = .ok (.inr p)) (hreplace : w.replace r.target p.code = .ok w₁) :
    w₁.Advances kept (w.migrateFile c r).2 := by
  obtain ⟨-, l, bytes, hl, hfile, -⟩ := prepare_eq_inr hprepare
  -- the route file is still there, whatever is kept
  have hwritten : w.Advances (fun _ => True) w₁ := (replace_advances hw hpaths.target hreplace).1
  obtain ⟨bytes₁, hfile₁⟩ := hwritten.file l bytes trivial hfile
  cases hretire : w₁.retire r c.keepBackups with
  | error fault =>
    simp only [migrateFile, hprepare, hdry, commit, hreplace, hretire, Bool.false_eq_true, if_false]
    exact Advances.refl hwritten.connected kept
  | ok w₂ =>
    simp only [migrateFile, hprepare, hdry, commit, hreplace, hretire, Bool.false_eq_true, if_false]
    exact retire_advances hwritten.connected hpaths (hwritten.locate hpaths.source hl) hfile₁
      (hkept l hl) hretire

/-- **One step.** -/
theorem migrateFile_advances (hw : w.tree.IsConnected) (hpaths : r.HasWorkPaths)
    (hkept : ∀ l, w.locate r.source = .ok l → ¬kept l) :
    w.Advances kept (w.migrateFile c r).2 := by
  by_cases hwritten : c.dryRun = false ∧ w.IsWritten c r
  · obtain ⟨hdry, p, w₁, hprepare, hreplace⟩ := hwritten
    exact (replace_advances hw hpaths.target hreplace).1.trans
      (advances_migrateFile_of_replace hw hpaths hdry hkept hprepare hreplace)
  · rw [migrateFile_eq_self fun hdry hr => hwritten ⟨hdry, hr⟩]
    exact Advances.refl hw kept

/-! ### The whole run -/

/-- A run that writes no module changes nothing. -/
theorem migrateFiles_eq_self (h : c.dryRun = false → ∀ r ∈ routes, ¬w.IsWritten c r) :
    (migrateFiles c w routes).2 = w := by
  induction routes with
  | nil => rfl
  | cons r routes ih =>
    show (migrateFiles c (w.migrateFile c r).2 routes).2 = w
    rw [migrateFile_eq_self fun hdry => h hdry r (List.mem_cons_self ..)]
    exact ih fun hdry r' hr' => h hdry r' (List.mem_cons_of_mem r hr')

/-- The route files of a run: their paths end in names that a run works with, and they have
locations where nothing is kept. -/
def AreSources (kept : Location → Prop) (w : Workspace) (routes : List RouteFile) : Prop :=
  ∀ r ∈ routes, r.HasWorkPaths ∧ ∃ l, w.locate r.source = .ok l ∧ ¬kept l

theorem AreSources.head (h : w.AreSources kept (r :: routes)) :
    r.HasWorkPaths ∧ ∀ l, w.locate r.source = .ok l → ¬kept l := by
  obtain ⟨hpaths, l, hl, hkept⟩ := h r (List.mem_cons_self ..)
  refine ⟨hpaths, fun l' hl' => ?_⟩
  rw [hl] at hl'
  cases hl'
  exact hkept

theorem AreSources.tail (h : w.AreSources kept (r :: routes)) : w.AreSources kept routes :=
  fun r' hr' => h r' (List.mem_cons_of_mem r hr')

/-- Route files keep their locations. -/
theorem Advances.areSources (h : w.Advances kept w') (hsources : w.AreSources kept routes) :
    w'.AreSources kept routes := by
  intro r hr
  obtain ⟨hpaths, l, hl, hkept⟩ := hsources r hr
  exact ⟨hpaths, l, h.locate hpaths.source hl, hkept⟩

/-- **A run.** -/
theorem migrateFiles_advances (hw : w.tree.IsConnected) (hsources : w.AreSources kept routes) :
    w.Advances kept (migrateFiles c w routes).2 := by
  induction routes generalizing w with
  | nil => exact Advances.refl hw kept
  | cons r routes ih =>
    obtain ⟨hpaths, hkept⟩ := hsources.head
    have hfirst : w.Advances kept (w.migrateFile c r).2 := migrateFile_advances hw hpaths hkept
    exact hfirst.trans (ih hfirst.connected (hfirst.areSources hsources.tail))

/-- A path that led to nothing leads where nothing was, or through a directory that is new. -/
theorem exists_directory_or_find?_eq_none (hpath : IsWorkPath path) (hfree : w.find? path = none)
    (hwritten : w.Advances kept w₁) (hl : w₁.locate path = .ok l) :
    (∃ l, w.tree.find? l ≠ some .directory ∧ w₁.tree.find? l = some .directory) ∨
      w.tree.find? l = none := by
  by_cases hdirs : ∀ l, w₁.tree.find? l = some .directory → w.tree.find? l = some .directory
  · -- the way to the module was there before
    obtain ⟨dir, n, hn, -, rfl⟩ := hpath
    obtain ⟨here, hsteps, hdir, rfl⟩ := (FileTree.locate_join_eq_ok_iff hn).mp hl
    rw [hwritten.start] at hsteps
    have hold : w.locate (Path.join dir n) = .ok (here ++ [n]) :=
      (FileTree.locate_join_eq_ok_iff hn).mpr
        ⟨here, FileTree.foldlM_step_mono hdirs hsteps, hdirs here hdir, rfl⟩
    rw [find?, hold] at hfree
    exact Or.inr hfree
  · obtain ⟨l, hl⟩ := not_forall.mp hdirs
    obtain ⟨hnew, hold⟩ := Classical.not_imp.mp hl
    exact Or.inl ⟨l, hold, hnew⟩

/-- **A module that is written is not undone.**  A run with a route file whose module can be
written changes the tree. -/
theorem tree_migrateFiles_ne (hw : w.tree.IsConnected) (hdry : c.dryRun = false)
    (hsources : w.AreSources (fun l => w.tree.find? l = none) routes)
    (hwritten : ∃ r ∈ routes, w.IsWritten c r) :
    (migrateFiles c w routes).2.tree ≠ w.tree := by
  -- the steps before the first module that is written change nothing
  induction routes with
  | nil =>
    obtain ⟨r, hr, -⟩ := hwritten
    cases hr
  | cons r routes ih =>
    show (migrateFiles c (w.migrateFile c r).2 routes).2.tree ≠ w.tree
    by_cases hfirst : w.IsWritten c r
    · obtain ⟨p, w₁, hprepare, hreplace⟩ := hfirst
      obtain ⟨hpaths, hkept⟩ := hsources.head
      obtain ⟨hadvance, l, hl, hfile⟩ := replace_advances hw hpaths.target hreplace
      have hretired := advances_migrateFile_of_replace hw hpaths hdry hkept hprepare hreplace
      have hrest : w₁.Advances _ (migrateFiles c (w.migrateFile c r).2 routes).2 :=
        hretired.trans (migrateFiles_advances hretired.connected
          ((hadvance.trans hretired).areSources hsources.tail))
      obtain ⟨hfree, -⟩ := prepare_eq_inr hprepare
      rcases exists_directory_or_find?_eq_none hpaths.target hfree hadvance hl with
        ⟨l', hold, hnew⟩ | hnone
      · intro heq
        exact hold (heq ▸ hrest.directory l' hnew)
      · obtain ⟨content', hlast⟩ := hrest.file l _ hnone hfile
        intro heq
        rw [heq, hnone] at hlast
        cases hlast
    · rw [migrateFile_eq_self fun _ => hfirst]
      refine ih hsources.tail ?_
      obtain ⟨r', hr', hr'written⟩ := hwritten
      rcases List.mem_cons.mp hr' with rfl | hr'
      · exact absurd hr'written hfirst
      · exact ⟨r', hr', hr'written⟩

/-! ### Declared packages -/

theorem isFile_eq_true_iff : w.isFile path = true ↔
    ∃ content, w.find? path = some (.file content) := by
  unfold isFile
  split
  · next content hfile => simp [hfile]
  · next hfile => simpa using hfile

/-- What is read of a path that leads to a file. -/
theorem readText_of_file (h : w.find? path = some (.file content)) :
    w.readText path = (String.fromUTF8? ⟨content⟩).elim (.error .notText) .ok := by
  unfold find? at h
  split at h
  · next l hl =>
    rw [readText, hl]
    simp only [bind, Except.bind, h]
    cases String.fromUTF8? ⟨content⟩ with
    | none => rfl
    | some text => rfl
  · cases h

/-- What a project declares is what the file of its description says. -/
theorem declaredPackages_congr {root : String}
    (h : ∀ content, w'.find? (Path.join root "package.json") = some (.file content) ↔
      w.find? (Path.join root "package.json") = some (.file content)) :
    w'.declaredPackages root = w.declaredPackages root := by
  have hisFile : w'.isFile (Path.join root "package.json") =
      w.isFile (Path.join root "package.json") := by
    rw [Bool.eq_iff_iff, isFile_eq_true_iff, isFile_eq_true_iff]
    exact exists_congr h
  by_cases hfile : w.isFile (Path.join root "package.json") = true
  · obtain ⟨content, hcontent⟩ := isFile_eq_true_iff.mp hfile
    simp only [declaredPackages, hisFile, readText_of_file hcontent,
      readText_of_file ((h content).mpr hcontent)]
  · simp only [declaredPackages, hisFile, if_neg hfile]

/-- A project with an app directory is a directory. -/
theorem exists_root_of_appDirectory {root : String} {app : AppDirectory}
    (h : w.appDirectory root = .ok app) :
    ∃ here, (Path.components root).foldlM w.tree.step w.directory = .ok here ∧
      w.tree.find? here = some .directory := by
  have hlocated : ∀ path, w.isDirectory path = true → ∃ l, w.locate path = .ok l := by
    intro path hdir
    cases hl : w.locate path with
    | ok l => exact ⟨l, rfl⟩
    | error fault => simp [isDirectory, find?, hl] at hdir
  have happ : IsName "app" := by decide
  have hsrc : IsName "src" := by decide
  simp only [appDirectory] at h
  split at h
  · next hdir =>
    obtain ⟨l, hl⟩ := hlocated _ hdir
    obtain ⟨here, hsteps, -, -⟩ := (FileTree.locate_join_eq_ok_iff happ).mp hl
    rw [Path.components_join root hsrc, FileTree.foldlM_step_concat] at hsteps
    obtain ⟨here, hsteps, hdir, -⟩ := hsteps
    exact ⟨here, hsteps, hdir⟩
  · split at h
    · next hdir =>
      obtain ⟨l, hl⟩ := hlocated _ hdir
      obtain ⟨here, hsteps, hdir, -⟩ := (FileTree.locate_join_eq_ok_iff happ).mp hl
      exact ⟨here, hsteps, hdir⟩
    · cases h

/-- **A run leaves what a project declares.** -/
theorem Advances.declaredPackages_eq (h : w.Advances kept w') {root : String} {app : AppDirectory}
    (happ : w.appDirectory root = .ok app) :
    w'.declaredPackages root = w.declaredPackages root := by
  obtain ⟨here, hsteps, hdir⟩ := exists_root_of_appDirectory happ
  have hname : IsName "package.json" := by decide
  have hl : w.locate (Path.join root "package.json") = .ok (here ++ ["package.json"]) :=
    (FileTree.locate_join_eq_ok_iff hname).mpr ⟨here, hsteps, hdir, rfl⟩
  refine declaredPackages_congr fun content => ?_
  rw [find?, find?, hl, h.locate_join hname hl]
  exact h.file_iff here "package.json" content not_isWorkName_manifest

/-! ### Failure -/

variable {tools : Toolbox} {root : String} {e : ProjectError} {app : AppDirectory}

/-- A project whose route files are found is left as the run over them leaves it. -/
theorem migrate_snd (happ : w.appDirectory root = .ok app)
    (hroutes : w.routeFiles app.path = .ok routes) :
    (w.migrate tools root c).2 = (migrateFiles c w routes).2 := by
  have hfound : (do w.routeFiles (← w.appDirectory root).path) = .ok routes :=
    bind_eq_ok_iff.mpr ⟨app, happ, hroutes⟩
  unfold migrate
  rw [hfound]
  simp only
  split <;> rfl

/-- A run fails before its first step, or with the packages that the project declares after its
last. -/
theorem migrate_eq_error (h : (w.migrate tools root c).1 = .error e) :
    (w.migrate tools root c).2 = w ∨ ∃ app routes, w.appDirectory root = .ok app ∧
      w.routeFiles app.path = .ok routes ∧
      (migrateFiles c w routes).2.declaredPackages root = .error e := by
  cases hfound : (do w.routeFiles (← w.appDirectory root).path) with
  | error e' =>
    refine Or.inl ?_
    unfold migrate
    rw [hfound]
  | ok routes =>
    obtain ⟨app, happ, hroutes⟩ := bind_eq_ok_iff.mp hfound
    refine Or.inr ⟨app, routes, happ, hroutes, ?_⟩
    unfold migrate at h
    rw [hfound] at h
    simp only at h
    split at h
    · next e' hdeclared =>
      cases h
      exact hdeclared
    · cases h

/-- The route files that are found are files. -/
theorem areSources_of_routeFiles (hsound : w.tree.IsSound) (happ : w.appDirectory root = .ok app)
    (hroutes : w.routeFiles app.path = .ok routes) :
    w.AreSources (fun l => w.tree.find? l = none) routes := by
  obtain ⟨l, hlocate, rfl⟩ := routeFiles_eq_ok hroutes
  have htop : w.tree.find? l = some .directory := by
    simpa [isDirectory, find?, hlocate] using isDirectory_of_appDirectory happ
  have hs : (⟨app.path, l⟩ : Site).IsIn w := ⟨hsound.isConnected, hlocate, htop⟩
  intro r hr
  obtain ⟨names, hnames, hr⟩ := List.mem_filterMap.mp hr
  obtain ⟨dirs, n, content, rfl, hvalid, hfile⟩ := isName_of_mem_publicFiles hsound htop hnames
  refine ⟨RouteFile.hasWorkPaths_of_analyze? (hvalid n (by simp)) hr, l ++ (dirs ++ [n]), ?_, ?_⟩
  · have hplace := Site.place_below (s := ⟨app.path, l⟩) hvalid
    have hholds : (⟨app.path, l⟩ : Site).Holds (Path.below app.path (dirs ++ [n])) :=
      ⟨dirs, n, hvalid, rfl⟩
    rw [(RouteFile.analyze?_eq_some hr).1, ← hplace]
    refine Site.locate_of_directory hs hholds (Site.find?_dropLast_place hs hholds ?_)
    simp [hplace, hfile]
  · simp [hfile]

/-- The project has a route file whose module is made and written. -/
def WritesModule (w : Workspace) (root : String) (c : Config) : Prop :=
  ∃ app routes, w.appDirectory root = .ok app ∧ w.routeFiles app.path = .ok routes ∧
    ∃ r ∈ routes, w.IsWritten c r

/-- **What a failed run has changed.**  A run that fails has changed the tree exactly when it was
no dry run, what the project declares could not be read even before the run, for the reason that
the run gives, and there is a route file whose module can be written.  Every other failure leaves
the tree as it was. -/
theorem failed_run_changes_tree_iff (w : Workspace) (tools : Toolbox) (root : String) (c : Config)
    (e : ProjectError) (hsound : w.tree.IsSound) (h : (w.migrate tools root c).1 = .error e) :
    (w.migrate tools root c).2.tree ≠ w.tree ↔
      c.dryRun = false ∧ w.declaredPackages root = .error e ∧ w.WritesModule root c := by
  constructor
  · intro hne
    rcases migrate_eq_error h with hsame | ⟨app, routes, happ, hroutes, hdeclared⟩
    · exact absurd (congrArg tree hsame) hne
    · have hsources := areSources_of_routeFiles hsound happ hroutes
      have hadvance : w.Advances _ (migrateFiles c w routes).2 :=
        migrateFiles_advances hsound.isConnected hsources
      rw [migrate_snd happ hroutes] at hne
      rw [hadvance.declaredPackages_eq happ] at hdeclared
      by_contra hnot
      refine hne (congrArg tree (migrateFiles_eq_self fun hdry r hr hwritten => ?_))
      exact hnot ⟨hdry, hdeclared, app, routes, happ, hroutes, r, hr, hwritten⟩
  · rintro ⟨hdry, -, app, routes, happ, hroutes, hwritten⟩
    rw [migrate_snd happ hroutes]
    exact tree_migrateFiles_ne hsound.isConnected hdry
      (areSources_of_routeFiles hsound happ hroutes)
      hwritten

/-- A project with a page, and a description that ends after its first brace. -/
def brokenDescription : Workspace where
  tree := ⟨[(["p"], .directory), (["p", "app"], .directory),
    (["p", "app", "page.tsx"], .file #[]), (["p", "package.json"], .file #[123])]⟩

/-- The run over that project fails, and its page has been migrated. -/
theorem failed_run_changes_brokenDescription :
    brokenDescription.tree.IsSound ∧
      ∃ e, (brokenDescription.migrate (fun _ => none) "p" {}).1 = .error e ∧
        (brokenDescription.migrate (fun _ => none) "p" {}).2.tree ≠ brokenDescription.tree ∧
        brokenDescription.declaredPackages "p" = .error e ∧
        brokenDescription.WritesModule "p" {} := by
  have hsound : brokenDescription.tree.IsSound :=
    ⟨by decide +kernel, by decide +kernel, by decide +kernel⟩
  have hfails : (brokenDescription.migrate (fun _ => none) "p" {}).1.toOption.isNone = true := by
    decide +kernel
  have hne : (brokenDescription.migrate (fun _ => none) "p" {}).2.tree ≠
      brokenDescription.tree := by
    decide +kernel
  cases hrun : (brokenDescription.migrate (fun _ => none) "p" {}).1 with
  | ok report =>
    rw [hrun] at hfails
    cases hfails
  | error e =>
    have hiff := failed_run_changes_tree_iff brokenDescription (fun _ => none) "p" {} e hsound hrun
    exact ⟨hsound, e, rfl, hne, (hiff.mp hne).2⟩

end Workspace

end RouteMigration
