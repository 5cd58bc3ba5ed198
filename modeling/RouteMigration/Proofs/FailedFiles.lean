import RouteMigration.Proofs.FailedRun

/-!
# Route files that cannot be migrated

A route file can fail at any point: it cannot be read, its text is refused, the directories on the
way to the module cannot be made, the module cannot be written, and at last the file cannot be
retired.  Up to that last point nothing has happened to any file.  But when the file is retired, its
module is already there, and nobody takes it back.

Nothing is asked of the paths of the route file here.  A file is never removed in vain, and moving
it fails for one reason only: a directory is in the place of the backup.

## Main Definitions

* `Workspace.SameFiles` — two workspaces have the same files with the same bytes
* `Workspace.LeavesModule` — a module came in though its route file stays

## Main Statements

* `FileTree.exists_join_of_file` — a path to a file ends in a name
* `Workspace.replace_keeps` — what is written leaves every directory, and every file a file
* `Workspace.retire_eq_error` — why a route file is not retired
* `Workspace.failed_file_leaves_files_iff` — when a route file that fails leaves the files alone
* `Workspace.blockedPage_leaves_module` — a page whose backup is a directory
-/

namespace RouteMigration

open RouteMigration.Path (IsName)

namespace Text

/-- A text that cannot be cut at a character does not have it. -/
theorem not_mem_of_splitLast?_eq_none {c : Char} {s : String} (h : splitLast? c s = none) :
    c ∉ s.toList := by
  unfold splitLast? at h
  dsimp only at h
  split at h
  · next hdrop =>
    have hsplit := List.takeWhile_append_dropWhile (p := (· != c)) (l := s.toList.reverse)
    rw [hdrop, List.append_nil] at hsplit
    intro hmem
    rw [← List.mem_reverse, ← hsplit] at hmem
    simpa using List.all_eq_true.mp List.all_takeWhile c hmem
  · cases h

end Text

/-- A path that ends in two dots ends with a step up. -/
theorem Path.exists_components_up (path : String) :
    ∃ steps, Path.components (path ++ "/" ++ "..") = steps ++ [.up] := by
  have hpieces : Text.pieces (· == '/') (path ++ "/" ++ "..") =
      Text.pieces (· == '/') path ++ [".."] := Text.pieces_append_separator _ _ "/" rfl rfl
  refine ⟨Path.start (Text.pieces (· == '/') path ++ [".."]) ++
    (Text.pieces (· == '/') path).filterMap PathComponent.ofPiece?, ?_⟩
  rw [Path.components_eq, hpieces, List.filterMap_append, List.append_assoc]
  rfl

namespace FileTree

variable {t : FileTree} {start here l : Location} {path : String} {content : Array UInt8}

/-- A step that is no name leads to a directory. -/
theorem isDirectory_of_no_name (ht : t.IsConnected) {c : PathComponent} (hc : ∀ n, c ≠ .name n)
    (h : t.step here c = .ok l) : t.find? l = some .directory := by
  have hhere := isDirectory_of_step h
  unfold step at h
  rw [hhere] at h
  cases c with
  | root => cases h
  | here =>
    cases h
    exact hhere
  | up =>
    cases h
    -- the directory lies in a directory, or is the top
    rcases List.eq_nil_or_concat here with rfl | ⟨front, n, rfl⟩
    · exact hhere
    · rw [List.concat_eq_append] at hhere ⊢
      rw [List.dropLast_concat]
      exact ht front n (by simp [hhere])
  | name n => exact absurd rfl (hc n)

/-- A path to a file does not end in a step that is no name. -/
theorem ne_file_of_components (ht : t.IsConnected) (steps : List PathComponent) (c : PathComponent)
    (hc : ∀ n, c ≠ .name n) (hpath : Path.components path = steps ++ [c])
    (h : t.locate start path = .ok l) : t.find? l ≠ some (.file content) := by
  have hsteps := (locate_eq_ok_iff.mp h).2.1
  rw [hpath, List.foldlM_append] at hsteps
  obtain ⟨here, -, hlast⟩ := bind_eq_ok_iff.mp hsteps
  rw [List.foldlM_cons] at hlast
  obtain ⟨l', hstep, hreturn⟩ := bind_eq_ok_iff.mp hlast
  obtain rfl : l' = l := return_eq_ok_iff.mp hreturn
  rw [isDirectory_of_no_name ht hc hstep]
  simp

/-- A path to a file is not written as one of a directory. -/
theorem namesDirectory_of_file (h : t.locate start path = .ok l)
    (hfile : t.find? l = some (.file content)) : namesDirectory path = false := by
  have hwritten := (locate_eq_ok_iff.mp h).2.2
  rwa [isFile, hfile, Bool.and_true] at hwritten

/-- **A path to a file ends in a name.** -/
theorem exists_join_of_file (ht : t.IsConnected) (h : t.locate start path = .ok l)
    (hfile : t.find? l = some (.file content)) : ∃ dir n, IsName n ∧ path = Path.join dir n := by
  have hdirectory := namesDirectory_of_file h hfile
  rw [namesDirectory, Bool.or_eq_false_iff, Bool.eq_false_iff, Bool.eq_false_iff] at hdirectory
  obtain ⟨hslash, hdot⟩ := hdirectory
  cases hcut : Text.splitLast? '/' path with
  | none =>
    have hname : IsName path := by
      refine ⟨(locate_eq_ok_iff.mp h).1, ?_, ?_, Text.not_mem_of_splitLast?_eq_none hcut⟩
      · rintro rfl
        exact ne_file_of_components ht [] .here (by simp) rfl h hfile
      · rintro rfl
        exact ne_file_of_components ht [] .up (by simp) rfl h hfile
    exact ⟨"", path, hname, by simp [Path.join]⟩
  | some cut =>
    obtain ⟨before, after⟩ := cut
    obtain ⟨hpath, hafter⟩ := Text.splitLast?_eq_some_iff.mp hcut
    obtain rfl : path = before ++ "/" ++ after := by
      rw [← String.toList_inj, hpath]
      simp
    have hname : IsName after := by
      refine ⟨?_, ?_, ?_, hafter⟩
      · rintro rfl
        exact hslash ((Text.endsWith_iff _ _).mpr ⟨before.toList, by simp⟩)
      · rintro rfl
        exact hdot ((Text.endsWith_iff _ _).mpr ⟨before.toList, by simp⟩)
      · rintro rfl
        obtain ⟨steps, hsteps⟩ := Path.exists_components_up before
        exact ne_file_of_components ht steps .up (by simp) hsteps h hfile
    refine ⟨before ++ "/", after, hname, ?_⟩
    have hends : (before ++ "/").endsWith "/" = true :=
      (Text.endsWith_iff _ _).mpr ⟨before.toList, by simp⟩
    rw [Path.join, hname.startsWith_slash, if_neg Bool.false_ne_true, if_pos (by simp [hends])]

end FileTree

namespace Workspace

open FileTree (IsConnected)

variable {w w₁ w' : Workspace} {l : Location} {path text : String} {content : Array UInt8}
  {r : RouteFile} {c : Config}

/-! ### What is written -/

/-- A path to a file leads to the same location as long as no directory is lost. -/
theorem locate_of_file (hstart : w₁.directory = w.directory)
    (hdirs : ∀ l, w.tree.find? l = some .directory → w₁.tree.find? l = some .directory)
    (h : w.locate path = .ok l) (hfile : w.tree.find? l = some (.file content)) :
    w₁.locate path = .ok l := by
  obtain ⟨hne, hsteps, -⟩ := FileTree.locate_eq_ok_iff.mp h
  refine FileTree.locate_eq_ok_iff.mpr ⟨hne, ?_, ?_⟩
  · rw [hstart]
    exact FileTree.foldlM_step_mono hdirs hsteps
  · rw [FileTree.namesDirectory_of_file h hfile, Bool.false_and]

/-- **A file written.**  Directories stay directories and files stay files, and the path leads to
what was written. -/
theorem replace_keeps (hw : w.tree.IsConnected) (h : w.replace path text = .ok w₁) :
    w₁.directory = w.directory ∧
      (∀ l, w.tree.find? l = some .directory → w₁.tree.find? l = some .directory) ∧
      (∀ l content, w.tree.find? l = some (.file content) →
        ∃ content', w₁.tree.find? l = some (.file content')) ∧
      w₁.find? path = some (.file text.toUTF8.data) := by
  obtain ⟨w₀, hmake, hwrite⟩ := bind_eq_ok_iff.mp h
  have hmade : w.Advances (fun _ => True) w₀ := makeDirectories_advances hw hmake
  simp only [writeText, writeBytes, bind_eq_ok_iff, check_eq_ok_iff, return_eq_ok_iff] at hwrite
  obtain ⟨l, hl, hfree, rfl⟩ := hwrite
  rw [Bool.not_eq_true, Bool.or_eq_false_iff] at hfree
  obtain ⟨hfree, hpath⟩ := hfree
  have hold : w₀.tree.find? l ≠ some .directory := fun hdir => by
    rw [FileTree.isDirectory_iff.mpr hdir] at hfree
    cases hfree
  have hne : l ≠ [] := by
    rintro rfl
    exact hold (FileTree.find?_nil _)
  have hdirs : ∀ l', w₀.tree.find? l' = some .directory →
      (w₀.tree.insert l (.file text.toUTF8.data)).find? l' = some .directory := by
    intro l' hdir
    rw [FileTree.find?_insert _ hne, if_neg, hdir]
    rintro rfl
    exact hold hdir
  refine ⟨hmade.start, fun l' hdir => hdirs l' (hmade.directory l' hdir), ?_, ?_⟩
  · intro l' content hfile
    rw [FileTree.find?_insert _ hne]
    split
    · exact ⟨_, rfl⟩
    · exact hmade.file l' content trivial hfile
  · obtain ⟨hpath_ne, hsteps, -⟩ := FileTree.locate_eq_ok_iff.mp hl
    have hlocate : locate { w₀ with tree := w₀.tree.insert l (.file text.toUTF8.data) } path =
        .ok l :=
      FileTree.locate_eq_ok_iff.mpr
        ⟨hpath_ne, FileTree.foldlM_step_mono hdirs hsteps, by rw [hpath, Bool.false_and]⟩
    rw [find?, hlocate]
    exact (FileTree.find?_insert _ hne _ _).trans (if_pos rfl)

/-! ### Retiring a route file -/

/-- A backup stands beside its route file. -/
theorem backup_eq_join {dir n : String} (hn : IsName n) (hsource : r.source = Path.join dir n) :
    r.backup = Path.join dir (n ++ ".backup") := by
  have htext : Path.below dir ([] ++ [n]) ++ ".backup" = Path.below dir ([] ++ [n ++ ".backup"]) :=
    Path.below_append_text hn (isName_backup hn)
  rw [RouteFile.backup, hsource]
  exact htext

/-- **Why a route file is not retired.**  A route file that was there before its module was written
is still there.  So it can be removed, and it can be moved unless its backup is a directory. -/
theorem retire_eq_error {keepBackup : Bool} {fault : FileFault} (hw : w.tree.IsConnected)
    (hreplace : w.replace path text = .ok w₁) (hl : w.locate r.source = .ok l)
    (hfile : w.tree.find? l = some (.file content)) (h : w₁.retire r keepBackup = .error fault) :
    keepBackup = true ∧ w₁.isDirectory r.backup = true ∧ fault = .isDirectory := by
  obtain ⟨hstart, hdirs, hfiles, -⟩ := replace_keeps hw hreplace
  have hl₁ : w₁.locate r.source = .ok l := locate_of_file hstart hdirs hl hfile
  obtain ⟨content₁, hfile₁⟩ := hfiles l content hfile
  obtain ⟨dir, n, hn, hsource⟩ := FileTree.exists_join_of_file hw hl hfile
  rw [hsource] at hl
  obtain ⟨here, hsteps, hdir, -⟩ := (FileTree.locate_join_eq_ok_iff hn).mp hl
  have hbackup : w₁.locate r.backup = .ok (here ++ [n ++ ".backup"]) := by
    rw [backup_eq_join hn hsource]
    refine (FileTree.locate_join_eq_ok_iff (isName_backup hn)).mpr ⟨here, ?_, hdirs here hdir, rfl⟩
    rw [hstart]
    exact FileTree.foldlM_step_mono hdirs hsteps
  cases keepBackup with
  | false =>
    have hremove : w₁.retire r false = .ok { w₁ with tree := w₁.tree.erase l } := by
      simp only [retire, Bool.false_eq_true, if_false, remove, hl₁, bind, Except.bind, hfile₁]
      rfl
    rw [hremove] at h
    cases h
  | true =>
    by_cases hblocked : w₁.tree.isDirectory (here ++ [n ++ ".backup"]) = true
    · have hrename : w₁.retire r true = .error .isDirectory := by
        simp only [retire, if_true, rename, hl₁, hbackup, bind, Except.bind, hfile₁, hblocked]
        rfl
      rw [hrename] at h
      cases h
      refine ⟨rfl, ?_, rfl⟩
      rw [isDirectory, find?, hbackup]
      exact hblocked
    · have hrename : ∃ w', w₁.retire r true = .ok w' := by
        simp only [retire, if_true, rename, hl₁, hbackup, bind, Except.bind, hfile₁, hblocked]
        exact ⟨_, rfl⟩
      obtain ⟨w', hrename⟩ := hrename
      rw [hrename] at h
      cases h

/-! ### Failure -/

/-- The two workspaces have the same files with the same bytes; directories do not matter. -/
def SameFiles (w w' : Workspace) : Prop :=
  ∀ l content, w'.tree.find? l = some (.file content) ↔ w.tree.find? l = some (.file content)

/-- Nothing was where the module goes, and now a file is there though the route file stays. -/
def LeavesModule (w w' : Workspace) (r : RouteFile) : Prop :=
  w.contains r.target = false ∧ w'.isFile r.target = true ∧ w'.isFile r.source = true

/-- **How a route file fails.**  Either its module was not written and nothing has changed, or it
was and the file could not be moved, because its backup is a directory. -/
theorem migrateFile_failed_cases {e : ProjectError} (hw : w.tree.IsConnected)
    (h : (w.migrateFile c r).1 = .failed e) :
    ¬(c.dryRun = false ∧ w.IsWritten c r) ∧ (w.migrateFile c r).2 = w ∨
      c.dryRun = false ∧ c.keepBackups = true ∧ w.IsWritten c r ∧
        (w.migrateFile c r).2.isDirectory r.backup = true ∧ e = .write r.source .isDirectory ∧
        w.LeavesModule (w.migrateFile c r).2 r := by
  by_cases hwritten : c.dryRun = false ∧ w.IsWritten c r
  · obtain ⟨hdry, p, w₁, hprepare, hreplace⟩ := hwritten
    obtain ⟨hfree, l, bytes, hl, hfile, -⟩ := prepare_eq_inr hprepare
    cases hretire : w₁.retire r c.keepBackups with
    | ok w₂ =>
      simp [migrateFile, hprepare, hdry, commit, hreplace, hretire] at h
    | error fault =>
      obtain ⟨hkeep, hblocked, rfl⟩ := retire_eq_error hw hreplace hl hfile hretire
      obtain ⟨hstart, hdirs, hfiles, htarget⟩ := replace_keeps hw hreplace
      have hrun : w.migrateFile c r = (.failed (.write r.source .isDirectory), w₁) := by
        simp [migrateFile, hprepare, hdry, commit, hreplace, hretire]
      rw [hrun] at h ⊢
      cases h
      refine Or.inr ⟨hdry, hkeep, ⟨p, w₁, hprepare, hreplace⟩, hblocked, rfl, ?_,
        isFile_eq_true_iff.mpr ⟨_, htarget⟩, ?_⟩
      · simp [contains, hfree]
      · obtain ⟨content₁, hfile₁⟩ := hfiles l bytes hfile
        refine isFile_eq_true_iff.mpr ⟨content₁, ?_⟩
        rw [find?, locate_of_file hstart hdirs hl hfile]
        exact hfile₁
  · exact Or.inl ⟨hwritten, migrateFile_eq_self fun hdry hr => hwritten ⟨hdry, hr⟩⟩

/-- **A route file that fails.**  Every file is left as it was, and none has come in, unless this is
no dry run, backups are kept, the module could be made and written, and a directory is in the place
of the backup.  Then the module is left beside the route file that it was made of. -/
theorem failed_file_leaves_files_iff (w : Workspace) (c : Config) (r : RouteFile) (e : ProjectError)
    (hw : w.tree.IsConnected) (h : (w.migrateFile c r).1 = .failed e) :
    let w' := (w.migrateFile c r).2
    w.SameFiles w' ∧ ¬w.LeavesModule w' r ↔
      ¬(c.dryRun = false ∧ c.keepBackups = true ∧ w.IsWritten c r ∧
        w'.isDirectory r.backup = true) := by
  intro w'
  rcases migrateFile_failed_cases hw h with
    ⟨hwritten, hsame⟩ | ⟨hdry, hkeep, hwritten, hblocked, -, hleaves⟩
  · refine iff_of_true ⟨fun l content => ?_, ?_⟩ fun hfail => hwritten ⟨hfail.1, hfail.2.2.1⟩
    · rw [show w' = w from hsame]
    · rintro ⟨hfree, hfile, -⟩
      rw [show w' = w from hsame] at hfile
      obtain ⟨content, hfound⟩ := isFile_eq_true_iff.mp hfile
      simp [contains, hfound] at hfree
  · exact iff_of_false (fun hkept => hkept.2 hleaves)
      (not_not.mpr ⟨hdry, hkeep, hwritten, hblocked⟩)

/-- A project with a page, and a directory where its backup would go. -/
def blockedProject : Workspace where
  tree := ⟨[(["p"], .directory), (["p", "app"], .directory), (["p", "app", "page.tsx"], .file #[]),
    (["p", "app", "page.tsx.backup"], .directory)]⟩

/-- The page of that project. -/
def blockedPage : RouteFile where
  source := "p/app/page.tsx"
  target := "p/app/index.tsx"
  kind := .page
  ext := "tsx"
  dir := ""
  isTypeScript := true
  isDynamic := false
  isCatchAll := false

/-- The page cannot be moved, and its module is left beside it. -/
theorem blockedPage_leaves_module :
    let w' := (blockedProject.migrateFile {} blockedPage).2
    blockedProject.tree.IsConnected ∧
      RouteFile.analyze? "p/app/page.tsx" "p/app" = some blockedPage ∧
      ∃ e, (blockedProject.migrateFile {} blockedPage).1 = .failed e ∧
        ¬(blockedProject.SameFiles w' ∧ ¬blockedProject.LeavesModule w' blockedPage) := by
  intro w'
  have hsound : blockedProject.tree.IsSound :=
    ⟨by decide +kernel, by decide +kernel, by decide +kernel⟩
  have hfails : (blockedProject.migrateFile {} blockedPage).1 =
      .failed (.write "p/app/page.tsx" .isDirectory) := by decide +kernel
  have hchanged : (blockedProject.migrateFile {} blockedPage).2 ≠ blockedProject := by
    decide +kernel
  refine ⟨hsound.isConnected, by decide +kernel, _, hfails, (failed_file_leaves_files_iff
    blockedProject {} blockedPage _ hsound.isConnected hfails).not.mpr (not_not.mpr ?_)⟩
  rcases migrateFile_failed_cases hsound.isConnected hfails with
    ⟨-, hsame⟩ | ⟨hdry, hkeep, hwritten, hblocked, -, -⟩
  · exact absurd hsame hchanged
  · exact ⟨hdry, hkeep, hwritten, hblocked⟩

end Workspace

end RouteMigration
