import RouteMigration.Proofs.FailedRun

/-!
# What a run does to a tree

The steps of a run make directories, put in files and take files out, one after the other.  So a
tree as a file system has it stays one, and a file whose name is no name of a file that is put in
was there before.

## Main Definitions

* `FileTree.Reaches` — what can be done to a tree in steps, where the names of new files are known
* `IsPathTo` — a path with a known last name
* `RouteFile.Puts` — the names that the migration of a route file puts in

## Main Statements

* `FileTree.Reaches.isSound`, `FileTree.Reaches.find?_file` — a sound tree stays sound, and files of
  other names are not new
* `Workspace.migrateFile_reaches`, `Workspace.migrateFiles_reaches` — one step, and a run
* `Workspace.find?_source_of_migrated` — no file is left where a migrated route file was
-/

namespace RouteMigration

open RouteMigration.Path (IsName)

/-! ### Sound trees -/

namespace FileTree

variable {t t' t'' : FileTree} {l here : Location} {e : Entry} {n : String} {P : String → Prop}
  {content : Array UInt8}

theorem mem_of_mem_insertInto {entries : List (Location × Entry)} {x : Location × Entry}
    (h : x ∈ insertInto l e entries) : x = (l, e) ∨ x ∈ entries := by
  induction entries with
  | nil => exact Or.inl (List.mem_singleton.mp h)
  | cons y ys ih =>
    rw [insertInto] at h
    split at h
    · exact List.mem_cons.mp h
    · split at h
      · exact (List.mem_cons.mp h).imp_right (List.mem_cons_of_mem y)
      · rcases List.mem_cons.mp h with rfl | h
        · exact Or.inr (List.mem_cons_self ..)
        · exact (ih h).imp_right (List.mem_cons_of_mem y)

/-- An entry is put where the order has its place. -/
theorem pairwise_insertInto {entries : List (Location × Entry)}
    (h : entries.Pairwise fun x y => x.1 < y.1) :
    (insertInto l e entries).Pairwise fun x y => x.1 < y.1 := by
  induction entries with
  | nil => exact List.pairwise_singleton _ _
  | cons y ys ih =>
    obtain ⟨hy, hys⟩ := List.pairwise_cons.mp h
    rw [insertInto]
    split
    · next hlt =>
      refine List.pairwise_cons.mpr ⟨fun x hx => ?_, h⟩
      rcases List.mem_cons.mp hx with rfl | hx
      · exact hlt
      · exact List.lt_trans hlt (hy x hx)
    · next hnot =>
      split
      · next heq =>
        subst heq
        exact List.pairwise_cons.mpr ⟨hy, hys⟩
      · next hne =>
        refine List.pairwise_cons.mpr ⟨fun x hx => ?_, ih hys⟩
        rcases mem_of_mem_insertInto hx with rfl | hx
        · by_contra hlt
          exact hne (List.le_antisymm hlt hnot)
        · exact hy x hx

/-- A tree in order, made of names, whose entries lie in directories. -/
theorem isSound_of_isConnected (hsorted : t.entries.Pairwise fun x y => x.1 < y.1)
    (hname : ∀ x ∈ t.entries, ∀ n ∈ x.1, IsName n) (hconnected : t.IsConnected) : t.IsSound := by
  refine ⟨hsorted, hname, fun x hx => ?_⟩
  rw [isDirectory_iff]
  by_cases hempty : x.1 = []
  · rw [hempty]
    rfl
  · refine hconnected _ (x.1.getLast hempty) ?_
    rw [List.dropLast_append_getLast hempty, find?_of_ne_nil t hempty, lookup_of_mem hsorted hx]
    simp

theorem IsSound.insert (h : t.IsSound) (hl : l ≠ []) (hname : ∀ n ∈ l, IsName n)
    (hparent : t.find? l.dropLast = some .directory)
    (hold : t.find? l ≠ some .directory ∨ e = .directory) : (t.insert l e).IsSound := by
  refine isSound_of_isConnected (pairwise_insertInto h.sorted) (fun x hx => ?_)
    (h.isConnected.insert hl hparent hold)
  rcases mem_of_mem_insertInto hx with rfl | hx
  · exact hname
  · exact h.isName x hx

theorem IsSound.erase (h : t.IsSound) (hl : l ≠ []) (hfile : t.find? l ≠ some .directory) :
    (t.erase l).IsSound :=
  isSound_of_isConnected (h.sorted.filter _) (fun x hx => h.isName x (List.mem_of_mem_filter hx))
    (h.isConnected.erase hl hfile)

/-- What is found in a sound tree has a location made of names. -/
theorem IsSound.isName_of_find? (h : t.IsSound) (hl : t.find? l = some e) : ∀ n ∈ l, IsName n := by
  by_cases hempty : l = []
  · simp [hempty]
  · exact h.isName _ ((h.mem_entries hempty).mpr hl)

/-! ### What can be done in steps -/

/-- What can be done to a tree in steps: making directories that are missing, putting in files
whose names satisfy `P`, and taking out files. -/
inductive Reaches (P : String → Prop) (t : FileTree) : FileTree → Prop
  | refl : Reaches P t t
  | makeDirectory {t' : FileTree} (h : Reaches P t t') (here : Location) {n : String}
    (hn : IsName n) (hhere : t'.find? here = some .directory)
    (hnone : t'.find? (here ++ [n]) = none) : Reaches P t (t'.insert (here ++ [n]) .directory)
  | put {t' : FileTree} (h : Reaches P t t') (here : Location) {n : String} (content : Array UInt8)
    (hn : IsName n) (hP : P n) (hhere : t'.find? here = some .directory)
    (hold : t'.find? (here ++ [n]) ≠ some .directory) :
    Reaches P t (t'.insert (here ++ [n]) (.file content))
  | take {t' : FileTree} (h : Reaches P t t') {l : Location} {content : Array UInt8} (hl : l ≠ [])
    (hfile : t'.find? l = some (.file content)) : Reaches P t (t'.erase l)

namespace Reaches

theorem trans (h : Reaches P t t') (h' : Reaches P t' t'') : Reaches P t t'' := by
  induction h' with
  | refl => exact h
  | makeDirectory _ here hn hhere hnone ih => exact .makeDirectory ih here hn hhere hnone
  | put _ here content hn hP hhere hold ih => exact .put ih here content hn hP hhere hold
  | take _ hl hfile ih => exact .take ih hl hfile

/-- **A sound tree stays sound.** -/
theorem isSound (h : Reaches P t t') (ht : t.IsSound) : t'.IsSound := by
  have hnames : ∀ {t' : FileTree} {here : Location} {n : String}, t'.IsSound →
      t'.find? here = some .directory → IsName n → ∀ m ∈ here ++ [n], IsName m :=
    fun ht' hhere hn =>
      List.forall_mem_append.mpr ⟨ht'.isName_of_find? hhere, List.forall_mem_singleton.mpr hn⟩
  induction h with
  | refl => exact ht
  | makeDirectory _ here hn hhere _ ih =>
    exact ih.insert (by simp) (hnames ih hhere hn) (by rwa [List.dropLast_concat]) (Or.inr rfl)
  | put _ here content hn _ hhere hold ih =>
    exact ih.insert (by simp) (hnames ih hhere hn) (by rwa [List.dropLast_concat]) (Or.inl hold)
  | take _ hl hfile ih => exact ih.erase hl (by simp [hfile])

/-- **No file of another name is new.**  It was there before, with its content. -/
theorem find?_file (h : Reaches P t t') (hn : ¬P n)
    (hfile : t'.find? (l ++ [n]) = some (.file content)) :
    t.find? (l ++ [n]) = some (.file content) := by
  induction h with
  | refl => exact hfile
  | makeDirectory _ here _ _ _ ih =>
    rw [find?_insert _ (by simp)] at hfile
    split at hfile
    · cases hfile
    · exact ih hfile
  | put _ here content' _ hP _ _ ih =>
    rw [find?_insert _ (by simp)] at hfile
    split at hfile
    · next heq =>
      -- the last names differ, as only one of them is a name of new files
      obtain ⟨-, hlast⟩ := List.append_inj' heq rfl
      exact absurd ((List.cons.inj hlast).1 ▸ hP) hn
    · exact ih hfile
  | take _ hl _ ih =>
    rw [find?_erase _ hl] at hfile
    split at hfile
    · cases hfile
    · exact ih hfile

end Reaches

theorem makeDirectoriesFrom_reaches {names : List String} (ht : t.IsConnected)
    (hhere : t.find? here = some .directory) (hnames : ∀ n ∈ names, IsName n)
    (h : makeDirectoriesFrom here names t = .ok t') : Reaches P t t' := by
  induction names generalizing here t with
  | nil =>
    obtain rfl : t = t' := by simpa [makeDirectoriesFrom] using h
    exact .refl
  | cons n names ih =>
    obtain ⟨t₁, hmake, hrest⟩ := bind_eq_ok_iff.mp h
    obtain ⟨-, ht₁, hdir⟩ := makeDirectory_spec ht hhere hmake
    have hfirst : Reaches P t t₁ := by
      unfold makeDirectory at hmake
      split at hmake
      · cases hmake
        exact .refl
      · cases hmake
      · next hnone =>
        cases hmake
        exact .makeDirectory .refl here (hnames n (List.mem_cons_self ..)) hhere hnone
    exact hfirst.trans (ih ht₁ hdir (fun m hm => hnames m (List.mem_cons_of_mem n hm)) hrest)

end FileTree

/-! ### Components -/

/-- A step with a name leads from names to names. -/
theorem FileTree.isName_of_step {t : FileTree} {l l' : Location} {c : PathComponent}
    (hl : ∀ n ∈ l, IsName n) (hc : ∀ n, c = .name n → IsName n) (h : t.step l c = .ok l') :
    ∀ n ∈ l', IsName n := by
  have hdir := isDirectory_of_step h
  unfold step at h
  rw [hdir] at h
  cases c with
  | root => cases h
  | here =>
    cases h
    exact hl
  | up =>
    cases h
    exact fun n hn => hl n ((List.dropLast_prefix l).subset hn)
  | name n =>
    cases h
    exact List.forall_mem_append.mpr ⟨hl, List.forall_mem_singleton.mpr (hc n rfl)⟩

/-! ### Runs -/

/-- The path ends in a name that satisfies `P`. -/
def IsPathTo (P : String → Prop) (path : String) : Prop :=
  ∃ dir n, IsName n ∧ P n ∧ path = Path.join dir n

/-- What the migration of a route file puts in has names that satisfy `P`, and the route file has
another one. -/
structure RouteFile.Puts (P : String → Prop) (r : RouteFile) : Prop where
  paths : r.HasWorkPaths
  target : IsPathTo P r.target
  backup : IsPathTo P r.backup

/-- The first step of a path starts from a directory. -/
theorem FileTree.find?_start_of_locate {t : FileTree} {start l : Location} {path : String}
    {P : String → Prop} (hpath : IsPathTo P path) (h : t.locate start path = .ok l) :
    t.find? start = some .directory := by
  obtain ⟨dir, n, hn, -, rfl⟩ := hpath
  obtain ⟨here, hsteps, hdir, -⟩ := (locate_join_eq_ok_iff hn).mp h
  cases hcomponents : Path.components dir with
  | nil =>
    rw [hcomponents] at hsteps
    cases hsteps
    exact hdir
  | cons c rest =>
    rw [hcomponents, List.foldlM_cons, bind_eq_ok_iff] at hsteps
    obtain ⟨next, hstep, -⟩ := hsteps
    exact isDirectory_of_step hstep

namespace Workspace

open FileTree (Reaches)

variable {w w₁ w' : Workspace} {P : String → Prop} {l here : Location} {path n : String}
  {content : Array UInt8} {r : RouteFile} {routes : List RouteFile} {c : Config}

theorem makeDirectories_reaches (hw : w.tree.IsConnected) {steps : List PathComponent}
    (hl : ∀ n ∈ l, IsName n) (hsteps : ∀ n, PathComponent.name n ∈ steps → IsName n)
    (h : w.makeDirectories steps l = .ok w') : w.tree.Reaches P w'.tree := by
  have hmake : ∀ {w : Workspace} {l : Location} {t : FileTree}, w.tree.IsConnected →
      (∀ n ∈ l, IsName n) → w.tree.makeDirectories l = .ok t → w.tree.Reaches P t :=
    fun hw hl ht => FileTree.makeDirectoriesFrom_reaches hw (FileTree.find?_nil _) hl ht
  induction steps generalizing w l with
  | nil =>
    rw [makeDirectories, bind_eq_ok_iff] at h
    obtain ⟨t, ht, hreturn⟩ := h
    obtain rfl := return_eq_ok_iff.mp hreturn
    exact hmake hw hl ht
  | cons step steps ih =>
    have hrest : ∀ n, PathComponent.name n ∈ steps → IsName n := fun n hn =>
      hsteps n (List.mem_cons_of_mem step hn)
    cases step with
    | name n =>
      refine ih hw (List.forall_mem_append.mpr ⟨hl, List.forall_mem_singleton.mpr ?_⟩) hrest h
      exact hsteps n (List.mem_cons_self ..)
    | root | here | up =>
      rw [makeDirectories, bind_eq_ok_iff] at h
      · obtain ⟨t, ht, h⟩ := h
        obtain ⟨l', hstep, h⟩ := bind_eq_ok_iff.mp h
        have hl' : ∀ n ∈ l', IsName n :=
          FileTree.isName_of_step hl (fun n hn => hsteps n (hn ▸ List.mem_cons_self ..)) hstep
        exact (hmake hw hl ht).trans (ih (FileTree.makeDirectories_spec hw ht).2.1 hl' hrest h)
      · simp

/-- A module written. -/
theorem replace_reaches (hw : w.tree.IsSound) (hstart : w.tree.find? w.directory = some .directory)
    (hpath : IsPathTo P path) {text : String} (h : w.replace path text = .ok w') :
    w.tree.Reaches P w'.tree := by
  obtain ⟨w₁, hmake, hwrite⟩ := bind_eq_ok_iff.mp h
  have hfirst : w.tree.Reaches P w₁.tree :=
    makeDirectories_reaches hw.isConnected (hw.isName_of_find? hstart)
      (fun n hn => Path.isName_of_mem_components ((List.dropLast_prefix _).subset hn)) hmake
  simp only [writeText, writeBytes, bind_eq_ok_iff, check_eq_ok_iff, return_eq_ok_iff] at hwrite
  obtain ⟨l, hl, hfree, rfl⟩ := hwrite
  obtain ⟨dir, n, hn, hP, rfl⟩ := hpath
  obtain ⟨here, -, hdir, rfl⟩ := (FileTree.locate_join_eq_ok_iff hn).mp hl
  refine .put hfirst here _ hn hP hdir fun hplace => hfree ?_
  rw [FileTree.isDirectory_iff.mpr hplace, Bool.true_or]

/-- A route file retired.  It is taken out before its backup is put in. -/
theorem retire_reaches (hpaths : r.HasWorkPaths) (hbackup : IsPathTo P r.backup)
    {keepBackup : Bool} (hl : w.locate r.source = .ok l)
    (hfile : w.tree.find? l = some (.file content)) (h : w.retire r keepBackup = .ok w') :
    (w.tree.erase l).Reaches P w'.tree := by
  obtain ⟨here, n, -, -, rfl⟩ := exists_of_locate hpaths.source hl
  cases keepBackup with
  | false =>
    simp only [retire, Bool.false_eq_true, if_false, remove, hl, hfile, bind_eq_ok_iff,
      Except.ok.injEq, exists_eq_left', return_eq_ok_iff] at h
    rw [← h]
    exact .refl
  | true =>
    simp only [retire, if_true, rename, hl, hfile, bind_eq_ok_iff, Except.ok.injEq,
      exists_eq_left', check_eq_ok_iff, return_eq_ok_iff] at h
    obtain ⟨target, htarget, hfree, rfl⟩ := h
    obtain ⟨dir, n', hn', hP, hjoin⟩ := hbackup
    rw [hjoin] at htarget
    obtain ⟨here', -, hdir', rfl⟩ := (FileTree.locate_join_eq_ok_iff hn').mp htarget
    refine .put .refl here' _ hn' hP ?_ ?_
    · rw [FileTree.find?_erase _ (by simp), if_neg, hdir']
      rintro rfl
      rw [hfile] at hdir'
      cases hdir'
    · rw [FileTree.find?_erase _ (by simp)]
      split
      · simp
      · rwa [FileTree.isDirectory_iff] at hfree

/-- What comes of a step: nothing is changed, or a module is written, and then its route file is
retired or left. -/
theorem migrateFile_cases (hdry : c.dryRun = false) :
    ((w.migrateFile c r).1.isMigrated = false ∧ (w.migrateFile c r).2 = w) ∨
      ∃ p w₁, w.prepare c r = .ok (.inr p) ∧ w.replace r.target p.code = .ok w₁ ∧
        (((w.migrateFile c r).1.isMigrated = false ∧ (w.migrateFile c r).2 = w₁) ∨
          w₁.retire r c.keepBackups = .ok (w.migrateFile c r).2) := by
  unfold migrateFile
  cases w.prepare c r with
  | error e => exact Or.inl ⟨rfl, rfl⟩
  | ok prepared =>
    cases prepared with
    | inl reason => exact Or.inl ⟨rfl, rfl⟩
    | inr p =>
      simp only [hdry, Bool.false_eq_true, if_false, commit]
      cases hreplace : w.replace r.target p.code with
      | error fault => exact Or.inl ⟨rfl, rfl⟩
      | ok w₁ =>
        refine Or.inr ⟨p, w₁, rfl, hreplace, ?_⟩
        dsimp only
        cases hretire : w₁.retire r c.keepBackups with
        | error fault => exact Or.inl ⟨rfl, rfl⟩
        | ok w₂ => exact Or.inr rfl

/-- **One step.**  If it migrates its route file, that file is taken out, and at most its backup is
put in after that. -/
theorem migrateFile_reaches (hw : w.tree.IsSound)
    (hstart : w.tree.find? w.directory = some .directory) (hputs : r.Puts P)
    (hdry : c.dryRun = false) :
    w.tree.Reaches P (w.migrateFile c r).2.tree ∧
      ((w.migrateFile c r).1.isMigrated = true → ∃ (t : FileTree) (l : Location),
        w.locate r.source = .ok l ∧ (t.erase l).Reaches P (w.migrateFile c r).2.tree) := by
  rcases migrateFile_cases hdry with ⟨hdone, hsame⟩ | ⟨p, w₁, hprepare, hreplace, hretire⟩
  · rw [hsame, hdone]
    exact ⟨.refl, nofun⟩
  · have hwritten : w.tree.Reaches P w₁.tree := replace_reaches hw hstart hputs.target hreplace
    rcases hretire with ⟨hdone, hsame⟩ | hretire
    · rw [hsame, hdone]
      exact ⟨hwritten, nofun⟩
    · -- the route file is still there when its module has been written
      obtain ⟨-, l, bytes, hl, hfile, -⟩ := prepare_eq_inr hprepare
      have hadvance : w.Advances (fun _ => True) w₁ :=
        (replace_advances hw.isConnected hputs.paths.target hreplace).1
      obtain ⟨bytes₁, hfile₁⟩ := hadvance.file l bytes trivial hfile
      have hl₁ : w₁.locate r.source = .ok l := hadvance.locate hputs.paths.source hl
      have hrest := retire_reaches hputs.paths hputs.backup hl₁ hfile₁ hretire
      obtain ⟨here, n, -, -, hlast⟩ := exists_of_locate hputs.paths.source hl
      have hne : l ≠ [] := by simp [hlast]
      exact ⟨(hwritten.trans (.take .refl hne hfile₁)).trans hrest, fun _ => ⟨_, l, hl, hrest⟩⟩

/-- A run reports on its route files in their order. -/
theorem map_route_migrateFiles (c : Config) (w : Workspace) (routes : List RouteFile) :
    (migrateFiles c w routes).1.map (·.route) = routes := by
  induction routes generalizing w with
  | nil => rfl
  | cons r routes ih => exact congrArg (r :: ·) (ih (w.migrateFile c r).2)

/-- **A run.** -/
theorem migrateFiles_reaches (hw : w.tree.IsSound)
    (hstart : w.tree.find? w.directory = some .directory) (hputs : ∀ r ∈ routes, r.Puts P)
    (hdry : c.dryRun = false) : w.tree.Reaches P (migrateFiles c w routes).2.tree := by
  induction routes generalizing w with
  | nil => exact .refl
  | cons r routes ih =>
    have hr := hputs r (List.mem_cons_self ..)
    have hfirst := (migrateFile_reaches hw hstart hr hdry).1
    have hadvance : w.Advances (fun _ => False) (w.migrateFile c r).2 :=
      migrateFile_advances hw.isConnected hr.paths fun _ _ => id
    refine hfirst.trans
      (ih (hfirst.isSound hw) ?_ fun r' hr' => hputs r' (List.mem_cons_of_mem r hr'))
    rw [hadvance.start]
    exact hadvance.directory _ hstart

/-- **No file is left where a migrated route file was**, as no file with its name is put in. -/
theorem find?_source_of_migrated (hw : w.tree.IsSound)
    (hstart : w.tree.find? w.directory = some .directory) (hputs : ∀ r ∈ routes, r.Puts P)
    (hdry : c.dryRun = false) {f : FileReport} (hf : f ∈ (migrateFiles c w routes).1)
    (hdone : f.outcome.isMigrated = true) {n : String} (hn : ¬P n)
    (hl : w.locate f.route.source = .ok (here ++ [n])) :
    (migrateFiles c w routes).2.tree.find? (here ++ [n]) ≠ some (.file content) := by
  intro hfile
  induction routes generalizing w with
  | nil => cases hf
  | cons r routes ih =>
    have hr := hputs r (List.mem_cons_self ..)
    have hrest := fun r' hr' => hputs r' (List.mem_cons_of_mem r hr')
    obtain ⟨hfirst, htaken⟩ := migrateFile_reaches hw hstart hr hdry
    have hadvance : w.Advances (fun _ => False) (w.migrateFile c r).2 :=
      migrateFile_advances hw.isConnected hr.paths fun _ _ => id
    have hsound := hfirst.isSound hw
    have hstart' : (w.migrateFile c r).2.tree.find? (w.migrateFile c r).2.directory =
        some .directory := by
      rw [hadvance.start]
      exact hadvance.directory _ hstart
    rcases List.mem_cons.mp hf with rfl | hf
    · -- what is at its location after the run was there after its step
      obtain ⟨t, l, hl', hreach⟩ := htaken hdone
      rw [hl] at hl'
      cases hl'
      have hlast :=
        (hreach.trans (migrateFiles_reaches hsound hstart' hrest hdry)).find?_file hn hfile
      rw [FileTree.find?_erase _ (by simp), if_pos rfl] at hlast
      cases hlast
    · have hroute : f.route ∈ routes :=
        map_route_migrateFiles c _ routes ▸ List.mem_map_of_mem hf
      exact ih hsound hstart' hrest hf (hadvance.locate (hrest _ hroute).paths.source hl) hfile

end Workspace

end RouteMigration
