import Mathlib.Data.List.Nodup
import RouteMigration.Project.Migration
import RouteMigration.Proofs.Discovery

/-!
# No source text is lost

Route files are migrated one after the other in the tree that the earlier ones have changed.  A
step may write the target of its route, put the route file to its backup and make directories on
the way to the target; everything else stays.  Over a walk the places of the routes are apart, so
what a step leaves of the others is what they were.

## Main Definitions

* `Site.Changes` — what the migration of some route files may change in a tree
* `RouteFile.IsMadeInto` — the module that the text of a route file is migrated to
* `Site.IsRetired` — a route file that was migrated, in the tree after its step
* `FileReport.IsBorneOut` — what a report says about a route file is so

## Main Statements

* `Site.migrateFile_spec` — one step
* `Site.migrateFiles_spec` — the steps of a walk, one after the other
* `Workspace.migrate_loses_no_source_text` — a whole project

## Design Notes

A migrated route file is not always followed by nothing at its path: the target of a later route
may lie below that path, and then a directory is made there.
-/

namespace RouteMigration

namespace Site

open FileTree (IsConnected Extends)

variable {s : Site} {files : List FileReport} {t t₁ t' : FileTree} {f : FileReport}

/-! ### Changes -/

/-- What the migration of some route files may change: no directory is lost, a file stays unless
it is a migrated route file or at a backup, and where nothing was there may be targets, backups
and directories on the way to targets. -/
structure Changes (s : Site) (files : List FileReport) (t t' : FileTree) : Prop where
  connected : t'.IsConnected
  directory : ∀ l, t.find? l = some .directory → t'.find? l = some .directory
  file : ∀ l content, t.find? l = some (.file content) →
    (∀ f ∈ files, f.outcome.isMigrated = true → l ≠ s.place f.route.source) →
    (∀ f ∈ files, l ≠ s.place f.route.backup) → t'.find? l = some (.file content)
  absent : ∀ l, t.find? l = none → t'.find? l = none ∨
    (∃ f ∈ files, l = s.place f.route.target ∨ l = s.place f.route.backup) ∨
    t'.find? l = some .directory ∧ ∃ f ∈ files, l <+: (s.place f.route.target).dropLast

theorem Changes.refl (ht : t.IsConnected) (s : Site) (files : List FileReport) :
    s.Changes files t t :=
  ⟨ht, fun _ h => h, fun _ _ h _ _ => h, fun _ h => Or.inl h⟩

theorem Changes.trans (h : s.Changes files t t₁) (h' : s.Changes files t₁ t') :
    s.Changes files t t' where
  connected := h'.connected
  directory := fun l hl => h'.directory l (h.directory l hl)
  file := fun l content hl hsource hbackup =>
    h'.file l content (h.file l content hl hsource hbackup) hsource hbackup
  absent := by
    intro l hl
    rcases h.absent l hl with hnone | hplace | ⟨hdir, hon⟩
    · exact h'.absent l hnone
    · exact Or.inr (Or.inl hplace)
    · exact Or.inr (Or.inr ⟨h'.directory l hdir, hon⟩)

theorem Changes.mono {files' : List FileReport} (h : s.Changes files t t')
    (hsub : ∀ f ∈ files, f ∈ files') : s.Changes files' t t' where
  connected := h.connected
  directory := h.directory
  file := fun l content hl hsource hbackup =>
    h.file l content hl (fun f hf => hsource f (hsub f hf)) fun f hf => hbackup f (hsub f hf)
  absent := by
    intro l hl
    rcases h.absent l hl with hnone | ⟨f, hf, hplace⟩ | ⟨hdir, f, hf, hon⟩
    · exact Or.inl hnone
    · exact Or.inr (Or.inl ⟨f, hsub f hf, hplace⟩)
    · exact Or.inr (Or.inr ⟨hdir, f, hsub f hf, hon⟩)

/-- A target written where nothing was. -/
theorem changes_of_written {content : Array UInt8} (hf : f ∈ files)
    (hholds : s.Holds f.route.target) (hfree : t.find? (s.place f.route.target) = none)
    (hext : Extends t t₁ (s.place f.route.target).dropLast) (ht₁ : t₁.IsConnected)
    (hparent : t₁.find? (s.place f.route.target).dropLast = some .directory)
    (hold : t₁.find? (s.place f.route.target) ≠ some .directory) :
    s.Changes files t (t₁.insert (s.place f.route.target) (.file content)) where
  connected := ht₁.insert hholds.place_ne_nil hparent (Or.inl hold)
  directory := by
    intro l hl
    rw [FileTree.find?_insert _ hholds.place_ne_nil, if_neg]
    · exact hext.isDirectory l hl
    · rintro rfl
      rw [hfree] at hl
      cases hl
  file := by
    intro l content' hl _ _
    rw [FileTree.find?_insert _ hholds.place_ne_nil, if_neg]
    · rcases hext l with hsame | ⟨hnone, -⟩
      · rw [hsame, hl]
      · rw [hnone] at hl
        cases hl
    · rintro rfl
      rw [hfree] at hl
      cases hl
  absent := by
    intro l hl
    by_cases htarget : l = s.place f.route.target
    · exact Or.inr (Or.inl ⟨f, hf, Or.inl htarget⟩)
    · rw [FileTree.find?_insert _ hholds.place_ne_nil, if_neg htarget]
      rcases hext l with hsame | ⟨-, hdir, hon⟩
      · exact Or.inl (hsame.trans hl)
      · exact Or.inr (Or.inr ⟨hdir, f, hf, hon⟩)

/-- A migrated route file taken out. -/
theorem changes_of_erased {content : Array UInt8} (hf : f ∈ files)
    (hdone : f.outcome.isMigrated = true) (hholds : s.Holds f.route.source) (ht : t.IsConnected)
    (hfile : t.find? (s.place f.route.source) = some (.file content)) :
    s.Changes files t (t.erase (s.place f.route.source)) where
  connected := ht.erase hholds.place_ne_nil (by simp [hfile])
  directory := by
    intro l hl
    rw [FileTree.find?_erase _ hholds.place_ne_nil, if_neg, hl]
    rintro rfl
    rw [hfile] at hl
    cases hl
  file := by
    intro l content' hl hsource _
    rw [FileTree.find?_erase _ hholds.place_ne_nil, if_neg (hsource f hf hdone), hl]
  absent := by
    intro l hl
    rw [FileTree.find?_erase _ hholds.place_ne_nil, hl, ite_self]
    exact Or.inl rfl

/-- A backup put in. -/
theorem changes_of_backup {content : Array UInt8} (hf : f ∈ files) (hholds : s.Holds f.route.backup)
    (ht : t.IsConnected)
    (hparent : t.find? (s.place f.route.backup).dropLast = some .directory)
    (hold : t.find? (s.place f.route.backup) ≠ some .directory) :
    s.Changes files t (t.insert (s.place f.route.backup) (.file content)) where
  connected := ht.insert hholds.place_ne_nil hparent (Or.inl hold)
  directory := by
    intro l hl
    rw [FileTree.find?_insert _ hholds.place_ne_nil, if_neg, hl]
    rintro rfl
    exact hold hl
  file := by
    intro l content' hl _ hbackup
    rw [FileTree.find?_insert _ hholds.place_ne_nil, if_neg (hbackup f hf), hl]
  absent := by
    intro l hl
    by_cases hplace : l = s.place f.route.backup
    · exact Or.inr (Or.inl ⟨f, hf, Or.inr hplace⟩)
    · rw [FileTree.find?_insert _ hholds.place_ne_nil, if_neg hplace]
      exact Or.inl hl

end Site

/-! ### One step -/

/-- The module that the text of a route file is migrated to. -/
def RouteFile.IsMadeInto (r : RouteFile) (c : Config) (bytes : Array UInt8) (p : Prepared) : Prop :=
  ∃ kind text m, r.moduleKind? = some kind ∧ String.fromUTF8? ⟨bytes⟩ = some text ∧
    migrateSource r.dialect (c.optionsFor r kind) text = .ok (p.code, m) ∧
    p.warnings = m.warnings ∧ p.packages = m.packages

/-- What is prepared is made of the text that the route file holds, and goes where nothing is. -/
theorem Workspace.prepare_eq_inr {w : Workspace} {c : Config} {r : RouteFile} {p : Prepared}
    (h : w.prepare c r = .ok (.inr p)) :
    w.find? r.target = none ∧ ∃ l bytes, w.locate r.source = .ok l ∧
      w.tree.find? l = some (.file bytes) ∧ r.IsMadeInto c bytes p := by
  unfold prepare at h
  split at h
  · cases h
  · next kind hkind =>
    split at h
    · cases h
    · next hfree =>
      cases hprepare : w.prepareKind c r kind with
      | error e =>
        rw [hprepare] at h
        cases h
      | ok p' =>
        rw [hprepare] at h
        cases h
        simp only [prepareKind, bind_eq_ok_iff, mapError_eq_ok_iff, return_eq_ok_iff] at hprepare
        obtain ⟨text, hread, ⟨code, m⟩, hmade, rfl⟩ := hprepare
        obtain ⟨l, bytes, hlocate, hfile, htext⟩ := readText_eq_ok_iff.mp hread
        refine ⟨by simpa [contains] using hfree, l, bytes, hlocate, hfile, ?_⟩
        exact ⟨kind, text, m, hkind, htext, hmade, rfl, rfl⟩

namespace Site

variable {s : Site} {files : List FileReport} {w w' : Workspace} {c : Config} {r : RouteFile}
  {dirs : List String} {stem : String} {bytes : Array UInt8} {code : String}

/-- A route file that was migrated: the module is at its target, the file is gone, and its bytes
are at its backup if that is kept.  Where the file was there is nothing, or a directory on the way
to the target of one of the given route files. -/
structure IsRetired (s : Site) (files : List FileReport) (r : RouteFile) (keepBackup : Bool)
    (bytes : Array UInt8) (code : String) (t : FileTree) : Prop where
  target : t.find? (s.place r.target) = some (.file code.toUTF8.data)
  source : t.find? (s.place r.source) = none ∨ t.find? (s.place r.source) = some .directory ∧
    ∃ f ∈ files, s.place r.source <+: (s.place f.route.target).dropLast
  backup : keepBackup = true → t.find? (s.place r.backup) = some (.file bytes)

theorem IsRetired.mono {files' : List FileReport} {t : FileTree} {keepBackup : Bool}
    (h : s.IsRetired files r keepBackup bytes code t) (hsub : ∀ f ∈ files, f ∈ files') :
    s.IsRetired files' r keepBackup bytes code t := by
  refine ⟨h.target, h.source.imp_right ?_, h.backup⟩
  rintro ⟨hdir, f, hf, hon⟩
  exact ⟨hdir, f, hsub f hf, hon⟩

/-- **A retired route file stays retired.**  What is done for route files that it is apart from
leaves its target and its backup, and makes at most a directory where it was. -/
theorem IsRetired.changes {t t' : FileTree} {keepBackup : Bool}
    (h : s.IsRetired [] r keepBackup bytes code t) (hchanges : s.Changes files t t')
    (hapart : ∀ f ∈ files, s.IsApart r f.route)
    (htarget : ∀ f ∈ files, s.place r.target ≠ s.place f.route.source) :
    s.IsRetired files r keepBackup bytes code t' where
  target := hchanges.file _ _ h.target (fun f hf _ => htarget f hf)
    fun f hf => (hapart f hf).target_backup
  source := by
    have hnone : t.find? (s.place r.source) = none := by
      rcases h.source with hnone | ⟨-, f, hf, -⟩
      · exact hnone
      · cases hf
    rcases hchanges.absent _ hnone with hnone' | ⟨f, hf, htouch⟩ | hdir
    · exact Or.inl hnone'
    · rcases htouch with heq | heq
      · exact absurd heq (hapart f hf).source_target
      · exact absurd heq (hapart f hf).source_backup
    · exact Or.inr hdir
  backup := fun hkeep => hchanges.file _ _ (h.backup hkeep)
    (fun f hf _ => (hapart f hf).backup_source) fun f hf => (hapart f hf).backup

theorem prepare_spec (hs : s.IsIn w) (hlies : r.LiesAt s.path dirs stem) {p : Prepared}
    (h : w.prepare c r = .ok (.inr p)) :
    w.tree.find? (s.place r.target) = none ∧
      ∃ bytes, w.tree.find? (s.place r.source) = some (.file bytes) ∧ r.IsMadeInto c bytes p := by
  obtain ⟨hfree, l, bytes, hlocate, hfile, hmade⟩ := Workspace.prepare_eq_inr h
  obtain ⟨-, rfl⟩ := (locate_eq_ok_iff hs hlies.holds_source).mp hlocate
  rw [find?_eq hs hlies.holds_target] at hfree
  exact ⟨hfree, bytes, hfile, hmade⟩

/-- **A route file retired.**  It is gone, and kept as its backup if that is asked for. -/
theorem retire_spec (hs : s.IsIn w) (hlies : r.LiesAt s.path dirs stem) {keepBackup : Bool}
    {f : FileReport} (hf : f ∈ files) (hroute : f.route = r) (hdone : f.outcome.isMigrated = true)
    (hne : s.place r.target ≠ s.place r.source)
    (hsource : w.tree.find? (s.place r.source) = some (.file bytes))
    (htarget : w.tree.find? (s.place r.target) = some (.file code.toUTF8.data))
    (h : w.retire r keepBackup = .ok w') :
    ∃ t', w' = { w with tree := t' } ∧ s.Changes files w.tree t' ∧
      s.IsRetired [] r keepBackup bytes code t' := by
  subst hroute
  have hS := hlies.holds_source
  have hB := hlies.holds_backup
  have herased := changes_of_erased hf hdone hS hs.connected hsource
  unfold Workspace.retire at h
  cases keepBackup with
  | false =>
    obtain ⟨_, -, rfl⟩ := remove_spec hs hS h
    refine ⟨_, rfl, herased, ⟨?_, ?_, by simp⟩⟩
    · rw [FileTree.find?_erase _ hS.place_ne_nil, if_neg hne, htarget]
    · rw [FileTree.find?_erase _ hS.place_ne_nil, if_pos rfl]
      exact Or.inl rfl
  | true =>
    -- a move is a removal and then an insertion
    obtain ⟨e, he, hparent, hold, rfl⟩ := rename_spec hs hS hB h
    obtain rfl : Entry.file bytes = e := Option.some.inj (hsource.symm.trans he)
    have hold' : (w.tree.erase (s.place f.route.source)).find? (s.place f.route.backup) ≠
        some .directory := by
      rw [FileTree.find?_erase _ hS.place_ne_nil, if_neg (hlies.place_backup_ne_source hlies)]
      exact hold
    refine ⟨_, rfl, herased.trans (changes_of_backup hf hB herased.connected
      (herased.directory _ hparent) hold'), ⟨?_, ?_, fun _ => ?_⟩⟩
    · rw [FileTree.find?_insert _ hB.place_ne_nil,
        if_neg (hlies.place_backup_ne_target hlies).symm,
        FileTree.find?_erase _ hS.place_ne_nil, if_neg hne, htarget]
    · rw [FileTree.find?_insert _ hB.place_ne_nil,
        if_neg (hlies.place_backup_ne_source hlies).symm,
        FileTree.find?_erase _ hS.place_ne_nil, if_pos rfl]
      exact Or.inl rfl
    · rw [FileTree.find?_insert _ hB.place_ne_nil, if_pos rfl]

/-- **A module written.**  It is at its target, where nothing was, and the route file is as it
was. -/
theorem write_spec (hs : s.IsIn w) (hlies : r.LiesAt s.path dirs stem) {f : FileReport}
    (hf : f ∈ files) (hroute : f.route = r) (hfree : w.tree.find? (s.place r.target) = none)
    (hsource : w.tree.find? (s.place r.source) = some (.file bytes))
    (h : w.replace r.target code = .ok w') :
    ∃ t', w' = { w with tree := t' } ∧ s.Changes files w.tree t' ∧
      t'.find? (s.place r.target) = some (.file code.toUTF8.data) ∧
      t'.find? (s.place r.source) = some (.file bytes) := by
  subst hroute
  have hT := hlies.holds_target
  obtain ⟨t, hext, ht, hparent, hold, rfl⟩ := replace_spec hs hT h
  refine ⟨_, rfl, changes_of_written hf hT hfree hext ht hparent hold, ?_, ?_⟩
  · rw [FileTree.find?_insert _ hT.place_ne_nil, if_pos rfl]
  · rw [FileTree.find?_insert _ hT.place_ne_nil, if_neg]
    · rcases hext (s.place f.route.source) with hsame | ⟨hnone, -⟩
      · rw [hsame, hsource]
      · rw [hnone] at hsource
        cases hsource
    · intro heq
      rw [← heq, hsource] at hfree
      cases hfree

/-- **A module written and its route file retired.**  If the file cannot be retired, the module
stays beside it. -/
theorem commit_spec (hs : s.IsIn w) (hlies : r.LiesAt s.path dirs stem) {keepBackup : Bool}
    {f : FileReport} (hf : f ∈ files) (hroute : f.route = r) {result : Option ProjectError}
    (hdone : result = none → f.outcome.isMigrated = true)
    (hfree : w.tree.find? (s.place r.target) = none)
    (hsource : w.tree.find? (s.place r.source) = some (.file bytes))
    (h : w.commit r keepBackup code = (result, w')) :
    ∃ t', w' = { w with tree := t' } ∧ s.Changes files w.tree t' ∧
      (result = none → s.IsRetired [] r keepBackup bytes code t') := by
  unfold Workspace.commit at h
  split at h
  · cases h
    exact ⟨w.tree, rfl, Changes.refl hs.connected s files, by simp⟩
  · next w₁ hreplace =>
    obtain ⟨t₁, rfl, hwritten, htarget, hsource₁⟩ :=
      write_spec hs hlies hf hroute hfree hsource hreplace
    have hne : s.place r.target ≠ s.place r.source := by
      intro heq
      rw [heq, hsource] at hfree
      cases hfree
    have hs₁ : s.IsIn { w with tree := t₁ } := hs.mono hwritten.connected hwritten.directory
    split at h
    · cases h
      exact ⟨t₁, rfl, hwritten, by simp⟩
    · next w₂ hretire =>
      cases h
      obtain ⟨t', rfl, hchanges, hretired⟩ :=
        retire_spec hs₁ hlies hf hroute (hdone rfl) hne hsource₁ htarget hretire
      exact ⟨t', rfl, hwritten.trans hchanges, fun _ => hretired⟩

/-- **One step.**  It changes only what the migration of its route file may change, and if the
file was migrated, it is retired and its target holds the module made of its bytes. -/
theorem migrateFile_spec (hs : s.IsIn w) (hlies : r.LiesAt s.path dirs stem)
    (hdry : c.dryRun = false) (hsource : w.tree.find? (s.place r.source) = some (.file bytes))
    {outcome : FileOutcome} (h : w.migrateFile c r = (outcome, w')) :
    ∃ t', w' = { w with tree := t' } ∧ s.Changes [⟨r, outcome⟩] w.tree t' ∧
      ∀ target warnings packages, outcome = .migrated target warnings packages →
        target = r.target ∧ w.tree.find? (s.place r.target) = none ∧
        ∃ code, r.IsMadeInto c bytes ⟨code, warnings, packages⟩ ∧
          s.IsRetired [] r c.keepBackups bytes code t' := by
  have hsame : ∀ outcome, s.Changes [⟨r, outcome⟩] w.tree w.tree :=
    fun outcome => Changes.refl hs.connected s _
  have hmem : ∀ outcome, (⟨r, outcome⟩ : FileReport) ∈ [(⟨r, outcome⟩ : FileReport)] :=
    fun outcome => List.mem_singleton_self _
  unfold Workspace.migrateFile at h
  split at h
  · cases h
    exact ⟨w.tree, rfl, hsame _, by simp⟩
  · cases h
    exact ⟨w.tree, rfl, hsame _, by simp⟩
  · next p hprepare =>
    obtain ⟨hfree, bytes', hsource', hmade⟩ := prepare_spec hs hlies hprepare
    obtain rfl : bytes = bytes' := by
      rw [hsource] at hsource'
      cases hsource'
      rfl
    rw [hdry] at h
    cases hcommit : w.commit r c.keepBackups p.code with
    | mk result w₁ =>
      simp only [Bool.false_eq_true, if_false, hcommit] at h
      cases result with
      | some e =>
        cases h
        obtain ⟨t', rfl, hchanges, -⟩ := commit_spec hs hlies (hmem (.failed e)) rfl
          (by simp) hfree hsource hcommit
        exact ⟨t', rfl, hchanges, by simp⟩
      | none =>
        cases h
        obtain ⟨t', rfl, hchanges, hretired⟩ := commit_spec hs hlies
          (hmem (.migrated r.target p.warnings p.packages)) rfl (fun _ => rfl) hfree hsource hcommit
        refine ⟨t', rfl, hchanges, ?_⟩
        rintro target warnings packages ⟨rfl, rfl, rfl⟩
        exact ⟨rfl, hfree, p.code, hmade, hretired rfl⟩

/-! ### The whole run -/

/-- A route file is retired in a tree, if it was migrated, and its target holds the module made of
the bytes that it had in another one. -/
def IsSettled (s : Site) (c : Config) (files : List FileReport) (t t' : FileTree)
    (f : FileReport) : Prop :=
  ∀ target warnings packages, f.outcome = .migrated target warnings packages →
    target = f.route.target ∧ ∃ bytes code,
      t.find? (s.place f.route.source) = some (.file bytes) ∧
      f.route.IsMadeInto c bytes ⟨code, warnings, packages⟩ ∧
      s.IsRetired files f.route c.keepBackups bytes code t'

/-- The first step of a walk leaves the route files that are still to come. -/
theorem IsWalk.find?_of_first {routes : List RouteFile} (hwalk : s.IsWalk (r :: routes))
    {outcome : FileOutcome} {t t₁ : FileTree} (hfirst : s.Changes [⟨r, outcome⟩] t t₁)
    {r' : RouteFile} (hr' : r' ∈ routes)
    (h : t.find? (s.place r'.source) = some (.file bytes)) :
    t₁.find? (s.place r'.source) = some (.file bytes) := by
  have hapart := hwalk.isApart hr'
  refine hfirst.file _ _ h (fun f hf _ => ?_) fun f hf => ?_
  · rw [List.mem_singleton.mp hf]
    exact hapart.source.symm
  · rw [List.mem_singleton.mp hf]
    exact hapart.backup_source.symm

/-- **The steps of a walk.**  Each route file is reported once and in order, only what their
migration may change is changed, and each is settled with the bytes it had before the first
step. -/
theorem migrateFiles_spec {routes : List RouteFile} (hs : s.IsIn w) (hwalk : s.IsWalk routes)
    (hsources : ∀ r ∈ routes, ∃ bytes, w.tree.find? (s.place r.source) = some (.file bytes))
    (hdry : c.dryRun = false) (h : Workspace.migrateFiles c w routes = (files, w')) :
    files.map (·.route) = routes ∧ ∃ t', w' = { w with tree := t' } ∧
      s.Changes files w.tree t' ∧ ∀ f ∈ files, s.IsSettled c files w.tree t' f := by
  -- from the front: what the first step leaves is where the others start
  induction routes generalizing w files with
  | nil =>
    cases h
    exact ⟨rfl, _, rfl, Changes.refl hs.connected s [], by simp⟩
  | cons r routes ih =>
    obtain ⟨dirs, stem, hlies⟩ := hwalk.liesAt r (List.mem_cons_self ..)
    obtain ⟨bytes, hsource⟩ := hsources r (List.mem_cons_self ..)
    cases hstep : w.migrateFile c r with
    | mk outcome w₁ =>
      cases hrest : Workspace.migrateFiles c w₁ routes with
      | mk files' w₂ =>
        simp only [Workspace.migrateFiles, hstep, hrest] at h
        obtain ⟨rfl, rfl⟩ := Prod.mk.inj h
        obtain ⟨t₁, rfl, hfirst, hmigrated⟩ := migrateFile_spec hs hlies hdry hsource hstep
        have hsources₁ : ∀ r' ∈ routes, ∃ bytes,
            t₁.find? (s.place r'.source) = some (.file bytes) := by
          intro r' hr'
          obtain ⟨bytes', hbytes⟩ := hsources r' (List.mem_cons_of_mem r hr')
          exact ⟨bytes', hwalk.find?_of_first hfirst hr' hbytes⟩
        obtain ⟨hroutes, t', rfl, hchanges, hsettled⟩ :=
          ih (hs.mono hfirst.connected hfirst.directory) hwalk.tail hsources₁ hrest
        have hmem : ∀ f ∈ files', f.route ∈ routes := by
          intro f hf
          rw [← hroutes]
          exact List.mem_map_of_mem hf
        refine ⟨by rw [List.map_cons, hroutes], t', rfl, ?_, ?_⟩
        · exact (hfirst.mono (by simp)).trans (hchanges.mono fun f hf => List.mem_cons_of_mem _ hf)
        · intro f hf target warnings packages houtcome
          rcases List.mem_cons.mp hf with rfl | hf
          · obtain ⟨rfl, hfree, code, hmade, hretired⟩ := hmigrated _ _ _ houtcome
            refine ⟨rfl, bytes, code, hsource, hmade, IsRetired.mono (hretired.changes hchanges
              (fun f hf => hwalk.isApart (hmem f hf)) ?_) fun f hf => List.mem_cons_of_mem _ hf⟩
            -- nothing was at the target, and the other route files were there
            intro f hf heq
            obtain ⟨bytes', hbytes⟩ := hsources f.route (List.mem_cons_of_mem r (hmem f hf))
            rw [heq, hbytes] at hfree
            cases hfree
          · -- a later route file had its first bytes still when its turn came
            obtain ⟨rfl, bytes', code, hbytes, hmade, hretired⟩ := hsettled f hf _ _ _ houtcome
            obtain ⟨bytes'', hbytes'⟩ := hsources f.route (List.mem_cons_of_mem r (hmem f hf))
            have hsame := (hwalk.find?_of_first hfirst (hmem f hf) hbytes').symm.trans hbytes
            cases hsame
            exact ⟨rfl, bytes', code, hbytes', hmade,
              hretired.mono fun f hf => List.mem_cons_of_mem _ hf⟩

end Site

/-! ### Reports -/

/-- What a report says about a route file is borne out by the workspaces before and after.

* A migrated file has its module at its target, made of the bytes the file had.  The file is gone:
  its path leads to nothing, or to a directory on the way to a target.  Its bytes are at its backup
  if backups are kept.
* Every other file has the bytes that it had. -/
def FileReport.IsBorneOut (f : FileReport) (c : Config) (files : List FileReport)
    (w w' : Workspace) : Prop :=
  ∃ bytes, w.find? f.route.source = some (.file bytes) ∧
    match f.outcome with
    | .migrated target warnings packages =>
      target = f.route.target ∧
      (∃ code, f.route.IsMadeInto c bytes ⟨code, warnings, packages⟩ ∧
        w'.find? target = some (.file code.toUTF8.data)) ∧
      (w'.find? f.route.source = none ∨ w'.find? f.route.source = some .directory ∧
        ∃ f' ∈ files, Path.components f.route.source <+:
          (Path.components f'.route.target).dropLast) ∧
      (c.keepBackups = true → w'.find? f.route.backup = some (.file bytes))
    | .skipped _ | .failed _ => w'.find? f.route.source = some (.file bytes)

namespace Site

variable {s : Site} {files : List FileReport} {routes : List RouteFile} {w w' : Workspace}
  {c : Config} {f : FileReport}

/-- What the changes of a run and its settled route files say is what a report is borne out by. -/
theorem isBorneOut (hs : s.IsIn w) (hs' : s.IsIn w') (hwalk : s.IsWalk (files.map (·.route)))
    (hchanges : s.Changes files w.tree w'.tree)
    (hsettled : ∀ f ∈ files, s.IsSettled c files w.tree w'.tree f) {bytes : Array UInt8}
    (hf : f ∈ files) (hsource : w.tree.find? (s.place f.route.source) = some (.file bytes)) :
    f.IsBorneOut c files w w' := by
  have hlies : ∀ f ∈ files, ∃ dirs stem, f.route.LiesAt s.path dirs stem :=
    fun f hf => hwalk.liesAt f.route (List.mem_map_of_mem hf)
  obtain ⟨dirs, stem, hlies_f⟩ := hlies f hf
  have hS := hlies_f.holds_source
  -- a file that was not migrated is touched by no step: the places of a walk are distinct
  have hkept : f.outcome.isMigrated = false →
      w'.find? f.route.source = some (.file bytes) := by
    intro hnot
    rw [find?_eq hs' hS]
    refine hchanges.file _ _ hsource (fun f' hf' hdone heq => ?_) fun f' hf' => ?_
    · have hnodup := hwalk.nodup
      rw [List.map_map] at hnodup
      rw [List.inj_on_of_nodup_map hnodup hf hf' heq, hdone] at hnot
      cases hnot
    · obtain ⟨dirs', stem', hlies'⟩ := hlies f' hf'
      exact (hlies'.place_backup_ne_source hlies_f).symm
  refine ⟨bytes, by rw [find?_eq hs hS, hsource], ?_⟩
  cases houtcome : f.outcome with
  | skipped reason => exact hkept (by rw [houtcome]; rfl)
  | failed error => exact hkept (by rw [houtcome]; rfl)
  | migrated target warnings packages =>
    obtain ⟨rfl, bytes', code, hsource', hmade, hretired⟩ := hsettled f hf _ _ _ houtcome
    obtain rfl : bytes = bytes' := by
      rw [hsource] at hsource'
      cases hsource'
      rfl
    refine ⟨rfl, ⟨code, hmade, ?_⟩, ?_, fun hkeep => ?_⟩
    · rw [find?_eq hs' hlies_f.holds_target, hretired.target]
    · rw [find?_eq hs' hS]
      refine hretired.source.imp_right ?_
      rintro ⟨hdir, f', hf', hon⟩
      obtain ⟨dirs', stem', hlies'⟩ := hlies f' hf'
      exact ⟨hdir, f', hf', components_isPrefix hS hlies'.holds_target hon⟩
    · rw [find?_eq hs' hlies_f.holds_backup, hretired.backup hkeep]

/-- A route file and its backup have locations, as what they lie in is there. -/
theorem locate_source_backup (hs : s.IsIn w) {r : RouteFile} {dirs : List String} {stem : String}
    (hlies : r.LiesAt s.path dirs stem) {bytes : Array UInt8}
    (hsource : w.tree.find? (s.place r.source) = some (.file bytes)) :
    w.locate r.source = .ok (s.place r.source) ∧ w.locate r.backup = .ok (s.place r.backup) := by
  have hdir := find?_dropLast_place hs hlies.holds_source (by simp [hsource])
  refine ⟨locate_of_directory hs hlies.holds_source hdir, ?_⟩
  refine locate_of_directory hs hlies.holds_backup ?_
  rw [hlies.dropLast_place_backup, hdir]

end Site

namespace Workspace

variable {w w' : Workspace} {tools : Toolbox} {root : String} {c : Config}
  {report : MigrationReport}

/-- The directories below the app directory of a project have no backslash in their names. -/
def HasPlainRoutes (w : Workspace) (root : String) : Prop :=
  ∀ app l, w.appDirectory root = .ok app → w.locate app.path = .ok l → w.IsPlainBelow l

theorem isDirectory_of_appDirectory {app : AppDirectory} (h : w.appDirectory root = .ok app) :
    w.isDirectory app.path = true := by
  simp only [appDirectory] at h
  split at h
  · next hdir =>
    cases h
    exact hdir
  · split at h
    · next hdir =>
      cases h
      exact hdir
    · cases h

theorem files_install (w : Workspace) (tools : Toolbox) (root : String) (c : Config)
    (report : MigrationReport) : (w.install tools root c report).files = report.files := by
  unfold install
  split <;> rfl

/-- A report is about the route files that discovery finds, migrated one after the other. -/
theorem migrate_eq_ok (h : (w.migrate tools root c).1 = .ok report) :
    ∃ app routes, w.appDirectory root = .ok app ∧ w.routeFiles app.path = .ok routes ∧
      migrateFiles c w routes = (report.files, (w.migrate tools root c).2) := by
  unfold migrate at h ⊢
  cases hroutes : (do w.routeFiles (← w.appDirectory root).path) with
  | error e =>
    rw [hroutes] at h
    cases h
  | ok routes =>
    obtain ⟨app, happ, hfound⟩ := bind_eq_ok_iff.mp hroutes
    refine ⟨app, routes, happ, hfound, ?_⟩
    rw [hroutes] at h
    cases hrun : migrateFiles c w routes with
    | mk files w₁ =>
      simp only [hrun] at h ⊢
      cases hdeclared : w₁.declaredPackages root with
      | error e =>
        rw [hdeclared] at h
        cases h
      | ok declared =>
        rw [hdeclared] at h
        obtain rfl := Except.ok.inj h
        rw [files_install]

/-- **A migration run loses no source text.**  The report lists the route files that were found,
each once and in order, and what it says about each of them is borne out.  Every file that was
there before keeps its bytes, unless it is a migrated route file or at the backup of a route
file. -/
theorem migrate_loses_no_source_text (w : Workspace) (tools : Toolbox) (root : String) (c : Config)
    (report : MigrationReport) (hsound : w.tree.IsSound) (hplain : w.HasPlainRoutes root)
    (hdry : c.dryRun = false) (h : (w.migrate tools root c).1 = .ok report) :
    (∃ app, w.appDirectory root = .ok app ∧
      w.routeFiles app.path = .ok (report.files.map (·.route))) ∧
    (report.files.map (·.route.source)).Nodup ∧
    (∀ f ∈ report.files, f.IsBorneOut c report.files w (w.migrate tools root c).2) ∧
    ∀ l bytes, w.tree.find? l = some (.file bytes) →
      (∀ f ∈ report.files, f.outcome.isMigrated = true → w.locate f.route.source ≠ .ok l) →
      (∀ f ∈ report.files, w.locate f.route.backup ≠ .ok l) →
      (w.migrate tools root c).2.tree.find? l = some (.file bytes) := by
  obtain ⟨app, routes, happ, hroutes, hrun⟩ := migrate_eq_ok h
  obtain ⟨s, -, hs, hwalk, hsources⟩ := routeFiles_spec hsound (isDirectory_of_appDirectory happ)
    (fun l hl => hplain app l happ hl) hroutes
  obtain ⟨hlist, t', hw', hchanges, hsettled⟩ :=
    Site.migrateFiles_spec hs hwalk hsources hdry hrun
  have hs' := hs.mono hchanges.connected hchanges.directory
  rw [← hlist] at hwalk hsources
  have hsource : ∀ f ∈ report.files, ∃ bytes,
      w.tree.find? (s.place f.route.source) = some (.file bytes) :=
    fun f hf => hsources f.route (List.mem_map_of_mem hf)
  have hlocate : ∀ f ∈ report.files, w.locate f.route.source = .ok (s.place f.route.source) ∧
      w.locate f.route.backup = .ok (s.place f.route.backup) := by
    intro f hf
    obtain ⟨bytes, hbytes⟩ := hsource f hf
    obtain ⟨dirs, stem, hlies⟩ := hwalk.liesAt f.route (List.mem_map_of_mem hf)
    exact Site.locate_source_backup hs hlies hbytes
  rw [hw']
  refine ⟨⟨app, happ, by rw [hlist, hroutes]⟩, ?_, ?_, ?_⟩
  · -- distinct places are places of distinct paths
    have hnodup := hwalk.nodup
    rw [List.map_map] at hnodup
    refine List.Nodup.of_map s.place ?_
    rwa [List.map_map]
  · intro f hf
    obtain ⟨bytes, hbytes⟩ := hsource f hf
    exact Site.isBorneOut hs hs' hwalk hchanges hsettled hf hbytes
  · intro l bytes hl hmigrated hbackup
    refine hchanges.file l bytes hl (fun f hf hdone heq => ?_) fun f hf heq => ?_
    · exact hmigrated f hf hdone (heq ▸ (hlocate f hf).1)
    · exact hbackup f hf (heq ▸ (hlocate f hf).2)

/-- A project with the page of `$id`, and a loading file whose target lies below the path of that
page. -/
def pathTaken : Workspace where
  tree := ⟨[(["p"], .directory), (["p", "app"], .directory), (["p", "app", "$id"], .directory),
    (["p", "app", "$id", "page.tsx"], .file #[]), (["p", "app", "[id]"], .directory),
    (["p", "app", "[id]", "page.tsx"], .directory),
    (["p", "app", "[id]", "page.tsx", "loading.tsx"], .file #[])]⟩

theorem isSound_pathTaken : pathTaken.tree.IsSound :=
  ⟨by decide, by decide, by decide⟩

theorem hasPlainRoutes_pathTaken : pathTaken.HasPlainRoutes "p" := by
  intro app l happ hl
  have happ' : pathTaken.appDirectory "p" = .ok ⟨"p/app", false⟩ := by decide +kernel
  rw [happ'] at happ
  cases happ
  have hl' : pathTaken.locate "p/app" = .ok ["p", "app"] := by decide +kernel
  rw [hl'] at hl
  cases hl
  unfold IsPlainBelow
  decide +kernel

/-- Both route files of that project are migrated, and then something is at the path of one of
them. -/
theorem migrate_pathTaken :
    ∃ report, (pathTaken.migrate (fun _ => none) "p" {}).1 = .ok report ∧
      report.files.length = 2 ∧ (∀ f ∈ report.files, f.outcome.isMigrated = true) ∧
      ∃ f ∈ report.files,
        (pathTaken.migrate (fun _ => none) "p" {}).2.contains f.route.source = true := by
  have hrun : ((pathTaken.migrate (fun _ => none) "p" {}).1.toOption.any fun report =>
      report.files.length = 2 && report.files.all (·.outcome.isMigrated) &&
      report.files.any fun f =>
        (pathTaken.migrate (fun _ => none) "p" {}).2.contains f.route.source) = true := by
    decide +kernel
  obtain ⟨report, hreport, htests⟩ := exists_eq_ok_of_any hrun
  simp only [Bool.and_eq_true, decide_eq_true_eq, List.all_eq_true, List.any_eq_true] at htests
  exact ⟨report, hreport, htests.1.1, htests.1.2, htests.2⟩

/-- The path of a migrated route file need not be gone: a directory is made there for the target
of another route. -/
theorem migrated_source_path_taken :
    pathTaken.tree.IsSound ∧ pathTaken.HasPlainRoutes "p" ∧
      ∃ report, (pathTaken.migrate (fun _ => none) "p" {}).1 = .ok report ∧
        ∃ f ∈ report.files, f.outcome.isMigrated = true ∧
          (pathTaken.migrate (fun _ => none) "p" {}).2.contains f.route.source = true := by
  obtain ⟨report, hreport, -, hmigrated, f, hf, hcontains⟩ := migrate_pathTaken
  exact ⟨isSound_pathTaken, hasPlainRoutes_pathTaken, report, hreport, f, hf, hmigrated f hf,
    hcontains⟩

/-- What is reported of that project is borne out all the same. -/
theorem pathTaken_loses_no_source_text :
    pathTaken.tree.IsSound ∧ pathTaken.HasPlainRoutes "p" ∧ ({} : Config).dryRun = false ∧
      ∃ report, (pathTaken.migrate (fun _ => none) "p" {}).1 = .ok report ∧
        report.files.length = 2 ∧ ∀ f ∈ report.files, f.outcome.isMigrated = true ∧
          f.IsBorneOut {} report.files pathTaken (pathTaken.migrate (fun _ => none) "p" {}).2 := by
  obtain ⟨report, hreport, hlength, hmigrated, -⟩ := migrate_pathTaken
  have hrun := migrate_loses_no_source_text pathTaken (fun _ => none) "p" {} report
    isSound_pathTaken hasPlainRoutes_pathTaken rfl hreport
  exact ⟨isSound_pathTaken, hasPlainRoutes_pathTaken, rfl, report, hreport, hlength,
    fun f hf => ⟨hmigrated f hf, hrun.2.2.1 f hf⟩⟩

end Workspace

end RouteMigration
