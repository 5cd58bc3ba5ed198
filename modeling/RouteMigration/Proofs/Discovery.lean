import RouteMigration.Project.Discovery
import RouteMigration.Proofs.RouteFile

/-!
# Route files of a walk

What discovery finds in a tree: every route file lies at its place below the app directory, is a
file there, and comes in the order of the places.

## Main Definitions

* `FileTree.IsSound` — a tree whose entries are in order, named by names and in directories
* `Workspace.IsPlainBelow` — the directories below one have no backslash in their names
* `Site.IsWalk` — route files that lie at their places, in the order of a walk

## Main Statements

* `Workspace.routeFiles_spec` — discovery gives the route files of a walk
* `Site.IsWalk.cons` — what the first route file of a walk has to do with the others
-/

namespace RouteMigration

open RouteMigration.Path (IsName)

namespace FileTree

variable {t : FileTree} {l names : Location} {e : Entry}

/-- A tree as a file system has them: each location once and in order, made of names, and in a
directory. -/
structure IsSound (t : FileTree) : Prop where
  sorted : t.entries.Pairwise fun x y => x.1 < y.1
  isName : ∀ x ∈ t.entries, ∀ n ∈ x.1, IsName n
  inDirectory : ∀ x ∈ t.entries, t.isDirectory x.1.dropLast = true

theorem mem_of_lookup {entries : List (Location × Entry)} (h : entries.lookup l = some e) :
    (l, e) ∈ entries := by
  induction entries with
  | nil => cases h
  | cons x xs ih =>
    rw [lookup_cons_eq_ite] at h
    split at h
    · next hl =>
      obtain rfl := Option.some.inj h
      rw [hl]
      exact List.mem_cons_self ..
    · exact List.mem_cons_of_mem _ (ih h)

theorem lookup_of_mem {entries : List (Location × Entry)}
    (hsorted : entries.Pairwise fun x y => x.1 < y.1) (h : (l, e) ∈ entries) :
    entries.lookup l = some e := by
  induction entries with
  | nil => cases h
  | cons x xs ih =>
    obtain ⟨hx, hxs⟩ := List.pairwise_cons.mp hsorted
    rw [lookup_cons_eq_ite]
    rcases List.mem_cons.mp h with rfl | hmem
    · exact if_pos rfl
    · have hlt : x.1 < l := hx _ hmem
      rw [if_neg, ih hxs hmem]
      rintro rfl
      exact List.lt_irrefl _ hlt

/-- The entries of a sound tree are what is found in it. -/
theorem IsSound.mem_entries (h : t.IsSound) (hl : l ≠ []) :
    (l, e) ∈ t.entries ↔ t.find? l = some e := by
  rw [find?_of_ne_nil t hl]
  exact ⟨lookup_of_mem h.sorted, mem_of_lookup⟩

theorem IsSound.isConnected (h : t.IsSound) : t.IsConnected := by
  intro l n hsome
  obtain ⟨e, he⟩ := Option.ne_none_iff_exists'.mp hsome
  have hdir := h.inDirectory _ ((h.mem_entries (by simp)).mpr he)
  rwa [List.dropLast_concat, isDirectory_iff] at hdir

theorem below_eq (t : FileTree) (l : Location) :
    t.below l = t.entries.filterMap fun x =>
      ((l.isPrefixOf? x.1).filter (· ≠ [])).map (·, x.2) := by
  unfold below
  refine List.filterMap_congr fun x _ => ?_
  rcases l.isPrefixOf? x.1 with _ | _ | ⟨n, rest⟩ <;> rfl

theorem mem_below : (names, e) ∈ t.below l ↔ names ≠ [] ∧ (l ++ names, e) ∈ t.entries := by
  simp only [below_eq, List.mem_filterMap, Option.map_eq_some_iff, Option.filter_eq_some_iff,
    List.isPrefixOf?_eq_some_iff_append_eq, decide_eq_true_eq, Prod.mk.injEq]
  constructor
  · rintro ⟨⟨l', e'⟩, hmem, names', ⟨rfl, hne⟩, rfl, rfl⟩
    exact ⟨hne, hmem⟩
  · rintro ⟨hne, hmem⟩
    exact ⟨_, hmem, names, ⟨rfl, hne⟩, rfl, rfl⟩

/-- What lies below a location is in the order of the tree. -/
theorem IsSound.pairwise_below (h : t.IsSound) (l : Location) :
    (t.below l).Pairwise fun x y => l ++ x.1 < l ++ y.1 := by
  rw [below_eq]
  refine h.sorted.filterMap _ fun x y hxy x' hx' y' hy' => ?_
  simp only [Option.map_eq_some_iff, Option.filter_eq_some_iff,
    List.isPrefixOf?_eq_some_iff_append_eq] at hx' hy'
  obtain ⟨names, ⟨hnames, -⟩, rfl⟩ := hx'
  obtain ⟨names', ⟨hnames', -⟩, rfl⟩ := hy'
  rwa [hnames, hnames']

end FileTree

/-! ### Walks -/

namespace Site

variable {s : Site} {r : RouteFile} {routes : List RouteFile}

/-- Route files that lie at their places below a directory, in the order of a walk. -/
structure IsWalk (s : Site) (routes : List RouteFile) : Prop where
  liesAt : ∀ r ∈ routes, ∃ dirs stem, r.LiesAt s.path dirs stem
  sorted : routes.Pairwise fun r r' => s.place r.source < s.place r'.source

theorem IsWalk.tail (h : s.IsWalk (r :: routes)) : s.IsWalk routes :=
  ⟨fun r' hr' => h.liesAt r' (List.mem_cons_of_mem r hr'), (List.pairwise_cons.mp h.sorted).2⟩

/-- No place comes twice in a walk. -/
theorem IsWalk.nodup (h : s.IsWalk routes) : (routes.map fun r => s.place r.source).Nodup := by
  refine List.pairwise_map.mpr (h.sorted.imp ?_)
  intro r r' hlt heq
  rw [heq] at hlt
  exact List.lt_irrefl _ hlt

/-- Nothing that is done for the second route file touches the places of the first. -/
structure IsApart (s : Site) (r r' : RouteFile) : Prop where
  source : s.place r.source ≠ s.place r'.source
  source_target : s.place r.source ≠ s.place r'.target
  source_backup : s.place r.source ≠ s.place r'.backup
  target_backup : s.place r.target ≠ s.place r'.backup
  backup_source : s.place r.backup ≠ s.place r'.source
  backup_target : s.place r.backup ≠ s.place r'.target
  backup : s.place r.backup ≠ s.place r'.backup

/-- **The first of a walk.**  It is apart from all that come after it. -/
theorem IsWalk.isApart (h : s.IsWalk (r :: routes)) {r' : RouteFile} (hr' : r' ∈ routes) :
    s.IsApart r r' := by
  obtain ⟨dirs, stem, hlies⟩ := h.liesAt r (List.mem_cons_self ..)
  obtain ⟨dirs', stem', hlies'⟩ := h.liesAt r' (List.mem_cons_of_mem r hr')
  have hlt : s.place r.source < s.place r'.source := (List.pairwise_cons.mp h.sorted).1 r' hr'
  have hne : s.place r.source ≠ s.place r'.source := by
    intro heq
    rw [heq] at hlt
    exact List.lt_irrefl _ hlt
  exact {
    source := hne
    source_target := fun heq => List.lt_asymm hlt (hlies.source_lt_of_target hlies' heq.symm)
    source_backup := (hlies'.place_backup_ne_source hlies).symm
    target_backup := (hlies'.place_backup_ne_target hlies).symm
    backup_source := hlies.place_backup_ne_source hlies'
    backup_target := hlies.place_backup_ne_target hlies'
    backup := fun heq => hne (hlies.place_source_eq_of_backup hlies' heq) }

end Site

/-! ### Discovery -/

namespace Workspace

variable {w : Workspace} {dir : String} {l : Location} {routes : List RouteFile}

/-- The directories below the one at a location have no backslash in their names. -/
def IsPlainBelow (w : Workspace) (l : Location) : Prop :=
  ∀ x ∈ w.tree.below l, x.2 = .directory → ∀ n ∈ x.1, '\\' ∉ n.toList

/-- The location of a file that no private directory holds. -/
def publicName? : Location × Entry → Option Location
  | (names, .file _) => if names.dropLast.any isPrivateName then none else some names
  | (_, .directory) => none

theorem publicFiles_eq (hdir : w.tree.find? l = some .directory) :
    w.publicFiles l = (w.tree.below l).filterMap publicName? := by
  unfold publicFiles
  rw [hdir]
  refine List.filterMap_congr fun x _ => ?_
  obtain ⟨names, e⟩ := x
  cases e <;> rfl

theorem eq_of_publicName? {x : Location × Entry} {names : Location}
    (h : publicName? x = some names) : ∃ content, x = (names, .file content) := by
  obtain ⟨names', e⟩ := x
  cases e with
  | directory => cases h
  | file content =>
    rw [publicName?] at h
    split at h
    · cases h
    · cases h
      exact ⟨content, rfl⟩

theorem mem_publicFiles (hdir : w.tree.find? l = some .directory) {names : Location}
    (h : names ∈ w.publicFiles l) : ∃ content, (names, .file content) ∈ w.tree.below l := by
  rw [publicFiles_eq hdir] at h
  obtain ⟨x, hmem, hx⟩ := List.mem_filterMap.mp h
  obtain ⟨content, rfl⟩ := eq_of_publicName? hx
  exact ⟨content, hmem⟩

/-- **Files that no private directory holds.**  Only the directories between are asked, not the one
at the location and not the file. -/
theorem mem_publicFiles_iff (hsound : w.tree.IsSound) (hdir : w.tree.find? l = some .directory)
    {names : Location} : names ∈ w.publicFiles l ↔ names ≠ [] ∧
      (∀ d ∈ names.dropLast, isPrivateName d = false) ∧
      ∃ content, w.tree.find? (l ++ names) = some (.file content) := by
  rw [publicFiles_eq hdir, List.mem_filterMap]
  constructor
  · rintro ⟨x, hmem, hx⟩
    obtain ⟨content, rfl⟩ := eq_of_publicName? hx
    obtain ⟨hne, hentry⟩ := FileTree.mem_below.mp hmem
    refine ⟨hne, ?_, content, (hsound.mem_entries (by simp [hne])).mp hentry⟩
    simpa [publicName?] using hx
  · rintro ⟨hne, hpublic, content, hfile⟩
    refine ⟨(names, .file content), FileTree.mem_below.mpr
      ⟨hne, (hsound.mem_entries (by simp [hne])).mpr hfile⟩, ?_⟩
    simpa [publicName?] using hpublic

theorem pairwise_publicFiles (hsound : w.tree.IsSound) (hdir : w.tree.find? l = some .directory) :
    (w.publicFiles l).Pairwise fun names names' => l ++ names < l ++ names' := by
  rw [publicFiles_eq hdir]
  refine (hsound.pairwise_below l).filterMap _ fun x y hxy names hx names' hy => ?_
  obtain ⟨content, rfl⟩ := eq_of_publicName? hx
  obtain ⟨content', rfl⟩ := eq_of_publicName? hy
  exact hxy

theorem routeFiles_eq_ok (h : w.routeFiles dir = .ok routes) :
    ∃ l, w.locate dir = .ok l ∧ routes = (w.publicFiles l).filterMap fun names =>
      RouteFile.analyze? (Path.below dir names) dir := by
  simp only [routeFiles, bind_eq_ok_iff, mapError_eq_ok_iff, check_eq_ok_iff,
    return_eq_ok_iff] at h
  obtain ⟨l, hlocate, -, rfl⟩ := h
  exact ⟨l, hlocate, rfl⟩

/-- A directory can be walked. -/
theorem routeFiles_of_directory (hlocate : w.locate dir = .ok l)
    (hdir : w.tree.find? l = some .directory) :
    w.routeFiles dir = .ok ((w.publicFiles l).filterMap fun names =>
      RouteFile.analyze? (Path.below dir names) dir) := by
  rw [routeFiles, hlocate]
  simp only [Except.mapError, bind, Except.bind, hdir]
  rfl

/-- A file below the directory, with the names on the way to it. -/
theorem isName_of_mem_publicFiles (hsound : w.tree.IsSound)
    (hdir : w.tree.find? l = some .directory) {names : Location} (h : names ∈ w.publicFiles l) :
    ∃ dirs n content, names = dirs ++ [n] ∧ (∀ m ∈ dirs ++ [n], IsName m) ∧
      w.tree.find? (l ++ names) = some (.file content) := by
  obtain ⟨content, hmem⟩ := mem_publicFiles hdir h
  obtain ⟨hne, hentry⟩ := FileTree.mem_below.mp hmem
  obtain ⟨dirs, n, rfl⟩ : ∃ dirs n, names = dirs ++ [n] :=
    ⟨_, _, (List.dropLast_append_getLast hne).symm⟩
  exact ⟨dirs, n, content, rfl,
    fun m hm => hsound.isName _ hentry m (List.mem_append_right _ hm),
    (hsound.mem_entries (by simp)).mp hentry⟩

/-- A file below the directory, with its directories and its name. -/
theorem names_of_mem_publicFiles (hsound : w.tree.IsSound) (hplain : w.IsPlainBelow l)
    (hdir : w.tree.find? l = some .directory) {names : Location} (h : names ∈ w.publicFiles l) :
    ∃ dirs n content, names = dirs ++ [n] ∧ (∀ d ∈ dirs, IsName d ∧ '\\' ∉ d.toList) ∧ IsName n ∧
      w.tree.find? (l ++ names) = some (.file content) := by
  obtain ⟨dirs, n, content, rfl, hname, hfind⟩ := isName_of_mem_publicFiles hsound hdir h
  refine ⟨dirs, n, content, rfl, fun d hd => ⟨hname d (by simp [hd]), ?_⟩, hname n (by simp), hfind⟩
  -- what the file lies in are directories, and their names are plain
  have hdirs : dirs ≠ [] := List.ne_nil_of_mem hd
  have hparent : w.tree.find? (l ++ dirs) = some .directory := by
    refine hsound.isConnected (l ++ dirs) n ?_
    rw [List.append_assoc, hfind]
    simp
  refine hplain (dirs, .directory) (FileTree.mem_below.mpr ⟨hdirs, ?_⟩) rfl d hd
  exact (hsound.mem_entries (by simp [hdirs])).mpr hparent

/-- **Discovery is a walk.**  The route files lie at their places below the directory, each is a
file there, and they come in order. -/
theorem routeFiles_spec (hsound : w.tree.IsSound) (hdir : w.isDirectory dir = true)
    (hplain : ∀ l, w.locate dir = .ok l → w.IsPlainBelow l) (h : w.routeFiles dir = .ok routes) :
    ∃ s : Site, s.path = dir ∧ s.IsIn w ∧ s.IsWalk routes ∧
      ∀ r ∈ routes, ∃ content, w.tree.find? (s.place r.source) = some (.file content) := by
  obtain ⟨l, hlocate, rfl⟩ := routeFiles_eq_ok h
  have htop : w.tree.find? l = some .directory := by
    simpa [isDirectory, find?, hlocate] using hdir
  have hread : ∀ names ∈ w.publicFiles l, ∀ r,
      RouteFile.analyze? (Path.below dir names) dir = some r →
      (∃ dirs stem, r.LiesAt dir dirs stem) ∧ (⟨dir, l⟩ : Site).place r.source = l ++ names ∧
        ∃ content, w.tree.find? (l ++ names) = some (.file content) := by
    intro names hnames r hr
    obtain ⟨dirs, n, content, rfl, hdirs, hn, hfind⟩ :=
      names_of_mem_publicFiles hsound (hplain l hlocate) htop hnames
    obtain ⟨stem, rfl, hlies⟩ := RouteFile.analyze?_spec hdirs hn hr
    exact ⟨⟨dirs, stem, hlies⟩, RouteFile.LiesAt.place_source (s := ⟨dir, l⟩) hlies, content, hfind⟩
  refine ⟨⟨dir, l⟩, rfl, ⟨hsound.isConnected, hlocate, htop⟩, ⟨?_, ?_⟩, ?_⟩
  · intro r hr
    obtain ⟨names, hnames, hr⟩ := List.mem_filterMap.mp hr
    exact (hread names hnames r hr).1
  · refine List.pairwise_filterMap.mpr ((pairwise_publicFiles hsound htop).imp_of_mem ?_)
    intro names names' hnames hnames' hlt r hr r' hr'
    rw [(hread names hnames r hr).2.1, (hread names' hnames' r' hr').2.1]
    exact hlt
  · intro r hr
    obtain ⟨names, hnames, hr⟩ := List.mem_filterMap.mp hr
    obtain ⟨-, hplace, content, hfind⟩ := hread names hnames r hr
    exact ⟨content, by rw [hplace, hfind]⟩

end Workspace

end RouteMigration
