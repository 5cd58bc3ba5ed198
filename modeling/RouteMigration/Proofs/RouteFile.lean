import RouteMigration.Proofs.Path
import RouteMigration.Proofs.Workspace
import RouteMigration.Route.File

/-!
# Where the files of a route lie

A route file, the module it is migrated to and its backup are three paths below the app directory.
Their names there tell which of them can meet.

## Main Definitions

* `targetNames` — the names of the migrated module below the app directory
* `RouteFile.LiesAt` — the directories of a route file, and with them the names of its three files

## Main Statements

* `RouteFile.analyze?_spec` — every route file that is read lies somewhere
* `RouteFile.LiesAt.place_backup_ne_source`, `RouteFile.LiesAt.place_backup_ne_target` — a backup
  is no route file and no migrated module
* `RouteFile.LiesAt.source_lt_of_target` — a route whose module would be written over a route file
  stands before that file in a walk
-/

namespace RouteMigration

open RouteMigration.Path (IsName)

/-! ### Names with an extension -/

theorem not_dot_of_routeExtension : ∀ ext ∈ routeExtensions, '.' ∉ ext.toList := by decide

theorem not_slash_of_routeExtension : ∀ ext ∈ routeExtensions, '/' ∉ ext.toList := by decide

theorem two_le_length_of_routeExtension : ∀ ext ∈ routeExtensions, 2 ≤ ext.length := by decide

theorem getLast?_of_routeExtension : ∀ ext ∈ routeExtensions,
    ext.toList.getLast? = some 'x' ∨ ext.toList.getLast? = some 's' := by decide

/-- The stems that a route file may have. -/
def routeStems : List String := ["page", "layout", "loading", "error", "not-found", "route"]

theorem mem_routeStems {stem : String} {kind : RouteKind}
    (h : RouteKind.ofStem? stem = some kind) : stem ∈ routeStems := by
  by_contra hnot
  simp only [routeStems, List.mem_cons, List.not_mem_nil, or_false, not_or] at hnot
  simp [RouteKind.ofStem?, hnot] at h

/-- The stems are those that stand for a kind. -/
theorem ofStem?_isSome_iff {stem : String} :
    (RouteKind.ofStem? stem).isSome = true ↔ stem ∈ routeStems := by
  constructor
  · intro h
    obtain ⟨kind, hkind⟩ := Option.isSome_iff_exists.mp h
    exact mem_routeStems hkind
  · have hall : ∀ stem ∈ routeStems, (RouteKind.ofStem? stem).isSome = true := by decide
    exact hall stem

theorem plain_of_routeStem : ∀ stem ∈ routeStems,
    '.' ∉ stem.toList ∧ '/' ∉ stem.toList ∧ '$' ∉ stem.toList := by decide

/-- A name is cut at its last dot in one way. -/
theorem eq_of_dotted {front front' ext ext' : String} (hext : '.' ∉ ext.toList)
    (hext' : '.' ∉ ext'.toList) (h : front ++ "." ++ ext = front' ++ "." ++ ext') :
    front = front' ∧ ext = ext' := by
  have hcut : Text.splitLast? '.' (front ++ "." ++ ext) = some (front, ext) :=
    Text.splitLast?_eq_some_iff.mpr ⟨by simp, hext⟩
  have hcut' : Text.splitLast? '.' (front' ++ "." ++ ext') = some (front', ext') :=
    Text.splitLast?_eq_some_iff.mpr ⟨by simp, hext'⟩
  rw [h, hcut'] at hcut
  cases hcut
  exact ⟨rfl, rfl⟩

/-- A text of three characters or more is a name unless it has a separator. -/
theorem isName_of_length {n : String} (hlength : 3 ≤ n.length) (hslash : '/' ∉ n.toList) :
    IsName n := by
  have hlong : ∀ s : String, s.length < 3 → n ≠ s := by
    rintro s hs rfl
    omega
  exact ⟨hlong _ (by decide), hlong _ (by decide), hlong _ (by decide), hslash⟩

theorem isName_dotted {front ext : String} (hfront : '/' ∉ front.toList)
    (hext : ext ∈ routeExtensions) : IsName (front ++ "." ++ ext) := by
  refine isName_of_length ?_ (by simpa using ⟨hfront, not_slash_of_routeExtension ext hext⟩)
  have hlength := two_le_length_of_routeExtension ext hext
  rw [String.length_append, String.length_append, show ".".length = 1 from rfl]
  omega

theorem isName_backup {n : String} (h : IsName n) : IsName (n ++ ".backup") := by
  refine isName_of_length ?_ (by simpa using h.not_slash)
  rw [String.length_append, show ".backup".length = 7 from rfl]
  omega

/-- What ends in an extension is no backup. -/
theorem dotted_ne_backup (front name : String) {ext : String} (hext : ext ∈ routeExtensions) :
    front ++ "." ++ ext ≠ name ++ ".backup" := by
  intro h
  have hlast := congrArg (fun s : String => s.toList.getLast?) h
  simp only [String.toList_append, List.getLast?_append] at hlast
  have hbackup : ".backup".toList.getLast? = some 'p' := by decide
  rw [hbackup, Option.some_or] at hlast
  rcases getLast?_of_routeExtension ext hext with hext | hext
  · rw [hext, Option.some_or] at hlast
    exact absurd hlast (by decide)
  · rw [hext, Option.some_or] at hlast
    exact absurd hlast (by decide)

/-! ### Targets -/

/-- The names below the app directory of the module that a route file is migrated to. -/
def targetNames (dirs : List String) (kind : RouteKind) (ext : String) : List String :=
  match kind, dirs.map Segment.convert with
  | .page, [] => ["index" ++ "." ++ ext]
  | .page, steps => [Text.joinWith "." steps ++ "." ++ ext]
  | .layout, [] => ["__root" ++ "." ++ ext]
  | kind, steps => steps ++ ["_" ++ kind.label ++ "." ++ ext]

theorem convertedSegments_joinWith {dirs : List String}
    (hdirs : ∀ n ∈ dirs, IsName n ∧ '\\' ∉ n.toList) :
    convertedSegments (Text.joinWith "/" dirs) = dirs.map Segment.convert := by
  rw [convertedSegments, segments_joinWith hdirs]

theorem targetPath_eq {dirs : List String} (hdirs : ∀ n ∈ dirs, IsName n ∧ '\\' ∉ n.toList)
    (app : String) (kind : RouteKind) (ext : String) :
    targetPath app (Text.joinWith "/" dirs) kind ext =
      Path.below app (targetNames dirs kind ext) := by
  have hbelow : ∀ (steps : List String) (n : String),
      Path.join (steps.foldl Path.join app) n = Path.below app (steps ++ [n]) :=
    fun steps n => (Path.below_concat app steps n).symm
  unfold targetPath targetNames
  rw [convertedSegments_joinWith hdirs, ← show "index" ++ "." = "index." from rfl,
    ← show "__root" ++ "." = "__root." from rfl]
  generalize dirs.map Segment.convert = steps
  cases kind with
  | page => cases steps <;> rfl
  | layout =>
    cases steps with
    | nil => rfl
    | cons step steps => exact hbelow _ _
  | loading | error | notFound | api => exact hbelow _ _

/-- A target is the one of a page, with the steps of its route in its name, or it has a name that
no route file has. -/
theorem targetNames_cases (dirs : List String) (kind : RouteKind) (ext : String) :
    (kind = .page ∧ dirs ≠ [] ∧ targetNames dirs kind ext =
      [Text.joinWith "." (dirs.map Segment.convert) ++ "." ++ ext]) ∨
    ∃ steps front, targetNames dirs kind ext = steps ++ [front ++ "." ++ ext] ∧
      (∀ n ∈ steps, n ∈ dirs.map Segment.convert) ∧ '/' ∉ front.toList ∧
      RouteKind.ofStem? front = none := by
  have hlabel : ∀ kind : RouteKind, '/' ∉ ("_" ++ kind.label).toList ∧
      RouteKind.ofStem? ("_" ++ kind.label) = none := by
    intro kind
    cases kind <;> decide
  cases kind with
  | page =>
    cases dirs with
    | nil => exact Or.inr ⟨[], "index", rfl, by simp, by decide, by decide⟩
    | cons dir dirs => exact Or.inl ⟨rfl, by simp, rfl⟩
  | layout =>
    cases dirs with
    | nil => exact Or.inr ⟨[], "__root", rfl, by simp, by decide, by decide⟩
    | cons dir dirs => exact Or.inr ⟨_, _, rfl, fun _ hn => hn, hlabel _⟩
  | loading | error | notFound | api => exact Or.inr ⟨_, _, rfl, fun _ hn => hn, hlabel _⟩

theorem not_slash_joinWith_dot {steps : List String} (h : ∀ n ∈ steps, '/' ∉ n.toList) :
    '/' ∉ (Text.joinWith "." steps).toList := by
  rw [Text.mem_joinWith]
  rintro (⟨hdot, -⟩ | ⟨n, hn, hslash⟩)
  · exact absurd hdot (by decide)
  · exact h n hn hslash

/-- Steps that are joined without a dot are one step. -/
theorem eq_singleton_of_joinWith_dot {steps : List String} (hne : steps ≠ [])
    (hdot : '.' ∉ (Text.joinWith "." steps).toList) : steps = [Text.joinWith "." steps] := by
  match steps with
  | [] => exact absurd rfl hne
  | [step] => rfl
  | step :: next :: steps =>
    rw [Text.joinWith] at hdot
    · simp at hdot
    · simp

/-- The names of a target are names, the last of them with an extension. -/
theorem targetNames_spec {dirs : List String} (hdirs : ∀ n ∈ dirs, IsName n) (kind : RouteKind)
    {ext : String} (hext : ext ∈ routeExtensions) :
    ∃ steps front, targetNames dirs kind ext = steps ++ [front ++ "." ++ ext] ∧
      ∀ n ∈ steps ++ [front ++ "." ++ ext], IsName n := by
  have hsteps : ∀ n ∈ dirs.map Segment.convert, IsName n := by
    intro n hn
    obtain ⟨dir, hdir, rfl⟩ := List.mem_map.mp hn
    exact Segment.isName_convert (hdirs dir hdir)
  rcases targetNames_cases dirs kind ext with ⟨-, -, h⟩ | ⟨steps, front, h, hmem, hfront, -⟩
  · refine ⟨[], _, h, fun n hn => ?_⟩
    obtain rfl := List.mem_singleton.mp hn
    exact isName_dotted (not_slash_joinWith_dot fun n hn => (hsteps n hn).not_slash) hext
  · refine ⟨steps, front, h, List.forall_mem_append.mpr ⟨fun n hn => hsteps n (hmem n hn), ?_⟩⟩
    exact List.forall_mem_singleton.mpr (isName_dotted hfront hext)

/-! ### Route files -/

namespace RouteFile

variable {s : Site} {r r' : RouteFile} {dirs dirs' : List String} {stem stem' : String}

/-- The route file lies in the directories `dirs` below `app`, under a name with the given stem. -/
structure LiesAt (r : RouteFile) (app : String) (dirs : List String) (stem : String) : Prop where
  kind : RouteKind.ofStem? stem = some r.kind
  ext : r.ext ∈ routeExtensions
  isName : ∀ n ∈ dirs, IsName n
  source : r.source = Path.below app (dirs ++ [stem ++ "." ++ r.ext])
  target : r.target = Path.below app (targetNames dirs r.kind r.ext)

/-- What is read of a path: its last name has a stem and an extension of route files, and the names
before it make the directory, which tells where the module goes. -/
theorem analyze?_eq_some {path app : String} (h : analyze? path app = some r) :
    r.source = path ∧ r.ext ∈ routeExtensions ∧
      (∃ stem, Path.fileName? path = some (stem ++ "." ++ r.ext) ∧
        RouteKind.ofStem? stem = some r.kind) ∧
      ∃ steps, Path.relativeTo? app path = some steps ∧
        r.dir = Text.joinWith "/" (steps.dropLast.map (·.text)) ∧
        r.target = targetPath app r.dir r.kind r.ext := by
  unfold analyze? at h
  obtain ⟨name, hfile, h⟩ := Option.bind_eq_some_iff.mp h
  obtain ⟨⟨stem, ext⟩, hcut, h⟩ := Option.bind_eq_some_iff.mp h
  obtain ⟨_, hext, h⟩ := Option.bind_eq_some_iff.mp h
  obtain ⟨kind, hkind, h⟩ := Option.bind_eq_some_iff.mp h
  obtain ⟨steps, hsteps, h⟩ := Option.bind_eq_some_iff.mp h
  obtain rfl := Option.some.inj h
  have hsplit : name = stem ++ "." ++ ext := by
    rw [← String.toList_inj, (Text.splitLast?_eq_some_iff.mp hcut).1]
    simp
  refine ⟨rfl, ?_, ⟨stem, by rw [hfile, hsplit], hkind⟩, steps, hsteps, rfl, rfl⟩
  by_contra hnot
  rw [guard, if_neg (by simpa using hnot)] at hext
  cases hext

/-- **Where a route file lies.**  What is read of a path below the app directory are the
directories and the name that it was made of. -/
theorem analyze?_spec {app name : String} (hdirs : ∀ n ∈ dirs, IsName n ∧ '\\' ∉ n.toList)
    (hname : IsName name) (h : analyze? (Path.below app (dirs ++ [name])) app = some r) :
    ∃ stem, name = stem ++ "." ++ r.ext ∧ r.LiesAt app dirs stem := by
  have hnames : ∀ n ∈ dirs ++ [name], IsName n :=
    List.forall_mem_append.mpr ⟨fun n hn => (hdirs n hn).1, List.forall_mem_singleton.mpr hname⟩
  obtain ⟨hsource, hext, ⟨stem, hfile, hkind⟩, steps, hsteps, hdir, htarget⟩ :=
    analyze?_eq_some h
  rw [Path.fileName?_below hname] at hfile
  rw [Path.relativeTo?_below hnames] at hsteps
  obtain rfl := Option.some.inj hfile
  obtain rfl := Option.some.inj hsteps
  have htext : ((dirs ++ [stem ++ "." ++ r.ext]).map PathComponent.name).dropLast.map (·.text) =
      dirs := by
    rw [List.map_append, List.map_singleton, List.dropLast_concat, List.map_map]
    exact List.map_id dirs
  refine ⟨stem, rfl, hkind, hext, fun n hn => (hdirs n hn).1, hsource, ?_⟩
  rw [htarget, hdir, htext]
  exact targetPath_eq hdirs app r.kind r.ext

/-- **Which files are route files.**  The name of a file below the app directory decides, whatever
the names of its directories. -/
theorem isSome_analyze?_below_iff {app name : String} (hnames : ∀ n ∈ dirs ++ [name], IsName n) :
    (analyze? (Path.below app (dirs ++ [name])) app).isSome = true ↔
      ∃ stem ∈ routeStems, ∃ ext ∈ routeExtensions, name = stem ++ "." ++ ext := by
  have hname := hnames name (by simp)
  constructor
  · intro h
    obtain ⟨r, hr⟩ := Option.isSome_iff_exists.mp h
    obtain ⟨-, hext, ⟨stem, hfile, hkind⟩, -⟩ := analyze?_eq_some hr
    rw [Path.fileName?_below hname] at hfile
    exact ⟨stem, mem_routeStems hkind, r.ext, hext, Option.some.inj hfile⟩
  · rintro ⟨stem, hstem, ext, hext, rfl⟩
    obtain ⟨kind, hkind⟩ := Option.isSome_iff_exists.mp (ofStem?_isSome_iff.mpr hstem)
    have hcut : Text.splitLast? '.' (stem ++ "." ++ ext) = some (stem, ext) :=
      Text.splitLast?_eq_some_iff.mpr ⟨by simp, not_dot_of_routeExtension ext hext⟩
    have hcontains : routeExtensions.contains ext = true := by simpa using hext
    unfold analyze?
    rw [Path.fileName?_below hname, Path.relativeTo?_below hnames]
    simp only [hcut, hkind, hcontains, guard, if_true, Option.bind_eq_bind, Option.bind_some]
    rfl

namespace LiesAt

/-- The name of a route file is a name. -/
theorem isName_source (h : r.LiesAt s.path dirs stem) :
    ∀ n ∈ dirs ++ [stem ++ "." ++ r.ext], IsName n := by
  refine List.forall_mem_append.mpr ⟨h.isName, List.forall_mem_singleton.mpr ?_⟩
  exact isName_dotted (plain_of_routeStem stem (mem_routeStems h.kind)).2.1 h.ext

theorem place_source (h : r.LiesAt s.path dirs stem) :
    s.place r.source = s.top ++ (dirs ++ [stem ++ "." ++ r.ext]) := by
  rw [h.source, Site.place_below h.isName_source]

theorem holds_source (h : r.LiesAt s.path dirs stem) : s.Holds r.source :=
  ⟨_, _, h.isName_source, h.source⟩

theorem place_target (h : r.LiesAt s.path dirs stem) :
    s.place r.target = s.top ++ targetNames dirs r.kind r.ext := by
  obtain ⟨steps, front, hnames, hvalid⟩ := targetNames_spec h.isName r.kind h.ext
  rw [h.target, hnames, Site.place_below hvalid]

theorem holds_target (h : r.LiesAt s.path dirs stem) : s.Holds r.target := by
  obtain ⟨steps, front, hnames, hvalid⟩ := targetNames_spec h.isName r.kind h.ext
  exact ⟨_, _, hvalid, by rw [h.target, hnames]⟩

theorem backup_eq (h : r.LiesAt s.path dirs stem) :
    r.backup = Path.below s.path (dirs ++ [stem ++ "." ++ r.ext ++ ".backup"]) := by
  have hname := h.isName_source _ (List.mem_append_right _ (List.mem_singleton_self _))
  rw [backup, h.source, Path.below_append_text hname (isName_backup hname)]

theorem isName_backup_names (h : r.LiesAt s.path dirs stem) :
    ∀ n ∈ dirs ++ [stem ++ "." ++ r.ext ++ ".backup"], IsName n := by
  refine List.forall_mem_append.mpr ⟨h.isName, List.forall_mem_singleton.mpr ?_⟩
  exact isName_backup (h.isName_source _ (List.mem_append_right _ (List.mem_singleton_self _)))

theorem place_backup (h : r.LiesAt s.path dirs stem) :
    s.place r.backup = s.top ++ (dirs ++ [stem ++ "." ++ r.ext ++ ".backup"]) := by
  rw [h.backup_eq, Site.place_below h.isName_backup_names]

/-- A backup lies beside its route file. -/
theorem dropLast_place_backup (h : r.LiesAt s.path dirs stem) :
    (s.place r.backup).dropLast = (s.place r.source).dropLast := by
  rw [h.place_backup, h.place_source, ← List.append_assoc, ← List.append_assoc,
    List.dropLast_concat, List.dropLast_concat]

theorem holds_backup (h : r.LiesAt s.path dirs stem) : s.Holds r.backup :=
  ⟨_, _, h.isName_backup_names, h.backup_eq⟩

/-! ### Which files can meet -/

/-- A backup has no name with an extension. -/
theorem place_backup_ne_dotted (h : r.LiesAt s.path dirs stem) (steps : List String)
    (front : String) {ext : String} (hext : ext ∈ routeExtensions) :
    s.place r.backup ≠ s.top ++ (steps ++ [front ++ "." ++ ext]) := by
  rw [h.place_backup]
  intro heq
  obtain ⟨-, hlast⟩ := List.append_inj' (List.append_cancel_left heq) rfl
  exact dotted_ne_backup _ _ hext (List.cons.inj hlast).1.symm

/-- A backup is no route file. -/
theorem place_backup_ne_source (h : r.LiesAt s.path dirs stem)
    (h' : r'.LiesAt s.path dirs' stem') : s.place r.backup ≠ s.place r'.source := by
  rw [h'.place_source]
  exact h.place_backup_ne_dotted dirs' stem' h'.ext

/-- A backup is no migrated module. -/
theorem place_backup_ne_target (h : r.LiesAt s.path dirs stem)
    (h' : r'.LiesAt s.path dirs' stem') : s.place r.backup ≠ s.place r'.target := by
  obtain ⟨steps, front, hnames, -⟩ := targetNames_spec h'.isName r'.kind h'.ext
  rw [h'.place_target, hnames]
  exact h.place_backup_ne_dotted steps front h'.ext

/-- Two route files have one backup only if they are one. -/
theorem place_source_eq_of_backup (h : r.LiesAt s.path dirs stem)
    (h' : r'.LiesAt s.path dirs' stem') (heq : s.place r.backup = s.place r'.backup) :
    s.place r.source = s.place r'.source := by
  rw [h.place_backup, h'.place_backup] at heq
  obtain ⟨hdirs, hlast⟩ := List.append_inj' (List.append_cancel_left heq) rfl
  have hname : stem ++ "." ++ r.ext = stem' ++ "." ++ r'.ext := by
    have hlist := congrArg String.toList (List.cons.inj hlast).1
    rw [String.toList_append (s := stem ++ "." ++ r.ext),
      String.toList_append (s := stem' ++ "." ++ r'.ext)] at hlist
    exact String.toList_inj.mp (List.append_cancel_right hlist)
  rw [h.place_source, h'.place_source, hdirs, hname]

/-- **Targets over route files.**  Only a page in a directory called like a route file can be
migrated to where a route file is, and it stands before that file in a walk. -/
theorem source_lt_of_target (h : r.LiesAt s.path dirs stem) (h' : r'.LiesAt s.path dirs' stem')
    (heq : s.place r'.target = s.place r.source) : s.place r'.source < s.place r.source := by
  rw [h'.place_target, h.place_source] at heq
  have heq := List.append_cancel_left heq
  have hplain := plain_of_routeStem stem (mem_routeStems h.kind)
  rcases targetNames_cases dirs' r'.kind r'.ext with
    ⟨-, hne, hnames⟩ | ⟨steps, front, hnames, -, -, hfront⟩
  · rw [hnames, ← List.nil_append [_]] at heq
    obtain ⟨hdirs, hlast⟩ := List.append_inj' heq rfl
    obtain ⟨hjoin, hext⟩ := eq_of_dotted (not_dot_of_routeExtension _ h'.ext)
      (not_dot_of_routeExtension _ h.ext) (List.cons.inj hlast).1
    have hsteps : dirs'.map Segment.convert = [stem] := by
      rw [← hjoin]
      refine eq_singleton_of_joinWith_dot (by simpa using hne) ?_
      rw [hjoin]
      exact hplain.1
    obtain ⟨dir, rfl, hdir⟩ := List.map_eq_singleton_iff.mp hsteps
    -- a converted name begins with a dollar sign, so the directory has the name of the stem
    have hsame : dir = stem := by
      rcases Segment.convert_cases dir with hsame | ⟨name, hname, -⟩
      · rw [← hsame, hdir]
      · refine absurd ?_ hplain.2.2
        rw [← hdir, hname]
        simp
    rw [h'.place_source, h.place_source, ← hdirs, hsame]
    refine List.append_left_lt (List.cons_lt_cons_iff.mpr (Or.inl ?_))
    have hlist : (stem ++ "." ++ r.ext).toList = stem.toList ++ '.' :: r.ext.toList := by simp
    rw [String.lt_iff, hlist]
    calc stem.toList = stem.toList ++ [] := (List.append_nil _).symm
      _ < stem.toList ++ '.' :: r.ext.toList := List.append_left_lt (List.nil_lt_cons _ _)
  · -- every other target has a stem that no route file has
    rw [hnames] at heq
    obtain ⟨-, hlast⟩ := List.append_inj' heq rfl
    obtain ⟨rfl, -⟩ := eq_of_dotted (not_dot_of_routeExtension _ h'.ext)
      (not_dot_of_routeExtension _ h.ext) (List.cons.inj hlast).1
    rw [h.kind] at hfront
    cases hfront

end LiesAt

end RouteFile

end RouteMigration
