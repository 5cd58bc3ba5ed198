import RouteMigration.Project.Workspace
import RouteMigration.Proofs.FileTree
import RouteMigration.Proofs.Path

/-!
# Laws of workspaces

Paths are texts and locations are lists of names.  Below a directory that is there, a path stands
for the location with the same names, and what is done to the path is done to that location.

## Main Definitions

* `Site` — a directory as a path and as a location
* `Site.Holds` — a path lies below the directory
* `Site.place` — the location of such a path
* `Site.IsIn` — a workspace has the directory there

## Main Statements

* `Site.find?_eq` — what a path below the directory leads to
* `Site.replace_spec`, `Site.rename_spec`, `Site.remove_spec` — what a change of a path changes

## Design Notes

The directory itself may be written with `.` and `..`.  Its location stays the same as long as no
directory is lost, which is all that the laws here need of the tree.
-/

namespace RouteMigration

/-! ### Results -/

section Results

variable {ε ε' α β : Type}

/-- Two steps succeed when the first one does and the second one does with its result. -/
theorem bind_eq_ok_iff {x : Except ε α} {f : α → Except ε β} {b : β} :
    x >>= f = .ok b ↔ ∃ a, x = .ok a ∧ f a = .ok b := by
  cases x <;> simp [bind, Except.bind]

/-- A refusal is no success. -/
@[simp] theorem throw_ne_ok (e : ε) (a : α) : (throw e : Except ε α) ≠ .ok a := by
  intro h
  cases h

@[simp] theorem return_eq_ok_iff {a b : α} : (pure a : Except ε α) = .ok b ↔ a = b :=
  Except.ok.injEq a b ▸ Iff.rfl

/-- A success is a success however errors are told. -/
@[simp] theorem mapError_eq_ok_iff {x : Except ε α} {f : ε → ε'} {a : α} :
    x.mapError f = .ok a ↔ x = .ok a := by
  cases x <;> simp [Except.mapError]

/-- A result that passes a test is a success. -/
theorem exists_eq_ok_of_any {x : Except ε α} {test : α → Bool}
    (h : x.toOption.any test = true) : ∃ a, x = .ok a ∧ test a = true := by
  cases x with
  | error e => cases h
  | ok a => exact ⟨a, rfl, h⟩

/-- What follows a check succeeds when the check does not refuse. -/
theorem check_eq_ok_iff {p : Prop} [Decidable p] {e : ε} {k : α → Except ε β} {x : Except ε β}
    {b : β} : (if p then throw e >>= k else x) = .ok b ↔ ¬p ∧ x = .ok b := by
  by_cases hp : p
  · rw [if_pos hp, bind_eq_ok_iff]
    simp [hp]
  · rw [if_neg hp]
    simp [hp]

end Results

namespace FileTree

variable {t t' : FileTree} {l here : Location} {start : Location} {path : String}

/-! ### Steps of a path -/

theorem step_name_eq_ok_iff {n : String} :
    t.step here (.name n) = .ok l ↔ t.find? here = some .directory ∧ l = here ++ [n] := by
  unfold step
  cases t.find? here with
  | none => simp
  | some e => cases e <;> simp [eq_comm]

theorem isDirectory_of_step {c : PathComponent} (h : t.step here c = .ok l) :
    t.find? here = some .directory := by
  unfold step at h
  split at h
  · cases h
  · cases h
  · assumption

/-- A step only looks for directories. -/
theorem step_mono (hdirs : ∀ l, t.find? l = some .directory → t'.find? l = some .directory)
    {c : PathComponent} (h : t.step here c = .ok l) : t'.step here c = .ok l := by
  have hhere := isDirectory_of_step h
  unfold step at h ⊢
  rw [hhere] at h
  rw [hdirs here hhere]
  exact h

theorem foldlM_step_mono (hdirs : ∀ l, t.find? l = some .directory → t'.find? l = some .directory)
    {steps : List PathComponent} (h : steps.foldlM t.step here = .ok l) :
    steps.foldlM t'.step here = .ok l := by
  induction steps generalizing here with
  | nil => exact h
  | cons c steps ih =>
    rw [List.foldlM_cons] at h ⊢
    cases hstep : t.step here c with
    | error fault =>
      rw [hstep] at h
      cases h
    | ok next =>
      rw [hstep] at h
      rw [step_mono hdirs hstep]
      exact ih h

/-- One more name is one more step, from a directory. -/
theorem foldlM_step_concat {steps : List PathComponent} {n : String} :
    (steps ++ [PathComponent.name n]).foldlM t.step start = .ok l ↔
      ∃ here, steps.foldlM t.step start = .ok here ∧ t.find? here = some .directory ∧
        l = here ++ [n] := by
  rw [List.foldlM_append, bind_eq_ok_iff]
  refine exists_congr fun here => and_congr_right fun _ => ?_
  rw [← step_name_eq_ok_iff, List.foldlM_cons, bind_eq_ok_iff]
  simp

/-- Names lead to where they say, as long as that is in a directory. -/
theorem foldlM_step_names (ht : t.IsConnected) {steps : List PathComponent}
    (hsteps : steps.foldlM t.step start = .ok here) {names : List String} {n : String} :
    (steps ++ (names ++ [n]).map PathComponent.name).foldlM t.step start = .ok l ↔
      t.find? (here ++ names) = some .directory ∧ l = here ++ (names ++ [n]) := by
  rw [List.map_append, List.map_singleton, ← List.append_assoc, foldlM_step_concat]
  induction names using List.reverseRecOn generalizing n l with
  | nil =>
    rw [List.map_nil, List.append_nil, List.append_nil, hsteps]
    constructor
    · rintro ⟨_, ⟨rfl⟩, hdir, rfl⟩
      exact ⟨hdir, rfl⟩
    · rintro ⟨hdir, rfl⟩
      exact ⟨here, rfl, hdir, rfl⟩
  | append_singleton names m ih =>
    rw [List.map_append, List.map_singleton, ← List.append_assoc]
    constructor
    · rintro ⟨next, hnext, hdir, rfl⟩
      rw [foldlM_step_concat, ih] at hnext
      obtain ⟨-, rfl⟩ := hnext
      exact ⟨hdir, by rw [List.append_assoc]⟩
    · rintro ⟨hdir, rfl⟩
      refine ⟨here ++ (names ++ [m]), ?_, hdir, by rw [List.append_assoc here]⟩
      rw [foldlM_step_concat, ih]
      refine ⟨ht (here ++ names) m ?_, rfl⟩
      rw [List.append_assoc, hdir]
      simp

theorem locate_eq_ok_iff :
    t.locate start path = .ok l ↔
      path ≠ "" ∧ (Path.components path).foldlM t.step start = .ok l ∧
        (namesDirectory path && t.isFile l) = false := by
  simp only [locate, check_eq_ok_iff, bind_eq_ok_iff]
  refine and_congr_right fun _ => ?_
  constructor
  · rintro ⟨l', hl', hfile, hreturn⟩
    obtain rfl := return_eq_ok_iff.mp hreturn
    exact ⟨hl', Bool.eq_false_iff.mpr hfile⟩
  · rintro ⟨hl, hfile⟩
    exact ⟨l, hl, Bool.eq_false_iff.mp hfile, rfl⟩

/-- **Locations last.**  A path to a directory keeps its location as long as no directory is
lost. -/
theorem locate_mono (hdirs : ∀ l, t.find? l = some .directory → t'.find? l = some .directory)
    (hl : t.find? l = some .directory) (h : t.locate start path = .ok l) :
    t'.locate start path = .ok l := by
  obtain ⟨hpath, hsteps, -⟩ := locate_eq_ok_iff.mp h
  refine locate_eq_ok_iff.mpr ⟨hpath, foldlM_step_mono hdirs hsteps, ?_⟩
  rw [isFile, hdirs l hl, Bool.and_false]

/-! ### Texts of paths -/

theorem toList_join_eq {dir n : String} (h : Path.IsName n) :
    ∃ front, (Path.join dir n).toList = front ++ n.toList := by
  rw [Path.join, h.startsWith_slash, if_neg Bool.false_ne_true]
  split
  · exact ⟨dir.toList, by simp⟩
  · exact ⟨(dir ++ "/").toList, by simp⟩

theorem join_ne_empty {dir n : String} (h : Path.IsName n) : Path.join dir n ≠ "" := by
  obtain ⟨front, hfront⟩ := @toList_join_eq dir n h
  intro hempty
  rw [hempty] at hfront
  exact h.ne_empty (String.toList_eq_nil_iff.mp (List.append_eq_nil_iff.mp hfront.symm).2)

/-- A path that ends in a name is not written as one of a directory. -/
theorem namesDirectory_join {dir n : String} (h : Path.IsName n) :
    namesDirectory (Path.join dir n) = false := by
  obtain ⟨front, hfront⟩ := @toList_join_eq dir n h
  have hn : n.toList <:+ (Path.join dir n).toList := ⟨front, hfront.symm⟩
  have hne : n.toList ≠ [] := fun hnil => h.ne_empty (String.toList_eq_nil_iff.mp hnil)
  have hlen : 0 < n.toList.length := List.length_pos_iff.mpr hne
  rw [namesDirectory, Bool.or_eq_false_iff, Bool.eq_false_iff, Bool.eq_false_iff]
  refine ⟨fun hslash => ?_, fun hdot => ?_⟩
  · have hsuffix : ['/'] <:+ n.toList :=
      List.suffix_of_suffix_length_le ((Text.endsWith_iff _ _).mp hslash) hn hlen
    exact h.not_slash (hsuffix.subset (by simp))
  · have hdot := (Text.endsWith_iff _ _).mp hdot
    by_cases hlong : 2 ≤ n.toList.length
    · have hsuffix : ['/', '.'] <:+ n.toList := List.suffix_of_suffix_length_le hdot hn hlong
      exact h.not_slash (hsuffix.subset (by simp))
    · -- a name of one character, which is then the dot
      have hone : n.toList.length = 1 := by omega
      have hsuffix : n.toList <:+ ['/', '.'] := by
        refine List.suffix_of_suffix_length_le hn hdot ?_
        rw [hone]
        decide
      obtain ⟨c, hc⟩ := List.length_eq_one_iff.mp hone
      rw [hc] at hsuffix
      obtain ⟨rest, hrest⟩ := hsuffix
      have hlast : c = '.' := by simpa using congrArg List.getLast? hrest
      exact h.ne_here (String.toList_inj.mp (by rw [hc, hlast]; rfl))

/-- A path below another one stands for the location with its names, as long as what it lies in is
there. -/
theorem locate_below_eq_ok_iff (ht : t.IsConnected) {dir : String}
    (hsteps : (Path.components dir).foldlM t.step start = .ok here)
    {names : List String} {n : String} (hnames : ∀ m ∈ names ++ [n], Path.IsName m) :
    t.locate start (Path.below dir (names ++ [n])) = .ok l ↔
      t.find? (here ++ names) = some .directory ∧ l = here ++ (names ++ [n]) := by
  rw [locate_eq_ok_iff, Path.components_below hnames, foldlM_step_names ht hsteps,
    Path.below_concat, namesDirectory_join (hnames n (by simp)), Bool.false_and]
  exact ⟨fun h => h.2.1, fun h => ⟨join_ne_empty (hnames n (by simp)), h, rfl⟩⟩

end FileTree

/-! ### Texts of files -/

/-- A text is read where a path leads to a file that holds it. -/
theorem Workspace.readText_eq_ok_iff {w : Workspace} {path text : String} :
    w.readText path = .ok text ↔ ∃ l content, w.locate path = .ok l ∧
      w.tree.find? l = some (.file content) ∧ String.fromUTF8? ⟨content⟩ = some text := by
  rw [readText, bind_eq_ok_iff]
  refine exists_congr fun l => ?_
  constructor
  · rintro ⟨hlocate, hread⟩
    split at hread
    · simp at hread
    · simp at hread
    · next content hfile =>
      refine ⟨content, hlocate, hfile, ?_⟩
      cases htext : String.fromUTF8? ⟨content⟩ with
      | none => simp [htext] at hread
      | some text' =>
        simp only [htext, return_eq_ok_iff] at hread
        rw [hread]
  · rintro ⟨content, hlocate, hfile, htext⟩
    refine ⟨hlocate, ?_⟩
    rw [hfile]
    simp [htext]

/-! ### Sites -/

/-- A directory: its path, and the location that the path stands for. -/
structure Site where
  path : String
  top : Location

namespace Site

open RouteMigration.Path (IsName)
open FileTree (IsConnected Extends)

variable {s : Site} {w w' : Workspace} {path : String} {l : Location}

/-- The path lies below the directory. -/
def Holds (s : Site) (path : String) : Prop :=
  ∃ names n, (∀ m ∈ names ++ [n], IsName m) ∧ path = Path.below s.path (names ++ [n])

/-- The location of a path below the directory. -/
def place (s : Site) (path : String) : Location := s.top ++ Path.namesBelow s.path path

/-- The workspace has the directory there, and all its entries lie in directories. -/
structure IsIn (s : Site) (w : Workspace) : Prop where
  connected : w.tree.IsConnected
  locate : w.locate s.path = .ok s.top
  isDirectory : w.tree.find? s.top = some .directory

theorem place_below {names : List String} (h : ∀ n ∈ names, IsName n) :
    s.place (Path.below s.path names) = s.top ++ names := by
  rw [place, Path.namesBelow_below h]

theorem Holds.place_ne_nil (hp : s.Holds path) : s.place path ≠ [] := by
  obtain ⟨names, n, hnames, rfl⟩ := hp
  rw [place_below hnames]
  simp

/-- The directory stays where it is as long as no directory is lost. -/
theorem IsIn.mono (hs : s.IsIn w) {t : FileTree} (ht : t.IsConnected)
    (hdirs : ∀ l, w.tree.find? l = some .directory → t.find? l = some .directory) :
    s.IsIn { w with tree := t } :=
  ⟨ht, FileTree.locate_mono hdirs hs.isDirectory hs.locate, hdirs _ hs.isDirectory⟩

/-- A path below the directory stands for the location with its names, as long as what it lies in
is there. -/
theorem locate_eq_ok_iff (hs : s.IsIn w) (hp : s.Holds path) :
    w.locate path = .ok l ↔
      w.tree.find? (s.place path).dropLast = some .directory ∧ l = s.place path := by
  obtain ⟨names, n, hnames, rfl⟩ := hp
  have hsteps := (FileTree.locate_eq_ok_iff.mp hs.locate).2.1
  have hplace : s.top ++ (names ++ [n]) = s.top ++ names ++ [n] := (List.append_assoc ..).symm
  rw [place_below hnames, hplace, List.dropLast_concat, ← hplace, Workspace.locate,
    FileTree.locate_below_eq_ok_iff hs.connected hsteps hnames]

theorem locate_of_directory (hs : s.IsIn w) (hp : s.Holds path)
    (hdir : w.tree.find? (s.place path).dropLast = some .directory) :
    w.locate path = .ok (s.place path) :=
  (locate_eq_ok_iff hs hp).mpr ⟨hdir, rfl⟩

/-- What an entry lies in is a directory. -/
theorem find?_dropLast_place (hs : s.IsIn w) (hp : s.Holds path)
    (h : w.tree.find? (s.place path) ≠ none) :
    w.tree.find? (s.place path).dropLast = some .directory := by
  rw [← List.dropLast_append_getLast hp.place_ne_nil] at h
  exact hs.connected _ _ h

/-- **Paths and locations.**  What a path leads to is what is at its location. -/
theorem find?_eq (hs : s.IsIn w) (hp : s.Holds path) :
    w.find? path = w.tree.find? (s.place path) := by
  unfold Workspace.find?
  cases hlocate : w.locate path with
  | ok l => rw [((locate_eq_ok_iff hs hp).mp hlocate).2]
  | error fault =>
    -- an entry would lie in a directory, and then the path would lead to it
    symm
    by_contra hsome
    rw [locate_of_directory hs hp (find?_dropLast_place hs hp hsome)] at hlocate
    cases hlocate

/-- A location on the way to another one has a path on the way to its path. -/
theorem components_isPrefix {path' : String} (hp : s.Holds path) (hp' : s.Holds path')
    (h : s.place path <+: (s.place path').dropLast) :
    Path.components path <+: (Path.components path').dropLast := by
  obtain ⟨names, n, hnames, rfl⟩ := hp
  obtain ⟨names', n', hnames', rfl⟩ := hp'
  rw [place_below hnames, place_below hnames', ← List.append_assoc s.top names',
    List.dropLast_concat, List.prefix_append_right_inj] at h
  have hdrop : (Path.components s.path ++ (names' ++ [n']).map PathComponent.name).dropLast =
      Path.components s.path ++ names'.map .name := by
    rw [List.map_append, List.map_singleton, ← List.append_assoc, List.dropLast_concat]
  rw [Path.components_below hnames, Path.components_below hnames', hdrop,
    List.prefix_append_right_inj]
  exact h.map _

/-! ### Operations -/

theorem readText_eq_ok_iff (hs : s.IsIn w) (hp : s.Holds path) {text : String} :
    w.readText path = .ok text ↔ ∃ content, w.tree.find? (s.place path) = some (.file content) ∧
      String.fromUTF8? ⟨content⟩ = some text := by
  rw [Workspace.readText_eq_ok_iff]
  constructor
  · rintro ⟨l, content, hlocate, hfile, htext⟩
    obtain ⟨-, rfl⟩ := (locate_eq_ok_iff hs hp).mp hlocate
    exact ⟨content, hfile, htext⟩
  · rintro ⟨content, hfile, htext⟩
    have hdir := find?_dropLast_place hs hp (by simp [hfile])
    exact ⟨_, content, locate_of_directory hs hp hdir, hfile, htext⟩

/-- Names only lengthen the location of the directory to be made. -/
theorem makeDirectories_names (w : Workspace) (names : List String) (l : Location) :
    w.makeDirectories (names.map .name) l =
      (w.tree.makeDirectories (l ++ names)).map fun t => { w with tree := t } := by
  induction names generalizing l with
  | nil =>
    rw [List.map_nil, Workspace.makeDirectories, List.append_nil]
    cases w.tree.makeDirectories l <;> rfl
  | cons n names ih =>
    rw [List.map_cons, Workspace.makeDirectories, ih, List.append_assoc, List.singleton_append]

/-- Where a path leads through directories, none is made. -/
theorem makeDirectories_append {steps rest : List PathComponent} {here : Location}
    (ht : w.tree.IsConnected) (h : steps.foldlM w.tree.step l = .ok here) :
    w.makeDirectories (steps ++ rest) l = w.makeDirectories rest here := by
  induction steps generalizing l with
  | nil =>
    cases h
    rfl
  | cons c steps ih =>
    rw [List.foldlM_cons, bind_eq_ok_iff] at h
    obtain ⟨next, hstep, hnext⟩ := h
    have hmake := FileTree.makeDirectories_of_directory ht (FileTree.isDirectory_of_step hstep)
    rw [List.cons_append, ← ih hnext]
    cases c with
    | name n =>
      obtain ⟨-, rfl⟩ := FileTree.step_name_eq_ok_iff.mp hstep
      rw [Workspace.makeDirectories]
    | root | here | up =>
      -- before such a step the directory is made that is there already
      rw [Workspace.makeDirectories, hmake]
      · show (do w.makeDirectories (steps ++ rest) (← w.tree.step l _)) = _
        rw [hstep]
        rfl
      · simp

/-- The directories of a path below the directory are made there. -/
theorem makeDirectories_eq (hs : s.IsIn w) (hp : s.Holds path) :
    w.makeDirectories (Path.components path).dropLast w.directory =
      (w.tree.makeDirectories (s.place path).dropLast).map fun t => { w with tree := t } := by
  obtain ⟨names, n, hnames, rfl⟩ := hp
  have hsteps := (FileTree.locate_eq_ok_iff.mp hs.locate).2.1
  rw [place_below hnames, Path.components_below hnames, List.map_append, List.map_singleton,
    ← List.append_assoc, ← List.append_assoc, List.dropLast_concat, List.dropLast_concat,
    makeDirectories_append hs.connected hsteps, makeDirectories_names]

/-- **A file written.**  What is missing on the way to it is made, and nothing else changes. -/
theorem replace_spec (hs : s.IsIn w) (hp : s.Holds path) {text : String}
    (h : w.replace path text = .ok w') :
    ∃ t, Extends w.tree t (s.place path).dropLast ∧ t.IsConnected ∧
      t.find? (s.place path).dropLast = some .directory ∧
      t.find? (s.place path) ≠ some .directory ∧
      w' = { w with tree := t.insert (s.place path) (.file text.toUTF8.data) } := by
  rw [Workspace.replace, makeDirectories_eq hs hp, bind_eq_ok_iff] at h
  obtain ⟨w₁, hmake, hwrite⟩ := h
  cases hdirs : w.tree.makeDirectories (s.place path).dropLast with
  | error fault =>
    rw [hdirs] at hmake
    cases hmake
  | ok t =>
    rw [hdirs] at hmake
    cases hmake
    obtain ⟨hext, ht, hdir⟩ := FileTree.makeDirectories_spec hs.connected hdirs
    have hs₁ : s.IsIn { w with tree := t } := hs.mono ht hext.isDirectory
    simp only [Workspace.writeText, Workspace.writeBytes, bind_eq_ok_iff, check_eq_ok_iff,
      return_eq_ok_iff] at hwrite
    obtain ⟨l, hlocate, hfree, rfl⟩ := hwrite
    obtain ⟨-, rfl⟩ := (locate_eq_ok_iff hs₁ hp).mp hlocate
    refine ⟨t, hext, ht, hdir, ?_, rfl⟩
    intro hplace
    exact hfree (by rw [FileTree.isDirectory_iff.mpr hplace, Bool.true_or])

/-- **A file moved.**  It is taken out of its place and put into the new one. -/
theorem rename_spec (hs : s.IsIn w) {new : String} (hp : s.Holds path) (hnew : s.Holds new)
    (h : w.rename path new = .ok w') :
    ∃ e, w.tree.find? (s.place path) = some e ∧
      w.tree.find? (s.place new).dropLast = some .directory ∧
      w.tree.find? (s.place new) ≠ some .directory ∧
      w' = { w with tree := (w.tree.erase (s.place path)).insert (s.place new) e } := by
  rw [Workspace.rename, bind_eq_ok_iff] at h
  obtain ⟨source, hsource, h⟩ := h
  rw [bind_eq_ok_iff] at h
  obtain ⟨target, htarget, h⟩ := h
  obtain ⟨-, rfl⟩ := (locate_eq_ok_iff hs hp).mp hsource
  obtain ⟨hdir, rfl⟩ := (locate_eq_ok_iff hs hnew).mp htarget
  split at h
  · simp at h
  · next e he =>
    simp only [check_eq_ok_iff, return_eq_ok_iff] at h
    obtain ⟨hfree, rfl⟩ := h
    refine ⟨e, he, hdir, ?_, rfl⟩
    rwa [FileTree.isDirectory_iff] at hfree

/-- **A file removed.** -/
theorem remove_spec (hs : s.IsIn w) (hp : s.Holds path) (h : w.remove path = .ok w') :
    ∃ content, w.tree.find? (s.place path) = some (.file content) ∧
      w' = { w with tree := w.tree.erase (s.place path) } := by
  rw [Workspace.remove, bind_eq_ok_iff] at h
  obtain ⟨l, hlocate, h⟩ := h
  obtain ⟨-, rfl⟩ := (locate_eq_ok_iff hs hp).mp hlocate
  split at h
  · simp at h
  · simp at h
  · next content hfile => exact ⟨content, hfile, (return_eq_ok_iff.mp h).symm⟩

end Site

end RouteMigration
