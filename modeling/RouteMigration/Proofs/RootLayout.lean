import Mathlib.Tactic.TFAE
import RouteMigration.Project.Config
import RouteMigration.Proofs.FlatTargets

/-!
# The top layout

The layout of the app directory itself is the top of all routes.  Four parts of a migration tell it
from other layouts, each from something else: the text of its directory, the segments of this
directory, the route that is made of the segments, and a route given on the command line.  They
agree as long as the directories have plain names.

A directory may be called `\`, and then they do not: it has a name, but no segment.

## Main Definitions

* `Path.HasPlainDirectories` — the directories of a path below another have plain names

## Main Statements

* `RouteFile.route_eq_top_iff`, `RouteFile.target_of_layout_iff`, `RouteFile.isRoot_iff` — each of
  the deciders asks whether the directory has segments
* `RouteFile.root_deciders_agree` — they agree on layouts, and on the pipelines of all files
-/

namespace RouteMigration

open RouteMigration.Path (IsName)

/-! ### Plain directories -/

/-- A step into a directory that is called by a name without a backslash. -/
def PathComponent.IsPlain : PathComponent → Prop
  | name text => '\\' ∉ text.toList
  | _ => False

instance : DecidablePred PathComponent.IsPlain
  | .name text => inferInstanceAs (Decidable ('\\' ∉ text.toList))
  | .root | .here | .up => inferInstanceAs (Decidable False)

/-- The directories of a path below another have names without a backslash. -/
def Path.HasPlainDirectories (app path : String) : Prop :=
  ∀ c ∈ ((relativeTo? app path).getD []).dropLast, c.IsPlain

instance (app path : String) : Decidable (Path.HasPlainDirectories app path) :=
  inferInstanceAs (Decidable (∀ c ∈ _, PathComponent.IsPlain c))

namespace RouteFile

variable {path app : String} {r : RouteFile}

/-- The directory of a route file is made of the names that lead to it. -/
theorem exists_dirs_of_hasPlainDirectories (h : analyze? path app = some r)
    (hplain : Path.HasPlainDirectories app path) :
    ∃ dirs, (∀ n ∈ dirs, IsName n ∧ '\\' ∉ n.toList) ∧ r.dir = Text.joinWith "/" dirs := by
  obtain ⟨-, -, -, steps, hsteps, hdir, -⟩ := analyze?_eq_some h
  refine ⟨steps.dropLast.map (·.text), fun n hn => ?_, hdir⟩
  obtain ⟨c, hc, rfl⟩ := List.mem_map.mp hn
  have hmem : c ∈ Path.components path := by
    rw [Path.relativeTo?, List.isPrefixOf?_eq_some_iff_append_eq] at hsteps
    rw [← hsteps]
    exact List.mem_append_right _ ((List.dropLast_prefix steps).subset hc)
  have hplain : c.IsPlain := by
    rw [Path.HasPlainDirectories, hsteps, Option.getD_some] at hplain
    exact hplain c hc
  cases c with
  | name text => exact ⟨Path.isName_of_mem_components hmem, hplain⟩
  | root => exact hplain.elim
  | here => exact hplain.elim
  | up => exact hplain.elim

/-! ### Deciders -/

/-- **The route.**  It is the top one if the directory has no segments. -/
theorem route_eq_top_iff (r : RouteFile) : r.route = "/" ↔ convertedSegments r.dir = [] := by
  have hne : ∀ n ∈ convertedSegments r.dir, n ≠ "" :=
    fun n hn => ne_empty_of_mem_convertedSegments hn
  rw [← @Text.joinWith_eq_empty_iff "/" _ hne, route, routePath, String.append_eq_left_iff]

/-- **The target.**  Only a layout of a directory without segments goes to the top, whether its path
is compared as a text or by its components. -/
theorem target_of_layout_iff (h : analyze? path app = some r) (hlayout : r.kind = .layout) :
    (Path.components r.target = Path.components (Path.join app ("__root." ++ r.ext)) →
        convertedSegments r.dir = []) ∧
      (convertedSegments r.dir = [] → r.target = Path.join app ("__root." ++ r.ext)) := by
  have hext := (analyze?_eq_some h).2.1
  have hroot : IsName ("__root" ++ "." ++ r.ext) := isName_dotted (by decide) hext
  have hlabel : IsName ("_layout" ++ "." ++ r.ext) := isName_dotted (by decide) hext
  rw [target_eq h, hlayout, ← show "__root" ++ "." = "__root." from rfl]
  unfold targetPath
  cases convertedSegments r.dir with
  | nil => exact ⟨fun _ => rfl, fun _ => rfl⟩
  | cons step steps =>
    refine ⟨fun heq => ?_, fun hnil => absurd hnil (by simp)⟩
    replace heq : Path.components (Path.join ((step :: steps).foldl Path.join app)
        ("_layout" ++ "." ++ r.ext)) = Path.components (Path.join app ("__root" ++ "." ++ r.ext)) :=
      heq
    -- the last names of the two paths differ
    have hname := @Path.fileName?_join _ ((step :: steps).foldl Path.join app) hlabel
    rw [Path.fileName?, heq, ← Path.fileName?, Path.fileName?_join hroot] at hname
    have hdot := not_dot_of_routeExtension r.ext hext
    exact absurd (eq_of_dotted hdot hdot (Option.some.inj hname)).1 (by decide)

/-- **The directory.**  A directory with plain names is empty if it has no segments. -/
theorem isRoot_iff (h : analyze? path app = some r) (hplain : Path.HasPlainDirectories app path) :
    r.isRoot = true ↔ convertedSegments r.dir = [] := by
  obtain ⟨dirs, hdirs, hdir⟩ := exists_dirs_of_hasPlainDirectories h hplain
  have hempty : r.dir = "" ↔ dirs = [] := by
    rw [hdir, Text.joinWith_eq_empty_iff fun n hn => (hdirs n hn).1.ne_empty]
  rw [isRoot, decide_eq_true_iff, hempty, hdir, convertedSegments_joinWith hdirs,
    List.map_eq_nil_iff]

/-- The stem of a route file is what its kind was told from, and the one that a file on the command
line has. -/
theorem stem_spec (h : analyze? path app = some r) :
    RouteKind.ofStem? r.stem = some r.kind ∧ Path.stem? path = some r.stem := by
  obtain ⟨hsource, hext, ⟨stem, hfile, hkind⟩, -⟩ := analyze?_eq_some h
  have hcut : Text.splitLast? '.' (stem ++ "." ++ r.ext) = some (stem, r.ext) :=
    Text.splitLast?_eq_some_iff.mpr ⟨by simp, not_dot_of_routeExtension r.ext hext⟩
  have hstem : r.stem = stem := by
    rw [RouteFile.stem, fileName, hsource, hfile, Option.getD_some, hcut]
    rfl
  have hne : stem ≠ "" := by
    rintro rfl
    cases hkind
  refine ⟨by rw [hstem, hkind], ?_⟩
  rw [hstem, Path.stem?, hfile, Option.map_some, Path.splitName, hcut]
  split
  · next hnone => cases hnone
  · next hempty =>
    cases hempty
    exact absurd rfl hne
  · next hsome =>
    cases hsome
    rfl

/-- **The pipelines.**  The pipeline of a route file is the one that its stem and its route stand
for. -/
theorem moduleKind?_eq_inferKind (h : analyze? path app = some r)
    (hroot : r.isRoot = true ↔ r.route = "/") (hkind : r.kind ≠ .notFound) :
    r.moduleKind? = some (inferKind r.stem r.route) := by
  rw [inferKind, (stem_spec h).1, moduleKind?]
  cases hcase : r.kind with
  | layout => simp only [hroot]
  | notFound => exact absurd hcase hkind
  | page | loading | error | api => rfl

/-- **The top layout.**  If the directories of a layout have plain names, then all that decides
whether it is the top of all routes decides the same: where it lies, its pipeline, where it goes
to, its route, and the pipeline that its stem and its route stand for.  Every other file has the
pipeline, too, that its stem and its route stand for, unless no module is made of it. -/
theorem root_deciders_agree (h : analyze? path app = some r)
    (hplain : Path.HasPlainDirectories app path) :
    (r.kind = .layout →
      List.TFAE [r.isRoot = true, r.moduleKind? = some .rootLayout,
        r.target = Path.join app ("__root." ++ r.ext),
        Path.components r.target = Path.components (Path.join app ("__root." ++ r.ext)),
        r.route = "/", inferKind r.stem r.route = .rootLayout]) ∧
      (r.kind ≠ .notFound →
        r.moduleKind? = some (inferKind r.stem r.route) ∧ Path.stem? path = some r.stem) := by
  have hroot : r.isRoot = true ↔ r.route = "/" :=
    (isRoot_iff h hplain).trans (route_eq_top_iff r).symm
  refine ⟨fun hlayout => ?_, fun hkind => ⟨moduleKind?_eq_inferKind h hroot hkind, (stem_spec h).2⟩⟩
  obtain ⟨htop, htarget⟩ := target_of_layout_iff h hlayout
  have hpipeline := moduleKind?_eq_inferKind h hroot (by rw [hlayout]; decide)
  tfae_have 1 ↔ 5 := hroot
  tfae_have 1 ↔ 2 := by
    rw [moduleKind?, hlayout]
    simp
  tfae_have 2 ↔ 6 := by rw [hpipeline, Option.some.injEq]
  tfae_have 3 → 4 := congrArg Path.components
  tfae_have 4 → 5 := fun heq => (route_eq_top_iff r).mpr (htop heq)
  tfae_have 5 → 3 := fun heq => htarget ((route_eq_top_iff r).mp heq)
  tfae_finish

/-- Without plain names they do not: the layout of a directory called `\` is not the top one, and
has the top route. -/
example : (analyze? "app/\\/layout.tsx" "app").map (fun r => (r.isRoot, r.route)) =
    some (false, "/") := by
  decide +kernel

/-- The layout of a directory with a parameter is not the top one, whatever tells it. -/
theorem root_deciders_agree_on_parameter :
    ∃ r : RouteFile, analyze? "app//[id]/layout.tsx" "app" = some r ∧
      Path.HasPlainDirectories "app" "app//[id]/layout.tsx" ∧ r.kind = .layout ∧
      r.kind ≠ .notFound ∧ r.isRoot = false ∧ r.route ≠ "/" ∧
      inferKind r.stem r.route ≠ .rootLayout ∧
      r.moduleKind? = some (inferKind r.stem r.route) := by
  have hplain : Path.HasPlainDirectories "app" "app//[id]/layout.tsx" := by decide +kernel
  have hread : (analyze? "app//[id]/layout.tsx" "app").any
      (fun r => r.kind = .layout && !r.isRoot) = true := by
    decide +kernel
  cases h : analyze? "app//[id]/layout.tsx" "app" with
  | none =>
    rw [h] at hread
    cases hread
  | some r =>
    rw [h, Option.any_some, Bool.and_eq_true, decide_eq_true_iff, Bool.not_eq_true'] at hread
    obtain ⟨hkind, hroot⟩ := hread
    have hfound : r.kind ≠ .notFound := by
      rw [hkind]
      decide
    obtain ⟨hlayout, hpipeline⟩ := root_deciders_agree h hplain
    have hagree := hlayout hkind
    have hnot : ¬r.isRoot = true := Bool.eq_false_iff.mp hroot
    exact ⟨r, rfl, hplain, hkind, hfound, hroot, mt (hagree.out 4 0).mp hnot,
      mt (hagree.out 5 0).mp hnot, (hpipeline hfound).1⟩

end RouteFile

end RouteMigration
