import RouteMigration.Proofs.ByteOrder
import RouteMigration.Proofs.Discovery

/-!
# Discovery as a walk

Discovery reads the files below a directory off the list of all entries and leaves out those that a
private directory holds.  A walk of the tree visits a directory before what is in it, siblings in
the order of their names, and does not go into a private directory at all.  Both give the same
files in the same order.

## Main Definitions

* `FileTree.children` — what is in a directory, in the order of the names
* `FileTree.walk` — the files of a walk that stays out of some directories
* `FileTree.IsRoutePlace` — the place of a route file below a directory

## Main Statements

* `FileTree.mem_walk_iff`, `FileTree.pairwise_walk` — which files a walk visits, and in which order
* `Workspace.publicFiles_eq_walk` — the files that are read off the entries are those of the walk
* `Workspace.discovery_is_exact` — discovery finds the route files, all of them, once and in order

## Design Notes

The walk is told how deep it may go, and at least as deep as the tree is it finds everything.  The
directory where it starts is not asked whether it is private.
-/

namespace RouteMigration

open RouteMigration.Path (IsName)

/-! ### Locations in order -/

namespace Location

/-- Locations are compared behind what they have in common. -/
theorem lt_of_append_lt {l names names' : Location} (h : l ++ names < l ++ names') :
    names < names' := by
  induction l with
  | nil => exact h
  | cons n l ih =>
    rcases List.cons_lt_cons_iff.mp h with hlt | ⟨-, hrest⟩
    · exact absurd hlt (String.lt_irrefl n)
    · exact ih hrest

theorem nodup_of_pairwise {ls : List Location} (h : ls.Pairwise (· < ·)) : ls.Nodup := by
  refine h.imp fun {l l'} hlt heq => ?_
  rw [heq] at hlt
  exact List.lt_irrefl _ hlt

/-- Locations in order are told by which they are. -/
theorem eq_of_pairwise {ls ls' : List Location} (h : ls.Pairwise (· < ·))
    (h' : ls'.Pairwise (· < ·)) (hmem : ∀ l, l ∈ ls ↔ l ∈ ls') : ls = ls' :=
  List.Perm.eq_of_pairwise (fun _ _ _ _ hlt hgt => absurd hgt (List.lt_asymm hlt)) h h'
    ((List.perm_ext_iff_of_nodup (nodup_of_pairwise h) (nodup_of_pairwise h')).mpr hmem)

end Location

namespace FileTree

variable {t : FileTree} {l names : Location} {n : String} {e : Entry} {skip : String → Bool}
  {depth : Nat}

/-! ### Walks -/

/-- An entry that lies directly in a directory, by its name. -/
def childName? : Location × Entry → Option (String × Entry)
  | ([n], e) => some (n, e)
  | _ => none

/-- What is in a directory, in the order of the names. -/
def children (t : FileTree) (l : Location) : List (String × Entry) :=
  (t.below l).filterMap childName?

/-- The files of a walk that are at an entry or in it.  A directory that `skip` tells is not
entered, and of every other one the files are `below`. -/
def visit (skip : String → Bool) (below : String → List Location) :
    String × Entry → List Location
  | (n, .file _) => [[n]]
  | (n, .directory) => if skip n then [] else (below n).map (n :: ·)

/-- The files of a walk from a directory, each with its location from there.  A directory comes
before its siblings with greater names, together with all that is in it, and none is entered that
is deeper than `depth`. -/
def walk (t : FileTree) (skip : String → Bool) : Nat → Location → List Location
  | 0, _ => []
  | depth + 1, l => (t.children l).flatMap (visit skip fun n => t.walk skip depth (l ++ [n]))

theorem childName?_eq_some {x : Location × Entry} {y : String × Entry} :
    childName? x = some y ↔ x = ([y.1], y.2) := by
  obtain ⟨names, e⟩ := x
  obtain ⟨n, e'⟩ := y
  match names with
  | [] => simp [childName?]
  | [m] => simp [childName?]
  | m :: m' :: rest => simp [childName?]

theorem mem_children_iff (ht : t.IsSound) :
    (n, e) ∈ t.children l ↔ t.find? (l ++ [n]) = some e := by
  rw [children, List.mem_filterMap, ← ht.mem_entries (by simp)]
  constructor
  · rintro ⟨x, hmem, hx⟩
    rw [childName?_eq_some.mp hx] at hmem
    exact (mem_below.mp hmem).2
  · intro h
    exact ⟨([n], e), mem_below.mpr ⟨by simp, h⟩, rfl⟩

theorem pairwise_children (ht : t.IsSound) (l : Location) :
    (t.children l).Pairwise fun x y => x.1 < y.1 := by
  refine (ht.pairwise_below l).filterMap _ fun x y hlt x' hx y' hy => ?_
  rw [childName?_eq_some.mp hx, childName?_eq_some.mp hy] at hlt
  rcases List.cons_lt_cons_iff.mp (Location.lt_of_append_lt hlt) with hlt | ⟨-, hnil⟩
  · exact hlt
  · exact absurd hnil (List.not_lt_nil _)

theorem mem_visit_iff {below : String → List Location} :
    names ∈ visit skip below (n, e) ↔
      (∃ content, e = .file content ∧ names = [n]) ∨
        e = .directory ∧ skip n = false ∧ ∃ rest ∈ below n, names = n :: rest := by
  cases e with
  | file content => simp [visit]
  | directory => cases hskip : skip n <;> simp [visit, hskip, eq_comm]

theorem pairwise_visit {below : String → List Location} (h : ∀ n, (below n).Pairwise (· < ·))
    (x : String × Entry) : (visit skip below x).Pairwise (· < ·) := by
  obtain ⟨n, e⟩ := x
  cases e with
  | file content => exact List.pairwise_singleton _ _
  | directory =>
    rw [visit]
    split
    · exact List.Pairwise.nil
    · refine List.pairwise_map.mpr ((h n).imp fun hlt => ?_)
      exact List.cons_lt_cons_iff.mpr (Or.inr ⟨rfl, hlt⟩)

/-- **Which files a walk visits.**  Those that are deep enough and in no directory that is not
entered. -/
theorem mem_walk_iff (ht : t.IsSound) : names ∈ t.walk skip depth l ↔
    names ≠ [] ∧ names.length ≤ depth ∧ (∀ d ∈ names.dropLast, skip d = false) ∧
      ∃ content, t.find? (l ++ names) = some (.file content) := by
  induction depth generalizing l names with
  | zero =>
    refine iff_of_false (List.not_mem_nil) ?_
    rintro ⟨hne, hlength, -⟩
    exact hne (List.length_eq_zero_iff.mp (Nat.le_zero.mp hlength))
  | succ depth ih =>
    rw [walk, List.mem_flatMap]
    constructor
    · rintro ⟨⟨n, e⟩, hmem, hnames⟩
      have hchild := (mem_children_iff ht).mp hmem
      rcases mem_visit_iff.mp hnames with ⟨content, rfl, rfl⟩ | ⟨rfl, hskip, rest, hrest, rfl⟩
      · exact ⟨by simp, by simp, by simp, content, hchild⟩
      · obtain ⟨hne, hlength, hpublic, content, hfile⟩ := ih.mp hrest
        refine ⟨by simp, by simpa using hlength, ?_, content, by simpa using hfile⟩
        rw [List.dropLast_cons_of_ne_nil hne]
        exact List.forall_mem_cons.mpr ⟨hskip, hpublic⟩
    · rintro ⟨hne, hlength, hpublic, content, hfile⟩
      match names, hne with
      | [n], _ =>
        exact ⟨(n, .file content), (mem_children_iff ht).mpr hfile,
          mem_visit_iff.mpr (Or.inl ⟨content, rfl, rfl⟩)⟩
      | n :: m :: rest, _ =>
        -- the first name is that of a directory, as there is something in it
        have hdir : t.find? (l ++ [n]) = some .directory := by
          refine ht.isConnected.find?_of_append (List.cons_ne_nil m rest) ?_
          rw [List.append_assoc, List.singleton_append, hfile]
          simp
        rw [List.dropLast_cons_of_ne_nil (by simp)] at hpublic
        obtain ⟨hskip, hpublic⟩ := List.forall_mem_cons.mp hpublic
        have hrest : m :: rest ∈ t.walk skip depth (l ++ [n]) :=
          ih.mpr ⟨by simp, by simpa using hlength, hpublic, content, by simpa using hfile⟩
        exact ⟨(n, .directory), (mem_children_iff ht).mpr hdir,
          mem_visit_iff.mpr (Or.inr ⟨rfl, hskip, _, hrest, rfl⟩)⟩

/-- **In which order a walk visits files.** -/
theorem pairwise_walk (ht : t.IsSound) (skip : String → Bool) (depth : Nat) (l : Location) :
    (t.walk skip depth l).Pairwise (· < ·) := by
  induction depth generalizing l with
  | zero => exact List.Pairwise.nil
  | succ depth ih =>
    rw [walk, List.pairwise_flatMap]
    refine ⟨fun x _ => pairwise_visit (fun n => ih (l ++ [n])) x, ?_⟩
    refine (pairwise_children ht l).imp fun {x y} hlt names hx names' hy => ?_
    -- what is visited at an entry begins with its name
    have hhead : ∀ {x : String × Entry} {names : Location},
        names ∈ visit skip (fun n => t.walk skip depth (l ++ [n])) x →
          ∃ rest, names = x.1 :: rest := by
      intro x names hx
      rcases mem_visit_iff.mp hx with ⟨-, -, rfl⟩ | ⟨-, -, rest, -, rfl⟩
      · exact ⟨[], rfl⟩
      · exact ⟨rest, rfl⟩
    obtain ⟨rest, rfl⟩ := hhead hx
    obtain ⟨rest', rfl⟩ := hhead hy
    exact List.cons_lt_cons_iff.mpr (Or.inl hlt)

/-! ### Places of route files -/

/-- A directory is public if its name does not begin with `_` or `.` and is not `node_modules`. -/
theorem isPrivateName_eq_false_iff {name : String} : isPrivateName name = false ↔
    name.toList.head? ≠ some '_' ∧ name.toList.head? ≠ some '.' ∧ name ≠ "node_modules" := by
  simp [isPrivateName, and_assoc, List.singleton_prefix_iff_head?_eq_some]

/-- The place of a route file below a directory: a file that no private directory holds, with the
stem and the extension of a route file. -/
structure IsRoutePlace (t : FileTree) (l names : Location) : Prop where
  isFile : ∃ content, t.find? (l ++ names) = some (.file content)
  isPublic : ∀ d ∈ names.dropLast,
    d.toList.head? ≠ some '_' ∧ d.toList.head? ≠ some '.' ∧ d ≠ "node_modules"
  name : ∃ stem ∈ ["page", "layout", "loading", "error", "not-found", "route"],
    ∃ ext ∈ ["tsx", "ts", "jsx", "js"], names.getLast? = some (stem ++ "." ++ ext)

end FileTree

namespace Workspace

variable {w : Workspace} {dir : String} {l names : Location} {depth : Nat}

/-- **The files that are read off the entries are those of a walk**, in its order. -/
theorem publicFiles_eq_walk (hsound : w.tree.IsSound) (hdir : w.tree.find? l = some .directory)
    (hdepth : ∀ x ∈ w.tree.entries, x.1.length ≤ depth) :
    w.publicFiles l = w.tree.walk isPrivateName depth l := by
  have hpublic : (w.publicFiles l).Pairwise (· < ·) :=
    (pairwise_publicFiles hsound hdir).imp Location.lt_of_append_lt
  have hwalk := FileTree.pairwise_walk hsound isPrivateName depth l
  have hmem : ∀ names, names ∈ w.publicFiles l ↔ names ∈ w.tree.walk isPrivateName depth l := by
    intro names
    rw [mem_publicFiles_iff hsound hdir, FileTree.mem_walk_iff hsound]
    refine and_congr_right fun hne => ⟨fun h => ⟨?_, h⟩, fun h => h.2⟩
    -- an entry is not deeper than the tree
    obtain ⟨-, content, hfile⟩ := h
    have hlength := hdepth _ ((hsound.mem_entries (by simp [hne])).mpr hfile)
    rw [List.length_append] at hlength
    omega
  exact Location.eq_of_pairwise hpublic hwalk hmem

/-- What is read of the files of a directory: each route file tells the names of its place. -/
theorem namesBelow_of_mem_publicFiles (hsound : w.tree.IsSound)
    (hdir : w.tree.find? l = some .directory) (hnames : names ∈ w.publicFiles l) {r : RouteFile}
    (hread : RouteFile.analyze? (Path.below dir names) dir = some r) :
    r.source = Path.below dir names ∧ Path.namesBelow dir r.source = names := by
  obtain ⟨dirs, n, content, rfl, hvalid, -⟩ := isName_of_mem_publicFiles hsound hdir hnames
  have hsource := (RouteFile.analyze?_eq_some hread).1
  exact ⟨hsource, by rw [hsource, Path.namesBelow_below hvalid]⟩

/-- A file that no private directory holds is read as a route file exactly at the place of one. -/
theorem isRoutePlace_iff (dir : String) (hsound : w.tree.IsSound)
    (hdir : w.tree.find? l = some .directory) :
    w.tree.IsRoutePlace l names ↔ names ∈ w.publicFiles l ∧
      (RouteFile.analyze? (Path.below dir names) dir).isSome = true := by
  have hprivate : (∀ d ∈ names.dropLast, isPrivateName d = false) ↔ ∀ d ∈ names.dropLast,
      d.toList.head? ≠ some '_' ∧ d.toList.head? ≠ some '.' ∧ d ≠ "node_modules" := by
    simp only [FileTree.isPrivateName_eq_false_iff]
  constructor
  · rintro ⟨⟨content, hfile⟩, hpublic, hname⟩
    have hne : names ≠ [] := by
      rintro rfl
      obtain ⟨stem, -, ext, -, hnone⟩ := hname
      cases hnone
    have hmem : names ∈ w.publicFiles l :=
      (mem_publicFiles_iff hsound hdir).mpr ⟨hne, hprivate.mpr hpublic, content, hfile⟩
    refine ⟨hmem, ?_⟩
    obtain ⟨dirs, n, -, rfl, hvalid, -⟩ := isName_of_mem_publicFiles hsound hdir hmem
    simpa [RouteFile.isSome_analyze?_below_iff hvalid, routeStems, routeExtensions] using hname
  · rintro ⟨hmem, hread⟩
    obtain ⟨-, hpublic, hfile⟩ := (mem_publicFiles_iff hsound hdir).mp hmem
    obtain ⟨dirs, n, -, rfl, hvalid, -⟩ := isName_of_mem_publicFiles hsound hdir hmem
    refine ⟨hfile, hprivate.mp hpublic, ?_⟩
    simpa [RouteFile.isSome_analyze?_below_iff hvalid, routeStems, routeExtensions] using hread

/-- **Discovery is exact and ordered.**  The route files below a directory are what is read of the
files of a walk that enters no private directory.  They are the files at the places of route files,
each of them once, and come in the order of the bytes of their names, directory by directory. -/
theorem discovery_is_exact (w : Workspace) (dir : String) (l : Location)
    (hsound : w.tree.IsSound) (hlocate : w.locate dir = .ok l)
    (hdir : w.tree.find? l = some .directory) :
    ∃ routes, w.routeFiles dir = .ok routes ∧
      (∀ depth, (∀ x ∈ w.tree.entries, x.1.length ≤ depth) →
        routes = (w.tree.walk isPrivateName depth l).filterMap fun names =>
          RouteFile.analyze? (Path.below dir names) dir) ∧
      (∀ r ∈ routes, RouteFile.analyze? r.source dir = some r) ∧
      (∀ names, w.tree.IsRoutePlace l names ↔
        ∃ r ∈ routes, r.source = Path.below dir names ∧ Path.namesBelow dir r.source = names) ∧
      (routes.map (·.source)).Nodup ∧
      routes.Pairwise fun r r' => Location.bytes (Path.namesBelow dir r.source) <
        Location.bytes (Path.namesBelow dir r'.source) := by
  have hsorted : ((w.publicFiles l).filterMap fun names =>
      RouteFile.analyze? (Path.below dir names) dir).Pairwise fun r r' =>
        Location.bytes (Path.namesBelow dir r.source) <
          Location.bytes (Path.namesBelow dir r'.source) := by
    refine List.pairwise_filterMap.mpr ((pairwise_publicFiles hsound hdir).imp_of_mem ?_)
    intro names names' hnames hnames' hlt r hr r' hr'
    rw [(namesBelow_of_mem_publicFiles hsound hdir hnames hr).2,
      (namesBelow_of_mem_publicFiles hsound hdir hnames' hr').2]
    exact Location.bytes_lt_bytes (Location.lt_of_append_lt hlt)
  refine ⟨_, routeFiles_of_directory hlocate hdir, fun depth hdepth => ?_, fun r hr => ?_,
    fun names => ?_, ?_, hsorted⟩
  · rw [publicFiles_eq_walk hsound hdir hdepth]
  · obtain ⟨names, hnames, hread⟩ := List.mem_filterMap.mp hr
    rwa [(namesBelow_of_mem_publicFiles hsound hdir hnames hread).1]
  · rw [isRoutePlace_iff dir hsound hdir, Option.isSome_iff_exists]
    constructor
    · rintro ⟨hnames, r, hread⟩
      exact ⟨r, List.mem_filterMap.mpr ⟨names, hnames, hread⟩,
        namesBelow_of_mem_publicFiles hsound hdir hnames hread⟩
    · rintro ⟨r, hr, -, hbelow⟩
      obtain ⟨names', hnames', hread⟩ := List.mem_filterMap.mp hr
      obtain rfl := (namesBelow_of_mem_publicFiles hsound hdir hnames' hread).2.symm.trans hbelow
      exact ⟨hnames', r, hread⟩
  · refine List.pairwise_map.mpr (hsorted.imp fun {r r'} hlt heq => ?_)
    rw [heq] at hlt
    exact List.lt_irrefl _ hlt

/-- A directory with a private name, with two pages in it that can be seen and three that cannot. -/
def underscoredApp : Workspace where
  tree := ⟨[(["_app"], .directory), (["_app", ".git"], .directory),
    (["_app", ".git", "page.tsx"], .file #[]), (["_app", "_lib"], .directory),
    (["_app", "_lib", "page.tsx"], .file #[]), (["_app", "blog"], .directory),
    (["_app", "blog", "page.tsx"], .file #[]), (["_app", "blog", "page.txt"], .file #[]),
    (["_app", "blog-2"], .directory), (["_app", "blog-2", "page.js"], .file #[]),
    (["_app", "node_modules"], .directory), (["_app", "node_modules", "page.tsx"], .file #[])]⟩

/-- Discovery in that directory finds the two pages, first the one of the shorter name. -/
theorem discovery_in_underscoredApp :
    underscoredApp.tree.IsSound ∧ underscoredApp.locate "_app" = .ok ["_app"] ∧
      underscoredApp.tree.find? ["_app"] = some .directory ∧
      ∃ routes, underscoredApp.routeFiles "_app" = .ok routes ∧
        routes.map (·.source) = ["_app/blog/page.tsx", "_app/blog-2/page.js"] ∧
        underscoredApp.tree.IsRoutePlace ["_app"] ["blog", "page.tsx"] ∧
        ∀ d ∈ [".git", "_lib", "node_modules"],
          ¬underscoredApp.tree.IsRoutePlace ["_app"] [d, "page.tsx"] := by
  have hsound : underscoredApp.tree.IsSound := ⟨by decide, by decide, by decide⟩
  have hlocate : underscoredApp.locate "_app" = .ok ["_app"] := by decide +kernel
  have hfound : (underscoredApp.routeFiles "_app").toOption.map (·.map (·.source)) =
      some ["_app/blog/page.tsx", "_app/blog-2/page.js"] := by decide +kernel
  obtain ⟨routes, hroutes, -, -, hplaces, -⟩ :=
    discovery_is_exact underscoredApp "_app" ["_app"] hsound hlocate rfl
  rw [hroutes] at hfound
  have hsources : routes.map (·.source) = ["_app/blog/page.tsx", "_app/blog-2/page.js"] :=
    Option.some.inj hfound
  refine ⟨hsound, hlocate, rfl, routes, hroutes, hsources, ?_, ?_⟩
  · have hmem : "_app/blog/page.tsx" ∈ routes.map (·.source) := by simp [hsources]
    obtain ⟨r, hr, hsource⟩ := List.mem_map.mp hmem
    refine (hplaces _).mpr ⟨r, hr, hsource.trans (by decide +kernel), ?_⟩
    rw [hsource]
    decide +kernel
  · intro d hd hplace
    obtain ⟨r, hr, hsource, -⟩ := (hplaces _).mp hplace
    have hmem : r.source ∈ routes.map (·.source) := List.mem_map_of_mem hr
    rw [hsources, hsource] at hmem
    have hall : ∀ d ∈ [".git", "_lib", "node_modules"], Path.below "_app" [d, "page.tsx"] ∉
        ["_app/blog/page.tsx", "_app/blog-2/page.js"] := by decide +kernel
    exact hall d hd hmem

end Workspace

end RouteMigration
