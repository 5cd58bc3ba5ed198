import RouteMigration.Proofs.FailedRun

/-!
# Targets of pages

A page is migrated to one file in the app directory, whose name is the route with dots for its
slashes.  Directory names may have dots of their own, so the name does not always tell the route:
`/a.b` and `/a/b` are two routes with one target.

## Main Definitions

* `flatName` — the name of the module of a page, from its route

## Main Statements

* `RouteFile.target_of_page` — the target of a page has the flat name of its route
* `RouteFile.target_eq_iff_of_pages` — when two pages have one target, and when that tells that
  they have one route
-/

namespace RouteMigration

/-! ### Flat names -/

/-- A character of a route as it stands in a flat name. -/
def flatChar (c : Char) : Char := if c = '/' then '.' else c

/-- What follows the first slash of a route, in one name. -/
def flatten : List Char → List Char
  | [] => "index".toList
  | cs => cs.map flatChar

/-- A route as the name of one file: its slashes become dots, without the first one, and the top
route is called `index`. -/
def flatName (route : String) : String := String.ofList (flatten (route.toList.drop 1))

/-- The text has a dot. -/
def HasDot (s : String) : Prop := '.' ∈ s.toList

instance (s : String) : Decidable (HasDot s) := inferInstanceAs (Decidable ('.' ∈ s.toList))

theorem flatChar_inj {c d : Char} (hc : c ≠ '.') (hd : d ≠ '.') (h : flatChar c = flatChar d) :
    c = d := by
  unfold flatChar at h
  split at h
  · split at h
    · rw [‹c = '/'›, ‹d = '/'›]
    · exact absurd h.symm hd
  · split at h
    · exact absurd h hc
    · exact h

theorem map_flatChar_inj {xs ys : List Char} (hxs : '.' ∉ xs) (hys : '.' ∉ ys)
    (h : xs.map flatChar = ys.map flatChar) : xs = ys := by
  induction xs generalizing ys with
  | nil => exact (List.map_eq_nil_iff.mp h.symm).symm
  | cons x xs ih =>
    obtain ⟨y, ys, rfl, hy, hrest⟩ := List.map_eq_cons_iff.mp h.symm
    simp only [List.mem_cons, not_or] at hxs hys
    rw [flatChar_inj (Ne.symm hxs.1) (Ne.symm hys.1) hy.symm, ih hxs.2 hys.2 hrest.symm]

/-- **Without dots.**  Texts that are flattened to one name are the same, but for the name of the
top. -/
theorem eq_of_flatten_eq {xs ys : List Char} (hxs : '.' ∉ xs) (hys : '.' ∉ ys)
    (h : flatten xs = flatten ys) :
    xs = ys ∨ (xs = [] ∧ ys = "index".toList) ∨ (xs = "index".toList ∧ ys = []) := by
  have hindex : "index".toList.map flatChar = "index".toList := by decide
  have hplain : '.' ∉ "index".toList := by decide
  cases xs with
  | nil =>
    cases ys with
    | nil => exact Or.inl rfl
    | cons y ys =>
      exact Or.inr (Or.inl ⟨rfl, map_flatChar_inj hys hplain (h.symm.trans hindex.symm)⟩)
  | cons x xs =>
    cases ys with
    | nil => exact Or.inr (Or.inr ⟨map_flatChar_inj hxs hplain (h.trans hindex.symm), rfl⟩)
    | cons y ys => exact Or.inl (map_flatChar_inj hxs hys h)

theorem map_flatChar_of_not_slash {xs : List Char} (h : '/' ∉ xs) : xs.map flatChar = xs := by
  refine (List.map_congr_left fun c hc => if_neg ?_).trans (List.map_id xs)
  rintro rfl
  exact h hc

/-- Steps joined by slashes are flattened to the steps joined by dots. -/
theorem map_flatChar_joinWith {steps : List String} (h : ∀ n ∈ steps, '/' ∉ n.toList) :
    (Text.joinWith "/" steps).toList.map flatChar = (Text.joinWith "." steps).toList := by
  induction steps with
  | nil => decide
  | cons step steps ih =>
    have hstep := map_flatChar_of_not_slash (h step (List.mem_cons_self ..))
    cases steps with
    | nil => exact hstep
    | cons next steps =>
      have hrest := ih fun n hn => h n (List.mem_cons_of_mem step hn)
      have hjoin : ∀ separator : String, Text.joinWith separator (step :: next :: steps) =
          step ++ separator ++ Text.joinWith separator (next :: steps) := fun _ => rfl
      rw [hjoin, hjoin, String.toList_append, String.toList_append, List.map_append,
        List.map_append, hstep, hrest, String.toList_append, String.toList_append]
      rfl

/-! ### Routes of directories -/

/-- A converted segment is no empty text. -/
theorem ne_empty_of_mem_convertedSegments {dir n : String} (h : n ∈ convertedSegments dir) :
    n ≠ "" := by
  obtain ⟨segment, hsegment, rfl⟩ := List.mem_map.mp h
  have hne : segment ≠ "" := by
    rintro rfl
    simpa using (List.mem_filter.mp hsegment).2
  rcases Segment.convert_cases segment with hsame | ⟨name, hname, -⟩
  · rwa [hsame]
  · rw [hname]
    simp

theorem drop_routePath (dir : String) :
    (routePath dir).toList.drop 1 = (Text.joinWith "/" (convertedSegments dir)).toList := by
  rw [routePath, String.toList_append]
  rfl

theorem routePath_eq_iff {dir : String} {below : List Char} :
    routePath dir = "/" ++ String.ofList below ↔ (routePath dir).toList.drop 1 = below := by
  rw [drop_routePath, routePath, String.append_right_inj, ← String.toList_inj,
    String.toList_ofList]

/-- The flat name of a route is made of the steps of its directory. -/
theorem flatName_routePath (dir : String) :
    flatName (routePath dir) =
      match convertedSegments dir with
      | [] => "index"
      | steps => Text.joinWith "." steps := by
  have hslash := map_flatChar_joinWith fun n (hn : n ∈ convertedSegments dir) =>
    not_slash_of_mem_convertedSegments hn
  have hempty : ∀ n ∈ convertedSegments dir, n ≠ "" := fun n hn =>
    ne_empty_of_mem_convertedSegments hn
  rw [flatName, drop_routePath]
  generalize convertedSegments dir = steps at hslash hempty
  cases steps with
  | nil => rfl
  | cons step steps =>
    obtain ⟨c, cs, hlist⟩ : ∃ c cs, (Text.joinWith "/" (step :: steps)).toList = c :: cs := by
      refine List.exists_cons_of_ne_nil ?_
      rw [Ne, String.toList_eq_nil_iff, Text.joinWith_eq_empty_iff hempty]
      simp
    rw [hlist] at hslash ⊢
    show String.ofList ((c :: cs).map flatChar) = Text.joinWith "." (step :: steps)
    rw [hslash, String.ofList_toList]

theorem not_slash_flatName (dir : String) : '/' ∉ (flatName (routePath dir)).toList := by
  rw [flatName_routePath]
  split
  · decide
  · exact not_slash_joinWith_dot fun n hn => not_slash_of_mem_convertedSegments hn

/-! ### Pages -/

theorem Path.join_inj {dir n n' : String} (hn : '/' ∉ n.toList) (hn' : '/' ∉ n'.toList) :
    Path.join dir n = Path.join dir n' ↔ n = n' := by
  have hrelative : ∀ {n : String}, '/' ∉ n.toList → n.startsWith "/" = false := by
    intro n hn
    rw [String.startsWith_string_eq_false_iff]
    rintro ⟨rest, hrest⟩
    apply hn
    rw [← hrest]
    simp
  rw [Path.join, Path.join, hrelative hn, hrelative hn', if_neg Bool.false_ne_true,
    if_neg Bool.false_ne_true]
  split
  · exact String.append_right_inj dir
  · exact String.append_right_inj (dir ++ "/")

namespace RouteFile

variable {path path' app : String} {r r' : RouteFile}

theorem target_eq (h : analyze? path app = some r) :
    r.target = targetPath app r.dir r.kind r.ext := by
  obtain ⟨-, -, -, steps, -, -, htarget⟩ := analyze?_eq_some h
  exact htarget

/-- **Where a page goes.**  Its module is called by its route, all in one name. -/
theorem target_of_page (h : analyze? path app = some r) (hpage : r.kind = .page) :
    r.target = Path.join app (flatName r.route ++ "." ++ r.ext) := by
  rw [target_eq h, hpage, route, flatName_routePath]
  unfold targetPath
  rw [← show "index" ++ "." = "index." from rfl]
  cases convertedSegments r.dir <;> rfl

/-- **Pages that meet.**  Two pages with one extension go to one target exactly if their routes
have one flat name.  Then they have one route, unless there is a dot in one of the routes, or the
two are the top route and `/index`. -/
theorem target_eq_iff_of_pages (h : analyze? path app = some r) (h' : analyze? path' app = some r')
    (hpage : r.kind = .page) (hpage' : r'.kind = .page) (hext : r.ext = r'.ext) :
    (r.target = r'.target ↔ flatName r.route = flatName r'.route) ∧
      (r.target = r'.target →
        r.route = r'.route ∨ HasDot r.route ∨ HasDot r'.route ∨
          (r.route = "/" ∧ r'.route = "/index") ∨ (r.route = "/index" ∧ r'.route = "/")) := by
  have hdot := not_dot_of_routeExtension r.ext (analyze?_eq_some h).2.1
  have hdot' := not_dot_of_routeExtension r'.ext (analyze?_eq_some h').2.1
  have hslash : ∀ {path r}, analyze? path app = some r →
      '/' ∉ (flatName r.route ++ "." ++ r.ext).toList := by
    intro path r h
    have hext := not_slash_of_routeExtension r.ext (analyze?_eq_some h).2.1
    simpa using ⟨not_slash_flatName r.dir, hext⟩
  have hmeet : r.target = r'.target ↔ flatName r.route = flatName r'.route := by
    rw [target_of_page h hpage, target_of_page h' hpage', Path.join_inj (hslash h) (hslash h')]
    constructor
    · exact fun heq => (eq_of_dotted hdot hdot' heq).1
    · intro heq
      rw [heq, hext]
  refine ⟨hmeet, fun htarget => ?_⟩
  by_cases hroute : HasDot r.route
  · exact Or.inr (Or.inl hroute)
  by_cases hroute' : HasDot r'.route
  · exact Or.inr (Or.inr (Or.inl hroute'))
  have hflat : flatten (r.route.toList.drop 1) = flatten (r'.route.toList.drop 1) :=
    String.ofList_inj.mp (hmeet.mp htarget)
  have hplain : '.' ∉ r.route.toList.drop 1 := fun hmem => hroute (List.mem_of_mem_drop hmem)
  have hplain' : '.' ∉ r'.route.toList.drop 1 := fun hmem => hroute' (List.mem_of_mem_drop hmem)
  rcases eq_of_flatten_eq hplain hplain' hflat with heq | ⟨htop, hindex⟩ | ⟨hindex, htop⟩
  · refine Or.inl ?_
    rw [route, routePath_eq_iff.mpr heq, route, ← routePath_eq_iff.mpr rfl]
  · exact Or.inr (Or.inr (Or.inr (Or.inl
      ⟨routePath_eq_iff.mpr htop, routePath_eq_iff.mpr hindex⟩)))
  · exact Or.inr (Or.inr (Or.inr (Or.inr
      ⟨routePath_eq_iff.mpr hindex, routePath_eq_iff.mpr htop⟩)))

/-- Two directories for one parameter: the pages in them have one target, and one route. -/
theorem target_eq_of_parameter_pages :
    ∃ r r' : RouteFile, analyze? "app/blog/[id]/page.tsx" "app" = some r ∧
      analyze? "app/blog/$id/page.tsx" "app" = some r' ∧ r.kind = .page ∧ r'.kind = .page ∧
      r.ext = r'.ext ∧ r.target = r'.target ∧ r.route = r'.route := by
  refine ⟨_, _, rfl, rfl, rfl, rfl, rfl, ?_⟩
  have hmeet := @target_eq_iff_of_pages "app/blog/[id]/page.tsx" "app/blog/$id/page.tsx" "app"
    _ _ rfl rfl rfl rfl rfl
  have htarget := hmeet.1.mpr (by decide +kernel)
  refine ⟨htarget, (hmeet.2 htarget).resolve_right ?_⟩
  decide +kernel

/-- **A dot in a name.**  A page in `a.b` and one in `a/b` have different routes and one target. -/
theorem target_eq_of_dotted_page :
    ¬∀ (path path' app : String) (r r' : RouteFile), analyze? path app = some r →
      analyze? path' app = some r' → r.kind = .page → r'.kind = .page → r.ext = r'.ext →
      r.target = r'.target → r.route = r'.route := by
  intro hall
  have hsame := hall "app/a.b/page.tsx" "app/a/b/page.tsx" "app" _ _ rfl rfl rfl rfl rfl
    (by decide +kernel)
  exact absurd hsame (by decide +kernel)

end RouteFile

end RouteMigration
