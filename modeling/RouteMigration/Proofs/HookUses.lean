import RouteMigration.Proofs.DefaultExports
import RouteMigration.Proofs.ImportDeclarations
import RouteMigration.Proofs.Uses

/-!
# Uses of renamed hooks

A hook that is imported from the router goes by another name, and its uses in expressions follow.
A property `{ useRouter }` and an export list do not: there the old name stays, though nothing is
imported under it any more.

## Main Definitions

* `Use.renamed` — a use after hooks were renamed
* `MapsHook` — an import whose hook gets the name that it has in the router

## Main Statements

* `uses_renameHooks` — renaming hooks changes the uses in expressions, and no others
* `exists_router_name` — a mapped hook is imported under its name in the router
* `moduleUses_mapHooks` — so does the step
* `old_hook_name_remains_iff` — when the old name of a hook is still used after the step
* `property_keeps_old_hook_name` — a module in which it is
-/

namespace RouteMigration.Migration

variable {items : List Node} {h : String}

/-! ### Uses after the step -/

/-- A use after hooks were renamed.  Only where a value is read does the name follow. -/
def Use.renamed (renames : List HookRename) : Use → Use
  | read name => read (renamedHook renames name)
  | use => use

theorem renameHooks_eq_step (renames : List HookRename) (f : Form) (s : Option Span)
    (ps : List Node) :
    renameHooks renames (.mk f s ps) =
      renameStep renames f s (ps.map fun p => (p, renameHooks renames p)) :=
  Node.fold_mk _ f s ps

/-- Most forms are rebuilt from their parts. -/
theorem renameHooks_mk (renames : List HookRename) {f : Form} (htype : ∀ t, f ≠ .type t)
    (href : ∀ name, f ≠ .ref name) (hcall : f ≠ .call) (s : Option Span) (ps : List Node) :
    renameHooks renames (.mk f s ps) = .mk f s (ps.map (renameHooks renames)) := by
  rw [renameHooks_eq_step]
  unfold renameStep
  split
  · exact absurd rfl (htype _)
  · exact absurd rfl (href _)
  · exact absurd rfl hcall
  · rw [Node.map_snd_walk]

/-- A call stays a call of the renamed parts, perhaps with a member taken of it; its type arguments
may be left as they are. -/
theorem renameHooks_call (renames : List HookRename) (s : Option Span) (ps : List Node) :
    ∃ ps', usingParts id .call ps' = (usingParts id .call ps).map (renameHooks renames) ∧
      (renameHooks renames (.mk .call s ps) = .mk .call s ps' ∨
        renameHooks renames (.mk .call s ps) =
          .member none (.mk .call s ps') (.word none "pathname")) := by
  have hplain : usingParts id .call (ps.map (renameHooks renames)) =
      (usingParts id .call ps).map (renameHooks renames) := by
    rcases ps with _ | ⟨callee, _ | ⟨types, args⟩⟩
    · rfl
    · rfl
    · rfl
  rw [renameHooks_eq_step]
  unfold renameStep
  split
  · next heq => cases heq
  · next heq => cases heq
  · next name cs cps callee types types' args heq =>
    obtain ⟨p, rest, rfl, hp, hrest⟩ := List.map_eq_cons_iff.mp heq
    obtain ⟨q, args', rfl, hq, rfl⟩ := List.map_eq_cons_iff.mp hrest
    obtain ⟨rfl, rfl⟩ := Prod.mk.inj hp
    obtain ⟨rfl, -⟩ := Prod.mk.inj hq
    rw [Node.map_snd_walk]
    refine ⟨renameHooks renames _ :: q :: args'.map (renameHooks renames), rfl, ?_⟩
    split
    · split
      · exact Or.inr rfl
      · exact Or.inl rfl
    · exact Or.inl rfl
  · rw [Node.map_snd_walk]
    exact ⟨ps.map (renameHooks renames), hplain, Or.inl rfl⟩

theorem absent_renameHooks (renames : List HookRename) (n : Node) :
    (renameHooks renames n).form = .absent ↔ n.form = .absent :=
  (rebuilds_renameHooks renames).form_eq_iff rfl n

/-- **Renaming hooks.**  The uses in expressions are renamed, and the others stay. -/
theorem uses_renameHooks (renames : List HookRename) (n : Node) :
    uses (renameHooks renames n) = (uses n).map (Use.renamed renames) := by
  induction n using Node.induct with
  | mk f s ps ih =>
    have hparts : (usingParts id f ps).flatMap (fun p => uses (renameHooks renames p)) =
        ((usingParts id f ps).flatMap uses).map (Use.renamed renames) := by
      rw [List.map_flatMap]
      exact List.flatMap_congr fun p hp => ih p (mem_of_mem_usingParts hp)
    by_cases htype : ∃ t, f = .type t
    · obtain ⟨t, rfl⟩ := htype
      have hsame : renameHooks renames (.mk (.type t) s ps) = .mk (.type t) s ps := by
        rw [renameHooks, Node.fold_mk, renameStep, Node.map_fst_walk]
      rw [hsame, uses_mk]
      rfl
    by_cases href : ∃ name, f = .ref name
    · obtain ⟨name, rfl⟩ := href
      have hform := form_renameHooks_ref renames name s ps
      generalize renameHooks renames (.mk (.ref name) s ps) = n at hform ⊢
      obtain ⟨g, s', ps'⟩ := n
      obtain rfl : g = .ref (renamedHook renames name) := hform
      rw [uses_mk, uses_mk]
      rfl
    by_cases hcall : f = .call
    · subst hcall
      obtain ⟨ps', hps', heq⟩ := renameHooks_call renames s ps
      have hmember : ∀ n : Node, uses (.member none n (.word none "pathname")) = uses n := by
        intro n
        rw [uses_mk]
        show uses n ++ (uses (.word none "pathname") ++ []) = uses n
        rw [uses_mk]
        exact List.append_nil _
      have huses : uses (renameHooks renames (.mk .call s ps)) = uses (.mk .call s ps') := by
        rcases heq with heq | heq
        · rw [heq]
        · rw [heq, hmember]
      rw [huses, uses_mk, uses_mk, hps', List.flatMap_map, hparts]
      rfl
    · have hrebuilt := renameHooks_mk renames (fun t ht => htype ⟨t, ht⟩)
        (fun name hname => href ⟨name, hname⟩) hcall s ps
      have hown : (ownUses f).map (Use.renamed renames) = ownUses f := by
        cases f with
        | ref name => exact absurd ⟨name, rfl⟩ href
        | _ => rfl
      rw [hrebuilt, uses_mk_map f s ps fun p _ => absent_renameHooks renames p, uses_mk,
        List.map_append, hown, hparts]

/-! ### Imports of hooks -/

/-- A specifier binds a name and uses none, before and after it is mapped. -/
theorem uses_mapSpecifier (sp : Node) : uses (mapSpecifier sp).1 = uses sp := by
  unfold mapSpecifier
  split
  · next form s first second nameSpan ps imported name hnames =>
    split
    · rfl
    · next symbol =>
      have hform : ∃ isTypeOnly, form = .importNamed isTypeOnly := by
        unfold specifierNames? at hnames
        split at hnames
        case h_4 => cases hnames
        all_goals
          next heq =>
          exact ⟨_, (Node.mk.inj heq).1⟩
      obtain ⟨isTypeOnly, rfl⟩ := hform
      dsimp only
      split
      · rw [uses_mk, uses_mk]
        rfl
      · rw [uses_mk, uses_mk]
        rfl
  · rfl

theorem uses_importDecl (s : Option Span) (isTypeOnly : Bool) (phase : ImportPhase)
    (specifiers : List Node) (source attributes : Node) :
    uses (.importDecl s isTypeOnly phase specifiers source attributes) =
      specifiers.flatMap uses ++ (uses source ++ uses attributes) := by
  rw [uses_mk]
  show uses (.seq specifiers) ++ (uses source ++ (uses attributes ++ [])) = _
  rw [uses_mk, List.append_nil]
  rfl

/-- Mapping an import changes no use of a name. -/
theorem uses_mapImport (item : Node) : uses ((mapImport item).apply item) = uses item := by
  unfold mapImport
  split
  · next isTypeOnly phase s specifiers source raw ss attributes =>
    split
    · rfl
    · split
      · rfl
      · have hspecifiers : ((specifiers.map mapSpecifier).map (·.1)).flatMap uses =
            specifiers.flatMap uses := by
          rw [List.map_map, List.flatMap_map]
          exact List.flatMap_congr fun sp _ => uses_mapSpecifier sp
        have hsource : uses (Build.str routerPackage) = uses (.str ss source raw) := rfl
        show uses (.importDecl _ _ _ ((specifiers.map mapSpecifier).map (·.1)) _ _) = _
        rw [uses_importDecl, uses_importDecl, hspecifiers, hsource]
  · rfl

/-- **The step.**  The uses in expressions are renamed, and the others stay. -/
theorem moduleUses_mapHooks (items : List Node) (s : State) :
    moduleUses (mapHooks items s).items =
      (moduleUses items).map (Use.renamed (hookRenames items)) := by
  rw [mapHooks_items, moduleUses, List.flatMap_map, moduleUses, List.map_flatMap]
  refine List.flatMap_congr fun item _ => ?_
  rw [uses_renameHooks, uses_mapImport]

/-! ### Mapped hooks -/

/-- The item imports the hook from the navigation module under its own name, and is mapped, so that
the hook gets its name in the router. -/
def MapsHook (h : String) (item : Node) : Prop :=
  ∃ s phase specifiers ss raw attributes,
    item = .importDecl s false phase specifiers (.str ss navigationSource raw) attributes ∧
      specifiers.all isMappable = true ∧ (hookSymbol? h).isSome = true ∧
      ∃ sp ∈ specifiers, specifierNames? sp = some (h, h)

/-- The specifier of a hook under its own name binds the name that the hook has in the router. -/
theorem localName?_mapSpecifier {sp : Node} {symbol : RouterSymbol}
    (hnames : specifierNames? sp = some (h, h)) (hsymbol : hookSymbol? h = some symbol) :
    localName? (mapSpecifier sp).1 = some symbol.name := by
  have hshape : ∃ isTypeOnly s first ns ps, sp = .mk (.importNamed isTypeOnly) s
      [first, .mk (.ident h) ns ps] := by
    unfold specifierNames? at hnames
    split at hnames
    case h_4 => cases hnames
    all_goals
      obtain ⟨-, rfl⟩ := Prod.mk.inj (Option.some.inj hnames)
      exact ⟨_, _, _, _, _, rfl⟩
  obtain ⟨isTypeOnly, s, first, ns, ps, rfl⟩ := hshape
  unfold mapSpecifier
  simp only [hnames, hsymbol, bne_self_eq_false, Bool.false_eq_true, if_false]
  rfl

/-- **New names.**  A mapped hook is imported under the name that it has in the router. -/
theorem exists_router_name (hmaps : ∃ item ∈ items, MapsHook h item) (s : State) :
    ∃ symbol, hookSymbol? h = some symbol ∧
      some symbol.name ∈ (mapHooks items s).items.flatMap localNames := by
  obtain ⟨item, hitem, is, phase, specifiers, ss, raw, attributes, rfl, hall, hsome, sp, hsp,
    hnames⟩ := hmaps
  obtain ⟨symbol, hsymbol⟩ := Option.isSome_iff_exists.mp hsome
  have hmapped : (mapImport (.importDecl is false phase specifiers (.str ss navigationSource raw)
      attributes)).apply (.importDecl is false phase specifiers (.str ss navigationSource raw)
      attributes) = .importDecl is false phase ((specifiers.map mapSpecifier).map (·.1))
        (Build.str routerPackage) attributes := by
    simp [mapImport, hall, HookImport.apply]
  refine ⟨symbol, hsymbol, ?_⟩
  rw [mapHooks_items, List.flatMap_map]
  refine List.mem_flatMap.mpr ⟨_, hitem, ?_⟩
  have hwalk := rewrites_renameHooks (hookRenames items)
  have hmem : (mapSpecifier sp).1 ∈ (specifiers.map mapSpecifier).map (·.1) :=
    List.mem_map_of_mem (List.mem_map_of_mem hsp)
  rw [hmapped, Build.str, walk_importDecl hwalk]
  refine List.mem_map.mpr ⟨_, List.mem_map_of_mem hmem, ?_⟩
  rw [localName?_walk hwalk]
  exact localName?_mapSpecifier hnames hsymbol

/-- A hook keeps its local name, or gets the one that it has in the router. -/
theorem toName_of_mem_hookRenames {r : HookRename} (hr : r ∈ hookRenames items) :
    r.toName = r.fromName ∨ ∃ symbol, hookSymbol? r.fromName = some symbol ∧
      r.toName = symbol.name := by
  obtain ⟨⟨r', symbol⟩, hfound, rfl⟩ := List.mem_map.mp hr
  obtain ⟨item, -, hrenames⟩ := List.mem_flatMap.mp hfound
  unfold mapImport at hrenames
  split at hrenames
  · split at hrenames
    · cases hrenames
    · split at hrenames
      · cases hrenames
      · obtain ⟨p, hp, heq⟩ := List.mem_filterMap.mp hrenames
        obtain ⟨sp, -, rfl⟩ := List.mem_map.mp hp
        unfold mapSpecifier at heq
        split at heq
        · next imported name hnames =>
          split at heq
          · cases heq
          · next symbol' hsymbol =>
            dsimp only at heq
            split at heq
            · obtain ⟨rfl, rfl⟩ := Prod.mk.inj (Option.some.inj heq)
              exact Or.inl rfl
            · next hname =>
              obtain ⟨rfl, rfl⟩ := Prod.mk.inj (Option.some.inj heq)
              obtain rfl : name = imported := by simpa using hname
              exact Or.inr ⟨symbol', hsymbol, rfl⟩
        · cases heq
  · cases hrenames

/-- The router has no hook of the old name. -/
theorem hookSymbol?_name {name : String} {symbol : RouterSymbol}
    (h : hookSymbol? name = some symbol) : hookSymbol? symbol.name = none := by
  unfold hookSymbol? at h
  split at h
  · cases h
    decide
  · split at h
    · cases h
      decide
    · split at h
      · cases h
        decide
      · cases h

/-- **Which names stay.**  Only the hook itself keeps or gets its old name. -/
theorem renamedHook_eq_iff (hmaps : ∃ item ∈ items, MapsHook h item) (name : String) :
    renamedHook (hookRenames items) name = h ↔
      name = h ∧ renamedHook (hookRenames items) h = h := by
  constructor
  · intro heq
    suffices hname : name = h from ⟨hname, hname ▸ heq⟩
    unfold renamedHook at heq
    cases hfind : findRename? (hookRenames items) name with
    | none =>
      rw [hfind] at heq
      exact heq
    | some r =>
      rw [hfind] at heq
      have hto : r.toName = h := heq
      rw [findRename?] at hfind
      have hfrom : r.fromName = name := by simpa using List.find?_some hfind
      have hr : r ∈ hookRenames items := List.mem_reverse.mp (List.mem_of_find?_eq_some hfind)
      rcases toName_of_mem_hookRenames hr with hsame | ⟨symbol, hsymbol, hrouter⟩
      · rw [← hfrom, ← hsame, hto]
      · -- the router has no hook of a name that is mapped to it
        have hnone := hookSymbol?_name hsymbol
        rw [← hrouter, hto] at hnone
        obtain ⟨item, -, s, phase, specifiers, ss, raw, attributes, -, -, hsome, -⟩ := hmaps
        rw [hnone] at hsome
        cases hsome
  · rintro ⟨rfl, heq⟩
    exact heq

/-- **Uses of the old name.**  A property or an export list keeps it; an expression does only where
a later import gives the name to another hook. -/
theorem exists_use_mapHooks_iff (hmaps : ∃ item ∈ items, MapsHook h item) (s : State) :
    (∃ u ∈ moduleUses (mapHooks items s).items, u.name = h) ↔
      .property h ∈ moduleUses items ∨ .exported h ∈ moduleUses items ∨
        .read h ∈ moduleUses items ∧ renamedHook (hookRenames items) h = h := by
  rw [moduleUses_mapHooks]
  constructor
  · rintro ⟨u, hu, hname⟩
    obtain ⟨use, huse, rfl⟩ := List.mem_map.mp hu
    cases use with
    | read name =>
      obtain ⟨rfl, hsame⟩ := (renamedHook_eq_iff hmaps name).mp hname
      exact Or.inr (Or.inr ⟨huse, hsame⟩)
    | property name =>
      obtain rfl : name = h := hname
      exact Or.inl huse
    | exported name =>
      obtain rfl : name = h := hname
      exact Or.inr (Or.inl huse)
  · rintro (huse | huse | ⟨huse, hsame⟩)
    · exact ⟨.property h, List.mem_map.mpr ⟨_, huse, rfl⟩, rfl⟩
    · exact ⟨.exported h, List.mem_map.mpr ⟨_, huse, rfl⟩, rfl⟩
    · exact ⟨.read h, List.mem_map.mpr ⟨_, huse, congrArg Use.read hsame⟩, rfl⟩

/-! ### Imports that are kept -/

/-- An import of the navigation module is kept if it is for types or has a specifier without a
counterpart. -/
theorem mapImport_eq_kept {s ss : Option Span} {isTypeOnly : Bool} {phase : ImportPhase}
    {specifiers : List Node} {raw : Option String} {attributes : Node}
    (hkept : isTypeOnly = true ∨ ∃ sp ∈ specifiers, isMappable sp = false) :
    mapImport (.importDecl s isTypeOnly phase specifiers (.str ss navigationSource raw)
      attributes) = .kept := by
  have hguard : (isTypeOnly || !specifiers.all isMappable) = true := by
    rcases hkept with rfl | ⟨sp, hsp, hmappable⟩
    · rfl
    · have hall : specifiers.all isMappable = false :=
        List.all_eq_false.mpr ⟨sp, hsp, by simp [hmappable]⟩
      rw [hall, Bool.not_false, Bool.or_true]
  dsimp only [mapImport]
  rw [if_neg (by simp), if_pos hguard]

/-- After the step, exactly the imports that are kept import from the navigation module. -/
theorem importSource?_mapImport_iff (item : Node) :
    Shape.importSource? ((mapImport item).apply item) = some navigationSource ↔
      (mapImport item).isKept = true := by
  unfold mapImport
  split
  · next isTypeOnly phase s specifiers source raw ss attributes =>
    split
    · next hne =>
      have hsource : source ≠ navigationSource := by simpa using hne
      exact iff_of_false (fun heq => hsource (Option.some.inj heq)) (by simp [HookImport.isKept])
    · next heq =>
      obtain rfl : source = navigationSource := by simpa using heq
      split
      · exact iff_of_true rfl rfl
      · refine iff_of_false (fun heq => ?_) (by simp [HookImport.isKept])
        exact absurd (Option.some.inj heq) (by decide)
  · next hne =>
    refine iff_of_false (fun heq => ?_) (by simp [HookImport.isKept])
    obtain ⟨s, t, p, specifiers, ss, raw, a, rfl⟩ := importSource?_eq_some.mp heq
    exact hne _ _ _ _ _ _ _ _ rfl

/-- **Warnings.**  There is one for each import of the navigation module that is left. -/
theorem length_navigation_warnings (items : List Node) (s : State) :
    ((mapHooks items s).warnings.filter (·.code = "W-NAV-001")).length =
      (importSources (mapHooks items s).items).count navigationSource := by
  have hsources : importSources (mapHooks items s).items =
      items.filterMap fun item => Shape.importSource? ((mapImport item).apply item) := by
    rw [mapHooks_items, importSources, List.filterMap_map]
    exact List.filterMap_congr fun item _ =>
      importSource?_walk (rewrites_renameHooks (hookRenames items)) _
  have hkept : (((items.map mapImport).filter (·.isKept)).map
      fun _ => Warning.navigationKept).filter (·.code = "W-NAV-001") =
        ((items.map mapImport).filter (·.isKept)).map fun _ => Warning.navigationKept := by
    refine List.filter_eq_self.mpr fun w hw => ?_
    obtain ⟨-, -, rfl⟩ := List.mem_map.mp hw
    decide
  have hcalls : ∀ b : Bool, (if b then [Warning.navigateCalls] else []).filter
      (·.code = "W-NAV-001") = [] := by
    decide
  have hwarnings : (mapHooks items s).warnings.filter (·.code = "W-NAV-001") =
      ((items.map mapImport).filter (·.isKept)).map fun _ => .navigationKept := by
    show List.filter _ (_ ++ _) = _
    rw [List.filter_append, hkept, hcalls, List.append_nil]
  rw [hwarnings, hsources, List.length_map, ← List.countP_eq_length_filter, List.countP_map,
    List.count_filterMap]
  refine List.countP_congr fun item _ => ?_
  rw [beq_iff_eq, importSource?_mapImport_iff]
  rfl

/-- **Renamed hooks.**  Where a hook is renamed, it is imported under its name in the router, and
its old name is used afterwards if and only if it was a property `{ name }` or in an export list, or
is the local name of another hook as well.  Imports that are kept bind the names that they did, and
there is one warning for each of them. -/
theorem old_hook_name_remains_iff (items : List Node) (s : State) (h : String)
    (hmaps : ∃ item ∈ items, MapsHook h item) :
    let after := mapHooks items s
    (∃ symbol, hookSymbol? h = some symbol ∧
      some symbol.name ∈ after.items.flatMap localNames) ∧
    ((∃ u ∈ moduleUses after.items, u.name = h) ↔
      .property h ∈ moduleUses items ∨ .exported h ∈ moduleUses items ∨
        .read h ∈ moduleUses items ∧ renamedHook (hookRenames items) h = h) ∧
    (∀ (i : Nat) is isTypeOnly phase specifiers ss raw attributes,
      items[i]? = some (.importDecl is isTypeOnly phase specifiers
        (.str ss navigationSource raw) attributes) →
      (isTypeOnly = true ∨ ∃ sp ∈ specifiers, isMappable sp = false) →
      ∃ specifiers' attributes', after.items[i]? = some (.importDecl is isTypeOnly phase specifiers'
          (.str ss navigationSource raw) attributes') ∧
        specifiers'.map localName? = specifiers.map localName?) ∧
    (after.warnings.filter (·.code = "W-NAV-001")).length =
      (importSources after.items).count navigationSource := by
  intro after
  refine ⟨exists_router_name hmaps s, exists_use_mapHooks_iff hmaps s, ?_,
    length_navigation_warnings items s⟩
  intro i is isTypeOnly phase specifiers ss raw attributes hitem hkept
  have hwalk := rewrites_renameHooks (hookRenames items)
  refine ⟨specifiers.map (renameHooks (hookRenames items)),
    renameHooks (hookRenames items) attributes, ?_, ?_⟩
  · rw [mapHooks_items, List.getElem?_map, hitem, Option.map_some, mapImport_eq_kept hkept]
    exact congrArg some (walk_importDecl hwalk is isTypeOnly phase specifiers ss _ raw attributes)
  · rw [List.map_map]
    exact List.map_congr_left fun sp _ => localName?_walk hwalk sp

/-- `import { useRouter } from "next/navigation"; export const hooks = { useRouter };` -/
def hookProperty : List Node :=
  [Build.namedImport [("useRouter", "useRouter")] navigationSource,
    Build.exported (Build.constDecl "hooks" (Build.object [.mk (.shorthand "useRouter") none []]))]

/-- A hook that is given as a property is imported under its new name and used under its old one. -/
theorem property_keeps_old_hook_name :
    (∃ item ∈ hookProperty, MapsHook "useRouter" item) ∧
      (∃ u ∈ moduleUses (mapHooks hookProperty { options := {} }).items, u.name = "useRouter") ∧
      (mapHooks hookProperty { options := {} }).items.flatMap localNames =
        [some "useNavigate"] := by
  have hmaps : ∃ item ∈ hookProperty, MapsHook "useRouter" item :=
    ⟨_, List.mem_cons_self, none, .evaluation, _, none, none, .absent, rfl, rfl, rfl, _,
      List.mem_singleton_self _, rfl⟩
  have hremains := (old_hook_name_remains_iff hookProperty { options := {} } "useRouter" hmaps).2.1
  exact ⟨hmaps, hremains.mpr (Or.inl (by decide)), by decide⟩

end RouteMigration.Migration
