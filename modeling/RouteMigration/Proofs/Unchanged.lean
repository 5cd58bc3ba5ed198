import RouteMigration.Module.Outline
import RouteMigration.Proofs.Registration

/-!
# Trees that the walks leave alone

Three walks change expressions all over a module: hooks are renamed, elements are normalized and
`className` attributes are cleaned.  Each of them looks for something, and a tree without it comes
out as it went in.

## Main Definitions

* `hookRenames` — how the uses of hooks change in a module
* `isRewritten` — the forms that one of the walks may change

## Main Statements

* `renameHooks_eq_self` — a tree that mentions no hook is not changed
* `mapHooks_items` — the step that maps hooks, item by item
* `normalize_eq_self` — nor is one without links and images
* `importSource?_walk` — an import declaration keeps its source under any of the walks
-/

namespace RouteMigration.Migration

theorem map_eq_self {walk : Node → Node} {ps : List Node} (h : ∀ p ∈ ps, walk p = p) :
    ps.map walk = ps :=
  (List.map_congr_left h).trans (List.map_id ps)

/-! ### Hooks -/

theorem mentions_mk {names : NameSet} {f : Form} (htype : ∀ t, f ≠ .type t)
    (href : ∀ name, f ≠ .ref name) (s : Option Span) (ps : List Node) :
    mentions names (.mk f s ps) = ps.any (mentions names) := by
  rw [mentions, Node.fold_mk]
  unfold mentionsStep
  split
  · exact absurd rfl (htype _)
  · exact absurd rfl (href _)
  · simp [List.any_map, Function.comp_def]

/-- The names cover all that is renamed. -/
def Covers (names : NameSet) (renames : List HookRename) : Prop :=
  ∀ r ∈ renames, names.contains r.fromName = true

theorem findRename?_eq_none {names : NameSet} {renames : List HookRename} {name : String}
    (hcovers : Covers names renames) (h : names.contains name = false) :
    findRename? renames name = none := by
  rw [findRename?, List.find?_eq_none]
  intro r hr
  have hcontains := hcovers r (List.mem_reverse.mp hr)
  intro heq
  rw [of_decide_eq_true heq, h] at hcontains
  cases hcontains

/-- **Trees without hooks.**  A tree that mentions none of the renamed hooks stays as it is. -/
theorem renameHooks_eq_self {names : NameSet} {renames : List HookRename}
    (hcovers : Covers names renames) {n : Node} (h : mentions names n = false) :
    renameHooks renames n = n := by
  induction n using Node.induct with
  | mk f s ps ih =>
    have hparts : (∀ t, f ≠ .type t) → (∀ name, f ≠ .ref name) →
        ∀ p ∈ ps, mentions names p = false ∧ renameHooks renames p = p := by
      intro htype href p hp
      rw [mentions_mk htype href, List.any_eq_false] at h
      have hp' := Bool.eq_false_iff.mpr (h p hp)
      exact ⟨hp', ih p hp hp'⟩
    rw [renameHooks, Node.fold_mk]
    unfold renameStep
    split
    · rw [Node.map_fst_walk]
    · rw [mentions_ref] at h
      rw [findRename?_eq_none hcovers h]
      dsimp only
      rw [Node.map_fst_walk]
    · next name cs cps callee types types' args heq =>
      -- the types of a call are not walked over, and its callee is no hook
      obtain ⟨p, rest, rfl, hp, hrest⟩ := List.map_eq_cons_iff.mp heq
      obtain ⟨q, args', rfl, hq, rfl⟩ := List.map_eq_cons_iff.mp hrest
      obtain ⟨rfl, rfl⟩ := Prod.mk.inj hp
      obtain ⟨rfl, -⟩ := Prod.mk.inj hq
      have hparts := hparts (by simp) (by simp)
      obtain ⟨hcallee, hcallee'⟩ := hparts _ (List.mem_cons_self ..)
      rw [mentions_ref] at hcallee
      rw [findRename?_eq_none hcovers hcallee, Node.map_snd_walk]
      have hargs : args'.map (renameHooks renames) = args' :=
        map_eq_self fun p hp => (hparts p (List.mem_cons_of_mem _ (List.mem_cons_of_mem _ hp))).2
      show Node.mk .call s (renameHooks renames _ :: _ :: args'.map (renameHooks renames)) = _
      rw [hcallee', hargs]
    · next htype href _ =>
      rw [Node.map_snd_walk]
      have hsame : ps.map (renameHooks renames) = ps :=
        map_eq_self fun p hp => (hparts htype href p hp).2
      exact congrArg (Node.mk _ s) hsame

theorem mentions_empty (n : Node) : mentions .empty n = false := by
  induction n using Node.induct with
  | mk f s ps ih =>
    rw [mentions, Node.fold_mk]
    unfold mentionsStep
    split
    · rfl
    · rfl
    · rw [List.any_map, List.any_eq_false]
      intro p hp
      exact Bool.eq_false_iff.mp (ih p hp)

/-- Without hooks nothing is renamed. -/
theorem renameHooks_nil (n : Node) : renameHooks [] n = n := by
  have hcovers : Covers .empty [] := by simp [Covers]
  exact renameHooks_eq_self hcovers (mentions_empty n)

/-- How the uses of hooks change on account of the imports of a module. -/
def hookRenames (items : List Node) : List HookRename :=
  (items.flatMap fun item => (mapImport item).renames).map (·.1)

/-- **The step, item by item.**  Imports are mapped and the uses of hooks renamed. -/
theorem mapHooks_items (items : List Node) (s : State) :
    (mapHooks items s).items =
      items.map fun item => renameHooks (hookRenames items) ((mapImport item).apply item) := by
  have hfound : ((items.map mapImport).flatMap (·.renames)).map (·.1) = hookRenames items := by
    rw [hookRenames, List.flatMap_map]
  unfold mapHooks
  dsimp only
  rw [hfound]
  split
  · next hempty =>
    rw [List.isEmpty_iff] at hempty
    refine List.map_congr_left fun item _ => ?_
    rw [hempty, renameHooks_nil]
  · rw [List.map_map]
    rfl

/-! ### Links and images -/

theorem elements_mk (f : Form) (s : Option Span) (ps : List Node) :
    ElementOutline.all (.mk f s ps) =
      (ElementOutline.of? (.mk f s ps)).toList ++ ps.flatMap ElementOutline.all := by
  rw [ElementOutline.all, Node.fold_mk, Node.map_fst_walk, List.flatMap_map]

/-- An element that is a link or an image is one that the outline shows as such. -/
theorem exists_outline_of_known {n : Node} {c : KnownComponent}
    (h : KnownComponent.of? n = some c) : ∃ e ∈ ElementOutline.all n, e.known = some c := by
  obtain ⟨f, s, ps⟩ := n
  have hsome : ∃ e, ElementOutline.of? (.mk f s ps) = some e ∧ e.known = some c := by
    unfold ElementOutline.of?
    split
    · exact ⟨_, rfl, h⟩
    · next hne =>
      unfold KnownComponent.of? Shape.tag? at h
      split at h
      · next heq =>
        split at heq
        · next hn => exact absurd hn (hne _ _ _ _ _ _ _ _)
        · cases heq
      · cases h
  obtain ⟨e, he, hknown⟩ := hsome
  refine ⟨e, ?_, hknown⟩
  rw [elements_mk, he]
  exact List.mem_append_left _ (List.mem_singleton_self e)

theorem normalElement_of_none {n : Node} (h : KnownComponent.of? n = none) :
    normalElement n = n := by
  unfold normalElement
  rw [h]

/-- **Trees without links and images.**  They stay as they are. -/
theorem normalize_eq_self {n : Node} (h : ∀ e ∈ ElementOutline.all n, e.known = none) :
    normalize n = n := by
  induction n using Node.induct with
  | mk f s ps ih =>
    have hparts : ∀ p ∈ ps, normalize p = p := by
      intro p hp
      refine ih p hp fun e he => h e ?_
      rw [elements_mk]
      exact List.mem_append_right _ (List.mem_flatMap.mpr ⟨p, hp, he⟩)
    have hroot : KnownComponent.of? (.mk f s ps) = none := by
      refine Option.eq_none_iff_forall_ne_some.mpr fun c hc => ?_
      obtain ⟨e, he, hknown⟩ := exists_outline_of_known hc
      rw [h e he] at hknown
      cases hknown
    rw [normalize, Node.fold_mk]
    unfold normalizeStep
    split
    · rw [Node.map_fst_walk]
    · rw [Node.map_snd_walk]
      show normalElement (.mk f s (ps.map normalize)) = _
      rw [map_eq_self hparts]
      exact normalElement_of_none hroot

/-! ### Sources of imports -/

/-- The forms that one of the walks may change. -/
def isRewritten (f : Form) : Bool := isRenamed f || isNormalized f || isCleaned f

theorem rewrites_renameHooks (renames : List HookRename) :
    Rebuilds isRewritten (renameHooks renames) :=
  (rebuilds_renameHooks renames).mono fun f hf => by simp [isRewritten, hf]

theorem rewrites_normalize : Rebuilds isRewritten normalize :=
  rebuilds_normalize.mono fun f hf => by simp [isRewritten, hf]

theorem rewrites_cleanClassNames (names : NameSet) :
    Rebuilds isRewritten (cleanClassNames names) :=
  (rebuilds_cleanClassNames names).mono fun f hf => by simp [isRewritten, hf]

/-- None of them changes where names are bound. -/
theorem keepsNames_of_rewrites {walk : Node → Node} (hwalk : Rebuilds isRewritten walk) :
    Keeps keptForNames walk := by
  refine hwalk.keeps fun f hf => ?_
  cases f
  all_goals first | rfl | cases hf

theorem importSource?_eq_some {item : Node} {source : String} :
    Shape.importSource? item = some source ↔
      ∃ s isTypeOnly phase specifiers ss raw attributes,
        item = .importDecl s isTypeOnly phase specifiers (.str ss source raw) attributes := by
  constructor
  · intro h
    unfold Shape.importSource? at h
    split at h
    · cases h
      exact ⟨_, _, _, _, _, _, _, rfl⟩
    · cases h
  · rintro ⟨s, isTypeOnly, phase, specifiers, ss, raw, attributes, rfl⟩
    rfl

/-- An import declaration keeps its source, and nothing becomes an import declaration. -/
theorem importSource?_walk {walk : Node → Node} (hwalk : Rebuilds isRewritten walk) (item : Node) :
    Shape.importSource? (walk item) = Shape.importSource? item := by
  refine Option.ext fun source => ?_
  rw [importSource?_eq_some, importSource?_eq_some]
  constructor
  · rintro ⟨s, isTypeOnly, phase, specifiers, ss, raw, attributes, heq⟩
    obtain ⟨ps, rfl, hps⟩ := hwalk.of_eq rfl heq
    obtain ⟨p, rest, rfl, hp, hrest⟩ := List.map_eq_cons_iff.mp hps
    obtain ⟨q, rest', rfl, hq, hrest'⟩ := List.map_eq_cons_iff.mp hrest
    obtain ⟨a, rest'', rfl, -, hnil⟩ := List.map_eq_cons_iff.mp hrest'
    obtain rfl := List.map_eq_nil_iff.mp hnil
    obtain ⟨ps, rfl, -⟩ := hwalk.of_eq rfl hp
    obtain ⟨qs, rfl, hqs⟩ := hwalk.of_eq rfl hq
    obtain rfl := List.map_eq_nil_iff.mp hqs
    exact ⟨s, isTypeOnly, phase, ps, ss, raw, a, rfl⟩
  · rintro ⟨s, isTypeOnly, phase, specifiers, ss, raw, attributes, rfl⟩
    rw [hwalk.plain s _ rfl]
    simp only [List.map_cons, List.map_nil]
    rw [hwalk.plain none specifiers rfl, hwalk.plain ss [] rfl]
    exact ⟨s, isTypeOnly, phase, _, ss, raw, _, rfl⟩

/-! ### Fonts -/

theorem dropSpecifiers_of_not_font {names : NameSet} {item : Node}
    (h : ∀ source, Shape.importSource? item = some source → isFontSource source = false) :
    dropSpecifiers names item = [item] := by
  unfold dropSpecifiers
  split
  · next isTypeOnly phase s specifiers source raw ss attributes =>
    rw [if_neg (by simp [h source rfl])]
  · rfl

/-- An item that declares no variable and imports no font is only cleaned. -/
theorem fontless_eq_singleton {removed dropped : NameSet} {item : Node}
    (hdeclarators : Shape.declarators? item = none)
    (hsource : ∀ source, Shape.importSource? item = some source → isFontSource source = false) :
    fontless removed dropped item = [cleanClassNames removed item] := by
  have hspecifiers : dropSpecifiers dropped (cleanClassNames removed item) =
      [cleanClassNames removed item] := by
    refine dropSpecifiers_of_not_font fun source h => hsource source ?_
    rwa [importSource?_walk (rewrites_cleanClassNames removed)] at h
  rw [fontless, dropDeclarators_of_none hdeclarators, List.map_singleton]
  split
  · rfl
  · rw [List.flatMap_singleton, hspecifiers]

/-- What is left of an item has a form that the walk gives to the item's own. -/
theorem form_of_mem_fontless {removed dropped : NameSet} {item n : Node}
    (h : n ∈ fontless removed dropped item) :
    ∃ d : Node, d.form = item.form ∧ n.form = (cleanClassNames removed d).form := by
  have hcleaned : ∀ n ∈ (dropDeclarators removed item).map (cleanClassNames removed),
      ∃ d : Node, d.form = item.form ∧ n.form = (cleanClassNames removed d).form := by
    intro n hn
    obtain ⟨d, hd, rfl⟩ := List.mem_map.mp hn
    refine ⟨d, ?_, rfl⟩
    rcases dropDeclarators_cases hd with ⟨rfl, -⟩ | ⟨s, kind, isDeclare, ds, rfl, -, rfl⟩
    · rfl
    · rfl
  unfold fontless at h
  dsimp only at h
  split at h
  · exact hcleaned n h
  · obtain ⟨n', hn', h⟩ := List.mem_flatMap.mp h
    obtain ⟨d, hd, hform⟩ := hcleaned n' hn'
    refine ⟨d, hd, ?_⟩
    rw [← hform]
    rcases dropSpecifiers_cases h with ⟨rfl, -⟩ | ⟨s, t, p, specifiers, ss, source, raw, a, rfl, -,
      rfl⟩
    · rfl
    · rfl

end RouteMigration.Migration
