import RouteMigration.Proofs.HookRenames

/-!
# Default exports through a migration

A function that a module exports by default is bound to a name in place of the export.  A name that
it exports by default stays exported, but it is an expression like any other, and the walks over
expressions do not pass it by.

## Main Definitions

* `defaultExports` — the items that export something by default
* `renamedHook` — what a name becomes when hooks are renamed
* `IsWrappedName` — a name in parentheses or under types

## Main Statements

* `bindComponent_of_sole` — what becomes of the only default export when the component is bound
* `defaultExports_migrate` — the default exports in the end are those that were left then, changed
  by the walks
* `of?_walk` — a name that is exported by default is exported under the name that the walk gives it
* `IsWrappedName.walk_eq` — an exported name that a walk leaves alone is left with all around it
-/

namespace RouteMigration.Migration

variable {items : List Node} {item : Node} {name : String}

/-- The item exports something by default. -/
def isDefaultExport (item : Node) : Bool :=
  item.form = .exportDefaultDecl || item.form = .exportDefaultExpr

theorem isDefaultExport_congr {n n' : Node} (h : n.form = n'.form) :
    isDefaultExport n = isDefaultExport n' := by
  rw [isDefaultExport, isDefaultExport, h]

/-- The items that export something by default. -/
def defaultExports (items : List Node) : List Node := items.filter isDefaultExport

theorem defaultExports_append (items items' : List Node) :
    defaultExports (items ++ items') = defaultExports items ++ defaultExports items' :=
  List.filter_append items items'

theorem defaultExports_cons_of_not (h : isDefaultExport item = false) (items : List Node) :
    defaultExports (item :: items) = defaultExports items :=
  List.filter_cons_of_neg (by simp [h])

theorem defaultExports_cons (h : isDefaultExport item = true) (items : List Node) :
    defaultExports (item :: items) = item :: defaultExports items :=
  List.filter_cons_of_pos h

theorem isDefaultExport_of_of? {shape : DefaultExport} (h : DefaultExport.of? item = some shape) :
    isDefaultExport item = true := by
  unfold DefaultExport.of? at h
  split at h
  · rfl
  · rfl
  · rfl
  · cases h

theorem isPreamble_of_isDefaultExport (h : isDefaultExport item = true) :
    isPreamble item = false := by
  refine isPreamble_of_form (fun hform => ?_) fun isTypeOnly phase hform => ?_
  · simp [isDefaultExport, hform] at h
  · simp [isDefaultExport, hform] at h

theorem isDefaultExport_of_isPreamble (h : isPreamble item = true) :
    isDefaultExport item = false := by
  by_contra hexport
  rw [isPreamble_of_isDefaultExport (by simpa using hexport)] at h
  cases h

/-! ### Binding the component -/

/-- Directives and imports are no default exports. -/
theorem defaultExports_body (items : List Node) :
    defaultExports (body items) = defaultExports items := by
  rw [defaultExports, defaultExports, body, List.filter_filter]
  refine List.filter_congr fun item _ => ?_
  cases hitem : isDefaultExport item with
  | false => rfl
  | true => simp [isPreamble_of_isDefaultExport hitem]

theorem isDefaultExport_of_bindExport? {derived : String} {bound : Bound}
    (h : bindExport? derived item = some bound) : isDefaultExport bound.item = false := by
  unfold bindExport? at h
  split at h
  · cases h
    rfl
  · cases h
    rfl
  · cases h

/-- **The only default export.**  A reference stays and names the component; a function or an arrow
function is bound, and no default export is left. -/
theorem bindComponent_of_sole (h : defaultExports items = [item]) {shape : DefaultExport}
    (hitem : DefaultExport.of? item = some shape) (s : State) :
    (∃ name, shape = .reference name ∧ (bindComponent items s).items = items ∧
        (bindComponent items s).state.component = name) ∨
      ((∀ name, shape ≠ .reference name) ∧ ∃ bound,
        bindExport? s.options.derivedName item = some bound ∧
        bound.item ∈ (bindComponent items s).items ∧
        defaultExports (bindComponent items s).items = [] ∧
        (bindComponent items s).state.component = bound.name) := by
  have hmem : item ∈ defaultExports items := by
    rw [h]
    exact List.mem_singleton_self item
  have hsole : ∀ found ∈ items, ∀ shape', DefaultExport.of? found = some shape' → found = item := by
    intro found hfound shape' hshape
    have hfound' : found ∈ defaultExports items :=
      List.mem_filter.mpr ⟨hfound, isDefaultExport_of_of? hshape⟩
    rw [h] at hfound'
    exact List.mem_singleton.mp hfound'
  have hcases := bindComponent_cases items s
  generalize (bindComponent items s).items = items', (bindComponent items s).state = s' at hcases ⊢
  cases hcases with
  | none hnone =>
    rw [hnone item (List.mem_of_mem_filter hmem)] at hitem
    cases hitem
  | @reference before after found name heq hbefore hfound =>
    obtain rfl := hsole found (by simp [heq]) _ hfound
    rw [hfound] at hitem
    cases hitem
    exact Or.inl ⟨name, rfl, rfl, rfl⟩
  | @bound before after found shape' bound heq hbefore hfound hshape hbound =>
    obtain rfl := hsole found (by simp [heq]) _ hfound
    rw [hfound] at hitem
    cases hitem
    have hothers : defaultExports before = [] ∧ defaultExports after = [] := by
      rw [heq, defaultExports_append, defaultExports_cons (isDefaultExport_of_of? hfound)] at h
      have hlength := congrArg List.length h
      simp only [List.length_append, List.length_cons, List.length_nil] at hlength
      exact ⟨List.length_eq_zero_iff.mp (by omega), List.length_eq_zero_iff.mp (by omega)⟩
    refine Or.inr ⟨hshape, bound, hbound, by simp, ?_, rfl⟩
    rw [defaultExports_append, defaultExports_cons_of_not (isDefaultExport_of_bindExport? hbound),
      hothers.1, hothers.2]
    rfl

/-! ### Walks -/

theorem isDefaultExport_walk {walk : Node → Node} (hwalk : Rebuilds isRewritten walk)
    (item : Node) :
    isDefaultExport (walk item) = isDefaultExport item := by
  simp only [isDefaultExport, hwalk.form_eq_iff (f := .exportDefaultDecl) rfl,
    hwalk.form_eq_iff (f := .exportDefaultExpr) rfl]

theorem defaultExports_map {change : Node → Node}
    (h : ∀ item, isDefaultExport (change item) = isDefaultExport item) (items : List Node) :
    defaultExports (items.map change) = (defaultExports items).map change := by
  rw [defaultExports, List.filter_map, defaultExports]
  congr 1
  exact List.filter_congr fun item _ => h item

theorem isRewritten_of_wrapped? {f : Form} {ps : List Node} {e : Node}
    (h : wrapped? f ps = some e) : isRewritten f = false := by
  unfold wrapped? at h
  split at h
  case h_5 => cases h
  all_goals rfl

/-- What is in parentheses or under a type is what it was, walked over. -/
theorem unwrapped_rewrites {walk : Node → Node} (hwalk : Rebuilds isRewritten walk) (e : Node) :
    Shape.unwrapped (walk e) = walk (Shape.unwrapped e) := by
  -- whatever is not changed is kept, and what is around an expression is not changed
  have hkeeps : Keeps (fun f => if isRewritten f then .nothing else .whole) walk :=
    hwalk.keeps fun f hf => if_pos hf
  refine unwrapped_walk hkeeps (fun h => ?_) e
  rw [isRewritten_of_wrapped? h]
  rfl

/-- A name that is exported by default is exported under the name that the walk gives it. -/
theorem of?_walk {walk : Node → Node} (hwalk : Rebuilds isRewritten walk) {name' : String}
    (hname : ∀ s ps, (walk (.mk (.ref name) s ps)).form = .ref name')
    (h : DefaultExport.of? item = some (.reference name)) :
    DefaultExport.of? (walk item) = some (.reference name') := by
  unfold DefaultExport.of? at h
  split at h
  · cases h
  · cases h
  · next s e =>
    split at h
    · cases h
    · next rs rps heq =>
      obtain rfl := DefaultExport.reference.inj (Option.some.inj h)
      have hunwrapped := unwrapped_rewrites hwalk e
      rw [heq] at hunwrapped
      have hform := hname rs rps
      rw [← hunwrapped] at hform
      rw [hwalk.plain s [e] rfl]
      rw [List.map_singleton, DefaultExport.of?]
      generalize Shape.unwrapped (walk e) = e' at hform ⊢
      obtain ⟨f, s', ps'⟩ := e'
      obtain rfl : f = .ref name' := hform
      rfl
    · cases h
  · cases h

/-- The expression is a name, perhaps in parentheses and under types. -/
inductive IsWrappedName (name : String) : Node → Prop
  | ref (s : Option Span) : IsWrappedName name (.ref s name)
  | wrapped {f : Form} {s : Option Span} {e : Node} {types : List Node}
    (hform : wrapped? f (e :: types) = some e) (htypes : ∀ p ∈ types, ∃ t, p.form = .type t)
    (he : IsWrappedName name e) : IsWrappedName name (.mk f s (e :: types))

/-- A walk that leaves types and the name alone leaves all of it alone. -/
theorem IsWrappedName.walk_eq {walk : Node → Node} (hwalk : Rebuilds isRewritten walk)
    (htype : ∀ t s ps, walk (.mk (.type t) s ps) = .mk (.type t) s ps)
    (hname : ∀ s, walk (.ref s name) = .ref s name) {e : Node} (h : IsWrappedName name e) :
    walk e = e := by
  induction h with
  | ref s => exact hname s
  | @wrapped f s e types hform htypes he ih =>
    have hsame : ∀ p ∈ types, walk p = p := by
      rintro ⟨g, ps, parts⟩ hp
      obtain ⟨t, ht⟩ := htypes _ hp
      obtain rfl : g = .type t := ht
      exact htype t ps parts
    rw [hwalk.plain s _ (isRewritten_of_wrapped? hform), List.map_cons, ih, map_eq_self hsame]

/-! ### Names of hooks -/

/-- What a name becomes when hooks are renamed. -/
def renamedHook (renames : List HookRename) (name : String) : String :=
  ((findRename? renames name).map (·.toName)).getD name

theorem renameHooks_mk_ref (renames : List HookRename) (name : String) (s : Option Span)
    (ps : List Node) :
    renameHooks renames (.mk (.ref name) s ps) =
      (findRename? renames name).elim (.mk (.ref name) s ps) fun r => .ref s r.toName := by
  rw [renameHooks, Node.fold_mk, renameStep, Node.map_fst_walk]
  cases findRename? renames name with
  | none => rfl
  | some r => rfl

theorem form_renameHooks_ref (renames : List HookRename) (name : String) (s : Option Span)
    (ps : List Node) :
    (renameHooks renames (.mk (.ref name) s ps)).form = .ref (renamedHook renames name) := by
  rw [renameHooks_mk_ref, renamedHook]
  cases findRename? renames name with
  | none => rfl
  | some r => rfl

theorem renameHooks_ref {renames : List HookRename} (h : renamedHook renames name = name)
    (s : Option Span) : renameHooks renames (.ref s name) = .ref s name := by
  rw [renameHooks_mk_ref]
  rw [renamedHook] at h
  cases hfind : findRename? renames name with
  | none => rfl
  | some r =>
    rw [hfind] at h
    exact congrArg (Node.ref s) h

/-! ### The steps -/

theorem isDefaultExport_mapImport (item : Node) :
    isDefaultExport ((mapImport item).apply item) = isDefaultExport item := by
  rcases mapImport_cases item with hsame | ⟨hitem, hnew⟩
  · rw [hsame]
  · rw [isDefaultExport_of_isPreamble hitem, isDefaultExport_of_isPreamble hnew]

theorem defaultExports_redirectImports (items : List Node) (s : State) :
    defaultExports (redirectImports items s).items = defaultExports items := by
  rw [← defaultExports_body, body_redirectImports, defaultExports_body]

theorem defaultExports_mapHooks (items : List Node) (s : State) :
    defaultExports (mapHooks items s).items =
      (defaultExports items).map (renameHooks (hookRenames items)) := by
  rw [mapHooks_items, defaultExports_map fun item => by
    rw [isDefaultExport_walk (rewrites_renameHooks _), isDefaultExport_mapImport]]
  refine List.map_congr_left fun item hitem => ?_
  have hpreamble := isPreamble_of_isDefaultExport (List.mem_filter.mp hitem).2
  rw [mapImport_of_ne (by simp [importSource?_of_not_isPreamble hpreamble])]
  rfl

theorem defaultExports_normalizeElements (items : List Node) (s : State) :
    defaultExports (normalizeElements items s).items = (defaultExports items).map normalize :=
  defaultExports_map (fun item => isDefaultExport_walk rewrites_normalize item) items

theorem Component.isDefaultExport_of_ofItem? {c : Component}
    (h : Component.ofItem? name item = some c)
    (newBody : Node) :
    isDefaultExport item = false ∧ isDefaultExport (c.withBody newBody) = false := by
  have hitem : isDefaultExport item = false := by
    unfold Component.ofItem? at h
    split at h
    · rfl
    · unfold Component.ofDeclaration? at h
      split at h
      · rfl
      · rfl
      · cases h
  exact ⟨hitem, (isDefaultExport_congr (Component.form_of_ofItem? h newBody).1).trans hitem⟩

theorem defaultExports_fitShell (items : List Node) (s : State) :
    defaultExports (fitShell items s).items = defaultExports items := by
  rcases fitShell_cases items s with hsame | ⟨before, found, after, c, newBody, rfl, hfound, heq⟩
  · rw [hsame]
  · obtain ⟨hold, hnew⟩ := Component.isDefaultExport_of_ofItem? hfound newBody
    rw [heq, defaultExports_append, defaultExports_append, defaultExports_cons_of_not hold,
      defaultExports_cons_of_not hnew]

/-- Neither the metadata statement nor what is left of it is a default export. -/
theorem Taken.defaultExports {kind : ModuleKind} {index : Nat} {taken : List Node}
    (h : Taken kind items index taken) : defaultExports taken = defaultExports items := by
  cases h with
  | leading => rfl
  | @metadata before after properties found i hkind heq hbefore hfound =>
    have hold : isDefaultExport found = false := by
      unfold Shape.metadata? at hfound
      split at hfound
      · rfl
      · cases hfound
    have hnew : Migration.defaultExports (dropDeclarator i found) = [] :=
      List.filter_eq_nil_iff.mpr fun n hn => by
        simp [isDefaultExport, form_of_mem_dropDeclarator hn]
    rw [heq, defaultExports_append, defaultExports_append, defaultExports_append, hnew,
      defaultExports_cons_of_not hold, List.nil_append]

theorem defaultExports_registerRoute (items : List Node) (s : State) :
    (defaultExports (registerRoute items s).items).Perm (defaultExports items) := by
  obtain ⟨r, index, taken, htaken, -, hperm⟩ := exists_perm_registerRoute items s
  have hfilter := hperm.filter isDefaultExport
  rw [← htaken.defaultExports]
  rwa [List.filter_cons_of_neg Bool.false_ne_true] at hfilter

/-- What becomes of a default export when fonts are removed. -/
theorem filter_fontless (removed dropped : NameSet) (item : Node) :
    (fontless removed dropped item).filter isDefaultExport =
      if isDefaultExport item then [cleanClassNames removed item] else [] := by
  by_cases hitem : isDefaultExport item = true
  · have hdeclarators : Shape.declarators? item = none :=
      declarators?_of_ne fun kind isDeclare hform => by simp [isDefaultExport, hform] at hitem
    have hclean : isDefaultExport (cleanClassNames removed item) = true := by
      rw [isDefaultExport_walk (rewrites_cleanClassNames removed), hitem]
    have hsource := importSource?_of_not_isPreamble (isPreamble_of_isDefaultExport hitem)
    rw [if_pos hitem, fontless_eq_singleton hdeclarators (by simp [hsource])]
    exact List.filter_cons_of_pos hclean
  · rw [if_neg hitem, List.filter_eq_nil_iff]
    intro n hn
    obtain ⟨d, hd, hform⟩ := form_of_mem_fontless hn
    rw [isDefaultExport_congr hform, isDefaultExport_walk (rewrites_cleanClassNames removed),
      isDefaultExport_congr hd]
    exact hitem

theorem defaultExports_flatMap_fontless (removed dropped : NameSet) (items : List Node) :
    defaultExports (items.flatMap (fontless removed dropped)) =
      (defaultExports items).map (cleanClassNames removed) := by
  induction items with
  | nil => rfl
  | cons item rest ih =>
    rw [List.flatMap_cons, defaultExports_append, ih, defaultExports, filter_fontless]
    by_cases hitem : isDefaultExport item = true
    · rw [if_pos hitem, defaultExports_cons hitem]
      rfl
    · rw [if_neg hitem, defaultExports_cons_of_not (by simpa using hitem), List.nil_append]

/-- The default exports after the removal of fonts, which may leave them alone. -/
theorem defaultExports_eliminateFonts (items : List Node) (s : State) :
    defaultExports (eliminateFonts items s).items = defaultExports items ∨
      defaultExports (eliminateFonts items s).items =
        (defaultExports items).map (cleanClassNames (removedFonts items)) := by
  rcases eliminateFonts_cases items s with hsame | hflat
  · exact Or.inl (by rw [hsame])
  · exact Or.inr (by rw [hflat, defaultExports_flatMap_fontless])

/-! ### All the steps -/

theorem defaultExports_between (o : Options) (t : Step) :
    defaultExports ((betweenPasses o).foldl Step.next t).items =
      (defaultExports t.items).map fun item =>
        normalize (renameHooks (hookRenames t.items) item) := by
  have hrenames : hookRenames (t.next .redirectImports).items = hookRenames t.items :=
    hookRenames_redirectImports t.items t.state
  have hredirected : defaultExports (t.next .redirectImports).items = defaultExports t.items :=
    defaultExports_redirectImports t.items t.state
  rw [betweenPasses, List.foldl_append, List.foldl_cons, List.foldl_cons, List.foldl_cons,
    List.foldl_nil, ← hredirected, ← hrenames]
  generalize t.next .redirectImports = t
  have hmapped : defaultExports (t.next .mapHooks).items = _ :=
    defaultExports_mapHooks t.items t.state
  have hnormal : defaultExports ((t.next .mapHooks).next .normalizeElements).items = _ :=
    defaultExports_normalizeElements (t.next .mapHooks).items (t.next .mapHooks).state
  rw [hmapped, List.map_map] at hnormal
  generalize (t.next .mapHooks).next .normalizeElements = t' at hnormal ⊢
  split
  · exact (defaultExports_fitShell t'.items t'.state).trans hnormal
  · exact hnormal

/-- The default exports of a module before its component is bound. -/
theorem defaultExports_importRouter_stripUseClient (items : List Node) (s : State) :
    defaultExports (importRouter (stripUseClient items s).items s).items =
      defaultExports items := by
  rw [← defaultExports_body, body_importRouter, body_stripUseClient, defaultExports_body]

/-- A default export after all the steps, if it is still one when the component is bound. -/
def IsChanged (renames : List HookRename) (item item' : Node) : Prop :=
  item' = normalize (renameHooks renames item) ∨
    ∃ names, item' = cleanClassNames names (normalize (renameHooks renames item))

/-- **All the steps.**  The default exports in the end are those that were left when the component
was bound, changed by the walks. -/
theorem defaultExports_migrate {o : Options} (h : o.kind ≠ .api) (m : Module) :
    ∃ change : Node → Node, (∀ item, IsChanged (hookRenames m.items) item (change item)) ∧
      (defaultExports (migrate o m).module.items).Perm
        ((defaultExports (boundStep o m).items).map change) := by
  have hprepared := defaultExports_between o (boundStep o m)
  rw [← prepared_eq, hookRenames_boundStep] at hprepared
  have hregistered := defaultExports_registerRoute (prepared o m).items (prepared o m).state
  rw [hprepared] at hregistered
  obtain ⟨-, hitems⟩ := migrate_of_page h m
  rw [hitems]
  generalize registerRoute (prepared o m).items (prepared o m).state = registered at hregistered ⊢
  split
  · rcases defaultExports_eliminateFonts registered.items registered.state with hsame | hclean
    · rw [hsame]
      exact ⟨_, fun item => Or.inl rfl, hregistered⟩
    · rw [hclean]
      have hcleaned := hregistered.map (cleanClassNames (removedFonts registered.items))
      rw [List.map_map] at hcleaned
      exact ⟨_, fun item => Or.inr ⟨_, rfl⟩, hcleaned⟩
  · exact ⟨_, fun item => Or.inl rfl, hregistered⟩

/-- A name that is exported by default is exported in the end under the name that its hook got. -/
theorem IsChanged.of? {renames : List HookRename} {item' : Node} (h : IsChanged renames item item')
    (hitem : DefaultExport.of? item = some (.reference name)) :
    DefaultExport.of? item' = some (.reference (renamedHook renames name)) := by
  have hrenamed := of?_walk (rewrites_renameHooks renames) (form_renameHooks_ref renames name) hitem
  have hnormal := of?_walk rewrites_normalize
    (fun s ps => by rw [rebuilds_normalize.plain s ps rfl]; rfl) hrenamed
  rcases h with rfl | ⟨names, rfl⟩
  · exact hnormal
  · exact of?_walk (rewrites_cleanClassNames names)
      (fun s ps => by rw [(rebuilds_cleanClassNames names).plain s ps rfl]; rfl) hnormal

/-- An exported name that is no hook is left with all around it. -/
theorem IsChanged.eq {renames : List HookRename} {s : Option Span} {e item' : Node}
    (h : IsChanged renames (.exportDefaultExpr s e) item') (he : IsWrappedName name e)
    (hname : renamedHook renames name = name) : item' = .exportDefaultExpr s e := by
  have hexport : ∀ walk : Node → Node, Rebuilds isRewritten walk → walk e = e →
      walk (.exportDefaultExpr s e) = .exportDefaultExpr s e := by
    intro walk hwalk hsame
    rw [hwalk.plain s [e] rfl, List.map_singleton, hsame]
  have hrenamed : renameHooks renames (.exportDefaultExpr s e) = .exportDefaultExpr s e := by
    refine hexport _ (rewrites_renameHooks renames) (he.walk_eq (rewrites_renameHooks renames)
      (fun t s ps => ?_) (renameHooks_ref hname))
    rw [renameHooks, Node.fold_mk]
    simp only [renameStep, Node.map_fst_walk]
  have hnormal : normalize (.exportDefaultExpr s e) = .exportDefaultExpr s e := by
    refine hexport _ rewrites_normalize (he.walk_eq rewrites_normalize (fun t s ps => ?_)
      fun s => rebuilds_normalize.plain s [] rfl)
    rw [normalize, Node.fold_mk]
    simp only [normalizeStep, Node.map_fst_walk]
  rcases h with rfl | ⟨names, rfl⟩
  · rw [hrenamed, hnormal]
  · rw [hrenamed, hnormal]
    exact hexport _ (rewrites_cleanClassNames names) (he.walk_eq (rewrites_cleanClassNames names)
      cleanClassNames_type fun s => (rebuilds_cleanClassNames names).plain s [] rfl)

end RouteMigration.Migration
