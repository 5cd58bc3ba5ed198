import RouteMigration.Proofs.AsyncComponents
import RouteMigration.Proofs.LayoutParameters

/-!
# The component of a layout

The component that a layout exports is bound by one step and changed by a later one, which looks for
it anew among the items.  The first recognises an arrow function through any parentheses and types,
the second only a bare one or one in a single pair of parentheses.  Nothing in between matters: the
walks over expressions keep every declaration a component can be found in.

## Main Definitions

* `Implementation.map` — an implementation under a walk over trees
* `Implements` — one of the items declares a component of a name

## Main Statements

* `Implementation.ofItem?_walk` — a walk over expressions keeps implementations
* `implements_boundStep_iff` — in which modules the bound component is found
* `layout_component_missing_iff` — when a layout is told that its component was not found
* `ascribed_layout_is_missing` — an arrow function under a type
-/

namespace RouteMigration.Migration

variable {items : List Node} {item : Node} {name : String} {walk : Node → Node}

/-! ### Walks -/

/-- A node with four parts, of which the second is a list, was one before the walk. -/
theorem Rebuilds.of_eq_code (hwalk : Rebuilds isRewritten walk) {f : Form} {s : Option Span}
    {n types result body : Node} {params : List Node} (hf : isRewritten f = false)
    (h : walk n = .mk f s [types, .seq params, result, body]) :
    ∃ types params result body, n = .mk f s [types, .seq params, result, body] := by
  obtain ⟨ps, rfl, hps⟩ := hwalk.of_eq hf h
  obtain ⟨types, rest, rfl, -, hrest⟩ := List.map_eq_cons_iff.mp hps
  obtain ⟨seq, rest, rfl, hseq, hrest⟩ := List.map_eq_cons_iff.mp hrest
  obtain ⟨result, rest, rfl, -, hrest⟩ := List.map_eq_cons_iff.mp hrest
  obtain ⟨body, rfl, -⟩ := List.map_eq_singleton_iff.mp hrest
  obtain ⟨params, rfl, -⟩ := hwalk.of_eq rfl hseq
  exact ⟨types, params, result, body, rfl⟩

namespace Implementation

/-- The implementation under a walk over trees. -/
def map (walk : Node → Node) (i : Implementation) : Implementation :=
  ⟨i.params.map walk, walk i.body⟩

/-- A view that sees nodes of certain forms with four parts sees the same of them after a walk. -/
theorem view_walk (hwalk : Rebuilds isRewritten walk) {view : Node → Option Implementation}
    (isCode : Form → Prop) (hcode : ∀ f, isCode f → isRewritten f = false)
    (hview : ∀ f s types params result body, isCode f →
      view (.mk f s [types, .seq params, result, body]) = some ⟨params, body⟩)
    (hsome : ∀ n i, view n = some i → ∃ f s types result, isCode f ∧
      n = .mk f s [types, .seq i.params, result, i.body]) (n : Node) :
    view (walk n) = (view n).map (map walk) := by
  cases h : view n with
  | some i =>
    obtain ⟨f, s, types, result, hf, rfl⟩ := hsome n i h
    rw [hwalk.plain s _ (hcode f hf), List.map_cons, List.map_cons, hwalk.plain none i.params rfl,
      List.map_cons, List.map_singleton, hview f s _ _ _ _ hf]
    rfl
  | none =>
    cases h' : view (walk n) with
    | none => rfl
    | some i =>
      obtain ⟨f, s, types, result, hf, heq⟩ := hsome _ i h'
      obtain ⟨types', params', result', body', rfl⟩ := Rebuilds.of_eq_code hwalk (hcode f hf) heq
      rw [hview f s _ _ _ _ hf] at h
      cases h

theorem ofFunction?_walk (hwalk : Rebuilds isRewritten walk) (n : Node) :
    ofFunction? (walk n) = (ofFunction? n).map (map walk) := by
  refine view_walk hwalk (fun f => ∃ isAsync isGenerator, f = .function isAsync isGenerator)
    ?_ ?_ ?_ n
  · rintro f ⟨isAsync, isGenerator, rfl⟩
    rfl
  · rintro f s types params result body ⟨isAsync, isGenerator, rfl⟩
    rfl
  · intro n i hi
    unfold ofFunction? at hi
    split at hi
    · cases hi
      exact ⟨_, _, _, _, ⟨_, _, rfl⟩, rfl⟩
    · cases hi

theorem ofArrow?_walk (hwalk : Rebuilds isRewritten walk) (n : Node) :
    ofArrow? (walk n) = (ofArrow? n).map (map walk) := by
  refine view_walk hwalk (fun f => ∃ isAsync, f = .arrow isAsync) ?_ ?_ ?_ n
  · rintro f ⟨isAsync, rfl⟩
    rfl
  · rintro f s types params result body ⟨isAsync, rfl⟩
    rfl
  · intro n i hi
    unfold ofArrow? at hi
    split at hi
    · cases hi
      exact ⟨_, _, _, _, ⟨_, rfl⟩, rfl⟩
    · cases hi

/-- A function, something in parentheses, or neither. -/
theorem ofValue?_walk (hwalk : Rebuilds isRewritten walk) (v : Node) :
    ofValue? (walk v) = (ofValue? v).map (map walk) := by
  by_cases hfunction : ∃ s name f, v = .functionExpr s name f
  · obtain ⟨s, name, f, rfl⟩ := hfunction
    rw [hwalk.plain s _ rfl]
    exact ofFunction?_walk hwalk f
  · by_cases hparen : ∃ s e, v = .paren s e
    · obtain ⟨s, e, rfl⟩ := hparen
      rw [hwalk.plain s _ rfl]
      exact ofArrow?_walk hwalk e
    · have hplain : ∀ n : Node, (¬∃ s name f, n = .functionExpr s name f) →
          (¬∃ s e, n = .paren s e) → ofValue? n = ofArrow? n := by
        intro n hn hn'
        unfold ofValue?
        split
        · exact absurd ⟨_, _, _, rfl⟩ hn
        · exact absurd ⟨_, _, rfl⟩ hn'
        · rfl
      rw [hplain v hfunction hparen, hplain, ofArrow?_walk hwalk]
      · rintro ⟨s, name, f, heq⟩
        obtain ⟨name', f', rfl, -⟩ := hwalk.of_eq_pair rfl heq
        exact hfunction ⟨s, name', f', rfl⟩
      · rintro ⟨s, e, heq⟩
        obtain ⟨e', rfl, -⟩ := hwalk.of_eq_single rfl heq
        exact hparen ⟨s, e', rfl⟩

theorem ofDeclarators?_walk (hwalk : Rebuilds isRewritten walk) (name : String) (ds : List Node) :
    ofDeclarators? name (ds.map walk) = (ofDeclarators? name ds).map (map walk) := by
  induction ds with
  | nil => rfl
  | cons d ds ih =>
    have hbound : Shape.boundName? (walk d) = Shape.boundName? d :=
      boundName?_walk (keepsNames_of_rewrites hwalk) d
    by_cases hname : Shape.boundName? d = some name
    · rw [hname] at hbound
      obtain ⟨s, isDefinite, pattern, value, isOptional, rfl, -⟩ := boundName?_eq_some.mp hname
      rw [hwalk.plain s _ rfl] at hbound
      have hold : ofDeclarators? name (.declarator s isDefinite pattern value :: ds) =
          ofValue? value := if_pos (beq_iff_eq.mpr hname)
      rw [hold, ← ofValue?_walk hwalk, List.map_cons, hwalk.plain s _ rfl]
      exact if_pos (beq_iff_eq.mpr hbound)
    · have hskip : ∀ d' ds', Shape.boundName? d' ≠ some name →
          ofDeclarators? name (d' :: ds') = ofDeclarators? name ds' :=
        fun d' ds' hne => if_neg fun h => hne (beq_iff_eq.mp h)
      rw [List.map_cons, hskip _ _ hname, hskip _ _ (hbound ▸ hname), ih]

theorem ofDeclaration?_walk (hwalk : Rebuilds isRewritten walk) (name : String) (d : Node) :
    ofDeclaration? name (walk d) = (ofDeclaration? name d).map (map walk) := by
  by_cases hfunction : ∃ s isDeclare ns n f, d = .functionDecl s isDeclare (.ident ns n) f
  · obtain ⟨s, isDeclare, ns, n, f, rfl⟩ := hfunction
    rw [hwalk.plain s _ rfl, List.map_cons, List.map_singleton, hwalk.plain ns [] rfl,
      List.map_nil, ofDeclaration?, ofDeclaration?, ofFunction?_walk hwalk]
    split <;> rfl
  · by_cases hvariable : ∃ s kind isDeclare ds, d = .varDecl s kind isDeclare ds
    · obtain ⟨s, kind, isDeclare, ds, rfl⟩ := hvariable
      rw [hwalk.plain s _ rfl, ofDeclaration?, ofDeclaration?, ofDeclarators?_walk hwalk]
      split <;> rfl
    · have hnone : ∀ n : Node,
          (¬∃ s isDeclare ns x f, n = .functionDecl s isDeclare (.ident ns x) f) →
          (¬∃ s kind isDeclare ds, n = .varDecl s kind isDeclare ds) →
          ofDeclaration? name n = none := by
        intro n hn hn'
        unfold ofDeclaration?
        split
        · exact absurd ⟨_, _, _, _, _, rfl⟩ hn
        · exact absurd ⟨_, _, _, _, rfl⟩ hn'
        · rfl
      rw [hnone d hfunction hvariable, hnone]
      · rfl
      · rintro ⟨s, isDeclare, ns, x, f, heq⟩
        obtain ⟨ident, f', rfl, hident, -⟩ := hwalk.of_eq_pair rfl heq
        obtain ⟨ps, rfl, hps⟩ := hwalk.of_eq rfl hident
        obtain rfl := List.map_eq_nil_iff.mp hps
        exact hfunction ⟨s, isDeclare, ns, x, f', rfl⟩
      · rintro ⟨s, kind, isDeclare, ds, heq⟩
        obtain ⟨ps, rfl, -⟩ := hwalk.of_eq rfl heq
        exact hvariable ⟨s, kind, isDeclare, ps, rfl⟩

/-- **Walks.**  What an item implements is walked over, and no item implements more or less. -/
theorem ofItem?_walk (hwalk : Rebuilds isRewritten walk) (name : String) (item : Node) :
    ofItem? name (walk item) = (ofItem? name item).map (map walk) := by
  by_cases hexport : ∃ s d, item = .exportDecl s d
  · obtain ⟨s, d, rfl⟩ := hexport
    rw [hwalk.plain s _ rfl]
    exact ofDeclaration?_walk hwalk name d
  · have hplain : ∀ n : Node, (¬∃ s d, n = .exportDecl s d) →
        ofItem? name n = ofDeclaration? name n := by
      intro n hn
      unfold ofItem?
      split
      · exact absurd ⟨_, _, rfl⟩ hn
      · rfl
    rw [hplain item hexport, hplain, ofDeclaration?_walk hwalk]
    rintro ⟨s, d, heq⟩
    obtain ⟨d', rfl, -⟩ := hwalk.of_eq_single rfl heq
    exact hexport ⟨s, d', rfl⟩

/-- Directives and imports implement nothing. -/
theorem ofItem?_of_isPreamble (h : isPreamble item = true) (name : String) :
    ofItem? name item = none := by
  unfold isPreamble Shape.directive? Shape.isImport Shape.importSource? at h
  unfold ofItem?
  split
  · cases h
  · unfold ofDeclaration?
    split
    · cases h
    · cases h
    · rfl

end Implementation

/-! ### Modules -/

/-- One of the items implements a component of the name. -/
def Implements (name : String) (items : List Node) : Prop :=
  ∃ item ∈ items, (Implementation.ofItem? name item).isSome = true

theorem implements_append (name : String) (items items' : List Node) :
    Implements name (items ++ items') ↔ Implements name items ∨ Implements name items' := by
  simp only [Implements, List.mem_append, or_and_right, exists_or]

theorem implements_cons (name : String) (item : Node) (items : List Node) :
    Implements name (item :: items) ↔
      (Implementation.ofItem? name item).isSome = true ∨ Implements name items := by
  simp only [Implements, List.mem_cons, or_and_right, exists_or, exists_eq_left]

theorem not_implements_iff :
    ¬Implements name items ↔ ∀ item ∈ items, Implementation.ofItem? name item = none := by
  simp [Implements]

/-- Directives and imports neither help nor hinder. -/
theorem implements_body (name : String) (items : List Node) :
    Implements name (body items) ↔ Implements name items := by
  constructor
  · rintro ⟨item, hitem, hsome⟩
    exact ⟨item, List.mem_of_mem_filter hitem, hsome⟩
  · rintro ⟨item, hitem, hsome⟩
    refine ⟨item, List.mem_filter.mpr ⟨hitem, ?_⟩, hsome⟩
    rw [Bool.not_eq_true']
    by_contra hpreamble
    rw [Implementation.ofItem?_of_isPreamble (by simpa using hpreamble)] at hsome
    cases hsome

theorem implements_map (hchange : ∀ item ∈ items, (Implementation.ofItem? name (walk item)).isSome =
      (Implementation.ofItem? name item).isSome) :
    Implements name (items.map walk) ↔ Implements name items := by
  constructor
  · rintro ⟨changed, hchanged, hsome⟩
    obtain ⟨item, hitem, rfl⟩ := List.mem_map.mp hchanged
    exact ⟨item, hitem, hchange item hitem ▸ hsome⟩
  · rintro ⟨item, hitem, hsome⟩
    exact ⟨walk item, List.mem_map_of_mem hitem, (hchange item hitem).trans hsome⟩

theorem implements_redirectImports (name : String) (items : List Node) (s : State) :
    Implements name (redirectImports items s).items ↔ Implements name items := by
  rw [← implements_body, body_redirectImports, implements_body]

theorem implements_mapHooks (name : String) (items : List Node) (s : State) :
    Implements name (mapHooks items s).items ↔ Implements name items := by
  rw [mapHooks_items]
  refine implements_map fun item _ => ?_
  rw [Implementation.ofItem?_walk (rewrites_renameHooks _), Option.isSome_map]
  rcases mapImport_cases item with hsame | ⟨hold, hnew⟩
  · rw [hsame]
  · rw [Implementation.ofItem?_of_isPreamble hold, Implementation.ofItem?_of_isPreamble hnew]

theorem implements_normalizeElements (name : String) (items : List Node) (s : State) :
    Implements name (normalizeElements items s).items ↔ Implements name items := by
  refine implements_map fun item _ => ?_
  rw [Implementation.ofItem?_walk rewrites_normalize, Option.isSome_map]

/-! ### Looking for the component -/

/-- Somebody is told something with that code. -/
def Tells (code : String) (t : Step) : Prop := ∃ w ∈ t.warnings, w.code = code

/-- The step looks for a component of the name, and tells when there is none. -/
theorem missing_fitShell_iff (items : List Node) (s : State) :
    (∃ w ∈ (fitShell items s).warnings, w.code = "W-SHELL-002") ↔
      ¬Implements s.component items := by
  unfold fitShell
  dsimp only
  split
  · next hnone =>
    refine iff_of_true ⟨_, List.mem_singleton_self _, rfl⟩ ?_
    rintro ⟨item, hitem, hsome⟩
    cases hfind : Implementation.find? s.component items with
    | none =>
      rw [List.findSome?_eq_none_iff.mp hfind item hitem] at hsome
      cases hsome
    | some i =>
      obtain ⟨before, found, after, c, -, -, -, hcomponent, -⟩ := exists_component hfind
      rw [hnone] at hcomponent
      cases hcomponent
  · next before c after hfind =>
    refine iff_of_false ?_ (not_not.mpr ?_)
    · rintro ⟨w, hw, hcode⟩
      simp only [List.mem_append] at hw
      rcases hw with (hw | hw) | hw
      all_goals
        split at hw
        · obtain rfl := List.mem_singleton.mp hw
          exact absurd hcode (by simp [Warning.code])
        · cases hw
    · obtain ⟨item, rfl, hitem⟩ := Component.exists_of_find? hfind
      refine ⟨item, by simp, Option.isSome_iff_ne_none.mpr fun hnone => ?_⟩
      rw [ofItem?_eq_none hnone] at hitem
      cases hitem

theorem code_of_mem_settleFunction {f : Node} {w : Warning}
    (hw : w ∈ (settleFunction name f).2) : w.code = "W-EXPORT-002" := by
  unfold settleFunction at hw
  split at hw
  · rw [List.mem_singleton.mp hw, code_asyncWarning]
  · cases hw

theorem code_of_mem_settleArrow {e : Node} {w : Warning} (hw : w ∈ (settleArrow name e).2) :
    w.code = "W-EXPORT-002" := by
  unfold settleArrow at hw
  split at hw
  · rw [List.mem_singleton.mp hw, code_asyncWarning]
  · cases hw

theorem code_of_mem_bindComponent {s : State} {w : Warning}
    (hw : w ∈ (bindComponent items s).warnings) :
    w.code = "W-EXPORT-001" ∨ w.code = "W-EXPORT-002" := by
  unfold bindComponent at hw
  split at hw
  · rw [List.mem_singleton.mp hw]
    exact Or.inl rfl
  · cases hw
  · split at hw
    · cases hw
    · next hbound =>
      unfold bindExport? at hbound
      split at hbound
      · cases hbound
        exact Or.inr (code_of_mem_settleFunction hw)
      · cases hbound
        exact Or.inr (code_of_mem_settleArrow hw)
      · cases hbound

/-- No other step tells that a component is missing. -/
theorem code_of_mem_run {pass : Pass} (hpass : pass ≠ .fitShell) {s : State} {w : Warning}
    (hw : w ∈ (pass.run items s).warnings) : w.code ≠ "W-SHELL-002" := by
  cases pass with
  | stripUseClient => cases hw
  | importRouter => cases hw
  | bindComponent =>
    rcases code_of_mem_bindComponent hw with hcode | hcode
    · rw [hcode]
      decide
    · rw [hcode]
      decide
  | redirectImports => cases hw
  | mapHooks =>
    rcases List.mem_append.mp hw with hkept | hcalls
    · obtain ⟨-, -, rfl⟩ := List.mem_map.mp hkept
      decide
    · split at hcalls
      · rw [List.mem_singleton.mp hcalls]
        decide
      · cases hcalls
  | normalizeElements => cases hw
  | fitShell => exact absurd rfl hpass
  | collectHandlers =>
    change w ∈ (if _ then _ else _) at hw
    split at hw
    · rw [List.mem_singleton.mp hw]
      decide
    · cases hw
  | registerRoute => cases hw
  | eliminateFonts => cases hw

/-- **One step.** -/
theorem tells_next {pass : Pass} (hpass : pass ≠ .fitShell) (t : Step) :
    Tells "W-SHELL-002" (t.next pass) ↔ Tells "W-SHELL-002" t := by
  constructor
  · rintro ⟨w, hw, hcode⟩
    rcases List.mem_append.mp hw with hw | hw
    · exact ⟨w, hw, hcode⟩
    · exact absurd hcode (code_of_mem_run hpass hw)
  · rintro ⟨w, hw, hcode⟩
    exact ⟨w, List.mem_append_left _ hw, hcode⟩

/-- **Any number of steps.** -/
theorem tells_foldl {passes : List Pass} (hpasses : .fitShell ∉ passes) (t : Step) :
    Tells "W-SHELL-002" (passes.foldl Step.next t) ↔ Tells "W-SHELL-002" t := by
  induction passes generalizing t with
  | nil => rfl
  | cons pass passes ih =>
    rw [List.mem_cons, not_or] at hpasses
    rw [List.foldl_cons, ih hpasses.2, tells_next (Ne.symm hpasses.1)]

/-- The module of a layout before its component is looked for. -/
def searched (o : Options) (m : Module) : Step :=
  [.redirectImports, .mapHooks, .normalizeElements].foldl Step.next (boundStep o m)

theorem implements_searched (name : String) (o : Options) (m : Module) :
    Implements name (searched o m).items ↔ Implements name (boundStep o m).items := by
  have hredirected (t : Step) : Implements name (t.next .redirectImports).items ↔
      Implements name t.items := implements_redirectImports name t.items t.state
  have hmapped (t : Step) : Implements name (t.next .mapHooks).items ↔
      Implements name t.items := implements_mapHooks name t.items t.state
  have hnormalized (t : Step) : Implements name (t.next .normalizeElements).items ↔
      Implements name t.items := implements_normalizeElements name t.items t.state
  exact (hnormalized _).trans ((hmapped _).trans (hredirected _))

/-- A layout is told that its component is missing when the step that looks for it finds none. -/
theorem tells_migrate_iff {o : Options} (h : o.kind.isLayout = true) (m : Module) :
    (∃ w ∈ (migrate o m).warnings, w.code = "W-SHELL-002") ↔
      ¬Implements (boundStep o m).state.component (boundStep o m).items := by
  have hkind : o.kind ≠ .api := by
    intro heq
    rw [heq] at h
    cases h
  have hpipeline : pipeline o = [Pass.stripUseClient, .importRouter, .bindComponent] ++
      ([Pass.redirectImports, .mapHooks, .normalizeElements] ++
        Pass.fitShell :: .registerRoute :: if o.fontAware then [.eliminateFonts] else []) := by
    simp [pipeline, hkind, h]
  have hlast : Tells "W-SHELL-002"
        ((pipeline o).foldl Step.next (Step.start m.items { options := o })) ↔
      Tells "W-SHELL-002" ((searched o m).next .fitShell) := by
    rw [hpipeline, List.foldl_append, List.foldl_append, List.foldl_cons, tells_foldl]
    · rfl
    · split <;> decide
  have hearlier : ¬Tells "W-SHELL-002" (searched o m) := by
    rw [searched, tells_foldl (by decide), boundStep, tells_foldl (by decide)]
    rintro ⟨w, hw, -⟩
    cases hw
  have hcomponent : (searched o m).state.component = (boundStep o m).state.component :=
    (alike_foldl (by decide) (boundStep o m)).component
  have hwarnings : (∃ w ∈ (migrate o m).warnings, w.code = "W-SHELL-002") ↔
      Tells "W-SHELL-002" ((pipeline o).foldl Step.next (Step.start m.items { options := o })) :=
    Iff.rfl
  rw [hwarnings, hlast, ← implements_searched, ← hcomponent, ← missing_fitShell_iff]
  constructor
  · rintro ⟨w, hw, hcode⟩
    rcases List.mem_append.mp hw with hw | hw
    · exact absurd ⟨w, hw, hcode⟩ hearlier
    · exact ⟨w, hw, hcode⟩
  · rintro ⟨w, hw, hcode⟩
    exact ⟨w, List.mem_append_right _ hw, hcode⟩

/-! ### The bound component -/

/-- An arrow function has nothing around it. -/
theorem wrappers_of_ofArrow? {e : Node} {i : Implementation}
    (h : Implementation.ofArrow? e = some i) : wrappers e = [] := by
  unfold Implementation.ofArrow? at h
  split at h
  · exact wrappers_mk ..
  · cases h

/-- An arrow function is found as a value when there is nothing around it, or one pair of
parentheses. -/
theorem ofValue?_isSome_iff {e : Node} {i : Implementation}
    (he : Implementation.ofArrow? (Shape.unwrapped e) = some i) :
    (Implementation.ofValue? e).isSome = true ↔ wrappers e = [] ∨ wrappers e = [.paren] := by
  obtain ⟨f, s, ps⟩ := e
  cases hwrapped : wrapped? f ps with
  | none =>
    have hbare : wrappers (.mk f s ps) = [] := by rw [wrappers_mk, hwrapped]
    rw [unwrapped_of_wrappers hbare] at he
    exact iff_of_true (by rw [Views.ofValue?_of_ofArrow? he, Option.isSome_some]) (Or.inl hbare)
  | some e =>
    rw [wrappers_mk, hwrapped]
    rw [unwrapped_mk, hwrapped] at he
    unfold wrapped? at hwrapped
    split at hwrapped
    · -- in parentheses it is found exactly if nothing else is around it
      cases hwrapped
      show (Implementation.ofArrow? e).isSome = true ↔ _
      constructor
      · intro hsome
        obtain ⟨j, hj⟩ := Option.isSome_iff_exists.mp hsome
        exact Or.inr (congrArg (Form.paren :: ·) (wrappers_of_ofArrow? hj))
      · rintro (hnil | hparen)
        · cases hnil
        · dsimp only at he
          rw [unwrapped_of_wrappers (List.cons.inj hparen).2] at he
          rw [he, Option.isSome_some]
    · exact iff_of_false Bool.false_ne_true (by simp)
    · exact iff_of_false Bool.false_ne_true (by simp)
    · exact iff_of_false Bool.false_ne_true (by simp)
    · cases hwrapped

/-- **The bound function** is found under its name unless there is more around it than one pair of
parentheses. -/
theorem ofItem?_isSome_iff {f : ComponentFunction} {derived : String} {bound : Bound}
    (h : ComponentFunction.exported? item = some f)
    (hbound : bindExport? derived item = some bound) :
    (Implementation.ofItem? bound.name bound.item).isSome = true ↔
      exportWrappers item = [] ∨ exportWrappers item = [.paren] := by
  rcases ComponentFunction.exported?_eq_some h with
    ⟨s, fs, name, gs, isGenerator, types, params, result, rfl⟩ |
    ⟨s, e, as, types, params, result, rfl, he⟩
  · have hfunction (s ns : Option Span) (n : String) : (Implementation.ofItem? n
        (.functionDecl s false (.ident ns n) (settleFunction n
          (.function gs f.isAsync isGenerator types params result f.body)).1)).isSome = true := by
      show (if n = n then Implementation.ofFunction? _ else none).isSome = true
      rw [if_pos rfl]
      cases f.isAsync <;> rfl
    refine iff_of_true ?_ (Or.inl rfl)
    unfold bindExport? at hbound
    dsimp only at hbound
    split at hbound
    · cases hbound
      exact hfunction _ _ _
    · cases hbound
      exact hfunction _ _ _
  · obtain rfl := Option.some.inj hbound
    have hvalue (v : Node) : Implementation.ofItem? derived (Build.constDecl derived v) =
        Implementation.ofValue? v := if_pos (beq_self_eq_true _)
    show (Implementation.ofItem? derived (Build.constDecl derived
      (settleArrow derived e).1)).isSome = true ↔ wrappers e = [] ∨ wrappers e = [.paren]
    rw [hvalue]
    by_cases hbare : wrappers e = []
    · refine iff_of_true ?_ (Or.inl hbare)
      rw [unwrapped_of_wrappers hbare] at he
      rw [he]
      cases f.isAsync <;> rfl
    · rw [settleArrow_of_wrapped hbare]
      exact ofValue?_isSome_iff (congrArg Implementation.ofArrow? he)

/-- A function with something around it is bound to the derived name. -/
theorem name_of_bindExport? {derived : String} {bound : Bound} (h : exportWrappers item ≠ [])
    (hbound : bindExport? derived item = some bound) : bound.name = derived := by
  unfold bindExport? at hbound
  split at hbound
  · exact absurd rfl h
  · cases hbound
    rfl
  · cases hbound

/-- **The module with its component bound.**  The bound function takes the place of the export, and
what directives and imports became does not matter. -/
theorem exists_bound {f : ComponentFunction} {m : Module} {before after : List Node} (o : Options)
    (hitems : m.items = before ++ item :: after)
    (hbefore : ∀ other ∈ before, DefaultExport.of? other = none)
    (hitem : ComponentFunction.exported? item = some f) :
    ∃ bound, bindExport? o.derivedName item = some bound ∧
      (boundStep o m).state.component = bound.name ∧
      ∀ name, Implements name (boundStep o m).items ↔
        (Implementation.ofItem? name bound.item).isSome = true ∨
          Implements name (before ++ after) := by
  obtain ⟨shape, hshape, hne⟩ := ComponentFunction.exists_shape hitem
  obtain ⟨bound, hbound⟩ := exists_bindExport? hshape o.derivedName
  have hbody : body (importRouter (stripUseClient m.items { options := o }).items
      { options := o }).items = body before ++ item :: body after := by
    rw [body_importRouter, body_stripUseClient, hitems, body_append,
      body_cons (isPreamble_of_defaultExport hshape)]
  have hbefore' : ∀ other ∈ body before, DefaultExport.of? other = none := fun other hother =>
    hbefore other (List.mem_of_mem_filter hother)
  have hstep := bindComponent_append_cons (s := { options := o }) hbefore' hshape hne hbound
    (body after)
  obtain ⟨hbound_items, hbound_state⟩ := bindComponent_body
    (importRouter (stripUseClient m.items { options := o }).items { options := o }).items
    { options := o }
  rw [hbody, hstep] at hbound_items hbound_state
  rw [← items_boundStep] at hbound_items
  rw [← state_boundStep] at hbound_state
  refine ⟨bound, hbound, congrArg State.component hbound_state.symm, fun name => ?_⟩
  rw [← implements_body, ← hbound_items]
  simp only [implements_append, implements_cons, implements_body]
  exact or_left_comm

/-- **The component of a layout.**  For a layout that exports a function by default, bare or with
parentheses and types around it, the user is told that the component was not found exactly if there
is something around it other than one pair of parentheses, and no other item happens to declare a
component of the same name. -/
theorem layout_component_missing_iff (o : Options) (h : o.kind.isLayout = true) (m : Module)
    (before after : List Node) (item : Node) (f : ComponentFunction)
    (hitems : m.items = before ++ item :: after)
    (hbefore : ∀ other ∈ before, DefaultExport.of? other = none)
    (hitem : ComponentFunction.exported? item = some f) :
    (∃ w ∈ (migrate o m).warnings, w.code = "W-SHELL-002") ↔
      exportWrappers item ≠ [] ∧ exportWrappers item ≠ [.paren] ∧
        ∀ other ∈ before ++ after, Implementation.ofItem? o.derivedName other = none := by
  obtain ⟨bound, hbound, hcomponent, himplements⟩ := exists_bound o hitems hbefore hitem
  rw [tells_migrate_iff h, hcomponent, himplements, ofItem?_isSome_iff hitem hbound, not_or, not_or,
    not_implements_iff, and_assoc]
  refine and_congr_right fun hbare => ?_
  rw [name_of_bindExport? hbare hbound]

/-- `export default (() => null) as any;` -/
def ascribedLayout : Module where
  items :=
    [.exportDefaultExpr none (.mk .asType none
      [.paren none (.arrow none false .absent [] .absent (.mk .null none [])),
        .mk (.type (.keyword "any")) none []])]

/-- A layout under a type is bound, and its component is not found. -/
theorem ascribed_layout_is_missing :
    let o : Options := { kind := .layout, stem := "layout" }
    o.kind.isLayout = true ∧
      (∀ item ∈ ascribedLayout.items, DefaultExport.of? item = some .arrow) ∧
      ∃ w ∈ (migrate o ascribedLayout).warnings, w.code = "W-SHELL-002" := by
  intro o
  refine ⟨rfl, by decide, ?_⟩
  exact (layout_component_missing_iff o rfl ascribedLayout [] [] _ ⟨false, .mk .null none []⟩ rfl
    (by simp) rfl).mpr ⟨by decide, by decide, by simp⟩

end RouteMigration.Migration
