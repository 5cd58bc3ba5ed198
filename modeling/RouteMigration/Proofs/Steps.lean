import RouteMigration.Migration.Pipeline
import RouteMigration.Proofs.Placement

/-!
# What the steps before the registration keep

The steps that come before the registration change directives, imports and expressions.  None of
them changes what the module binds at its top, except for the one that binds the component, and
that one does not look at directives and imports.

## Main Definitions

* `body` — a module without its directives and imports

## Main Statements

* `body_stripUseClient`, `body_importRouter`, `body_redirectImports` — steps that change nothing
  else
* `bindComponent_body` — the component is bound in the body
* `sketch_mapHooks`, `sketch_normalizeElements`, `sketch_fitShell` — steps that change expressions
-/

namespace RouteMigration.Migration

variable {items : List Node}

/-! ### Directives and imports -/

/-- The item is a directive or an import. -/
def isPreamble (item : Node) : Bool := (Shape.directive? item).isSome || Shape.isImport item

/-- The items that are neither directives nor imports. -/
def body (items : List Node) : List Node := items.filter (!isPreamble ·)

theorem body_append (items items' : List Node) :
    body (items ++ items') = body items ++ body items' :=
  List.filter_append items items'

theorem body_cons_of_preamble {item : Node} (h : isPreamble item = true) (items : List Node) :
    body (item :: items) = body items := by
  simp [body, h]

theorem body_cons {item : Node} (h : isPreamble item = false) (items : List Node) :
    body (item :: items) = item :: body items := by
  simp [body, h]

theorem body_of_preamble (h : ∀ item ∈ items, isPreamble item = true) : body items = [] :=
  List.filter_eq_nil_iff.mpr fun item hitem => by simp [h item hitem]

theorem isInert_of_isPreamble {item : Node} (h : isPreamble item = true) : isInert item = true := by
  rcases Bool.or_eq_true_iff.mp h with h | h
  · exact isInert_of_directive h
  · exact isInert_of_isImport h

theorem sketch_body (items : List Node) : sketch (body items) = sketch items := by
  rw [sketch, sketch, body, List.filter_filter]
  congr 1
  refine List.filter_congr fun item _ => ?_
  cases hitem : isPreamble item with
  | false => simp
  | true => simp [isInert_of_isPreamble hitem]

theorem body_stripUseClient (items : List Node) (s : State) :
    body (stripUseClient items s).items = body items := by
  have hfront : ∀ item ∈ items.take (Shape.prologue items), isPreamble item = true :=
    fun item hitem => by simp [isPreamble, directive_of_mem_prologue hitem]
  conv_rhs => rw [← List.take_append_drop (Shape.prologue items) items]
  show body ((items.take (Shape.prologue items)).filter (!Shape.isUseClient ·) ++
    items.drop (Shape.prologue items)) = _
  rw [body_append, body_append, body_of_preamble hfront,
    body_of_preamble fun item hitem => hfront item (List.mem_of_mem_filter hitem)]

theorem body_importRouter (items : List Node) (s : State) :
    body (importRouter items s).items = body items := by
  show body (items.take (Shape.prologue items) ++ routerImport s.options.factory ::
    items.drop (Shape.prologue items)) = _
  rw [body_append, body_cons_of_preamble rfl, ← body_append, List.take_append_drop]

/-- What takes the place of an import is an import. -/
theorem isPreamble_of_replace {o : Options} {specifiers : List Node} {source : String} {new : Node}
    {package stylesheet : Option String}
    (h : ImportChange.of o specifiers source = .replace new package stylesheet) :
    isPreamble new = true := by
  unfold ImportChange.of at h
  split at h
  · split at h
    · cases h
      rfl
    · cases h
  · unfold ImportChange.ofOther at h
    split at h
    · cases h
    · split at h
      · cases h
        rfl
      · split at h
        · unfold ImportChange.ofStylesheet at h
          dsimp only at h
          split at h
          · cases h
            rfl
          · cases h
            rfl
        · cases h

/-- What is no import stays. -/
theorem apply_ofItem_of_none {item : Node} (h : Shape.importSource? item = none) (o : Options) :
    (ImportChange.ofItem o item).apply item = [item] := by
  unfold ImportChange.ofItem
  split
  · cases h
  · rfl

/-- An item stays, or is an import and makes room for imports. -/
theorem ofItem_cases (o : Options) (item : Node) :
    (ImportChange.ofItem o item).apply item = [item] ∨
      isPreamble item = true ∧
        ∀ new ∈ (ImportChange.ofItem o item).apply item, isPreamble new = true := by
  unfold ImportChange.ofItem
  split
  · next isTypeOnly phase s specifiers source raw ss attributes =>
    refine Or.inr ⟨rfl, ?_⟩
    cases hof : ImportChange.of o specifiers source with
    | keep => simp [ImportChange.apply, isPreamble, Shape.isImport, Shape.importSource?]
    | remove => simp [ImportChange.apply]
    | replace new package stylesheet => simpa [ImportChange.apply] using isPreamble_of_replace hof
  · exact Or.inl rfl

theorem body_redirectImports (items : List Node) (s : State) :
    body (redirectImports items s).items = body items := by
  show body (items.flatMap fun item => (ImportChange.ofItem s.options item).apply item) = _
  induction items with
  | nil => rfl
  | cons item rest ih =>
    rw [List.flatMap_cons, body_append, ih, ← List.singleton_append (x := item), body_append]
    congr 1
    rcases ofItem_cases s.options item with hkeep | ⟨hitem, hnew⟩
    · rw [hkeep]
    · rw [body_of_preamble hnew, body_of_preamble (by simpa using hitem)]

/-! ### The component -/

theorem defaultExport_of_isPreamble {item : Node} (h : isPreamble item = true) :
    DefaultExport.of? item = none := by
  unfold isPreamble Shape.directive? Shape.isImport Shape.importSource? at h
  unfold DefaultExport.of?
  split
  · exact absurd h (by simp)
  · exact absurd h (by simp)
  · exact absurd h (by simp)
  · rfl

theorem isPreamble_of_defaultExport {item : Node} {shape : DefaultExport}
    (h : DefaultExport.of? item = some shape) : isPreamble item = false := by
  by_contra hpreamble
  rw [defaultExport_of_isPreamble (by simpa using hpreamble)] at h
  cases h

theorem splitDefaultExport?_body (items : List Node) :
    splitDefaultExport? (body items) = (splitDefaultExport? items).map
      fun (before, item, shape, after) => (body before, item, shape, body after) := by
  induction items with
  | nil => rfl
  | cons item rest ih =>
    cases hitem : isPreamble item with
    | true =>
      rw [body_cons_of_preamble hitem, ih, splitDefaultExport?, defaultExport_of_isPreamble hitem]
      cases splitDefaultExport? rest with
      | none => rfl
      | some found => simp [body_cons_of_preamble hitem]
    | false =>
      rw [body_cons hitem, splitDefaultExport?, splitDefaultExport?]
      cases DefaultExport.of? item with
      | some shape => rfl
      | none =>
        rw [ih]
        cases splitDefaultExport? rest with
        | none => rfl
        | some found => simp [body_cons hitem]

/-- The first default export, with what stands before and after it. -/
theorem splitDefaultExport?_eq_some {before after : List Node} {item : Node} {shape : DefaultExport}
    (h : splitDefaultExport? items = some (before, item, shape, after)) :
    items = before ++ item :: after ∧ (∀ item ∈ before, DefaultExport.of? item = none) ∧
      DefaultExport.of? item = some shape := by
  induction items generalizing before with
  | nil => cases h
  | cons first rest ih =>
    rw [splitDefaultExport?] at h
    cases hfirst : DefaultExport.of? first with
    | some shape' =>
      rw [hfirst] at h
      cases h
      exact ⟨rfl, by simp, hfirst⟩
    | none =>
      rw [hfirst] at h
      obtain ⟨⟨before', item', shape', after'⟩, hsplit, heq⟩ := Option.map_eq_some_iff.mp h
      cases heq
      obtain ⟨rfl, hbefore, hitem⟩ := ih hsplit
      exact ⟨rfl, List.forall_mem_cons.mpr ⟨hfirst, hbefore⟩, hitem⟩

theorem splitDefaultExport?_eq_none (h : splitDefaultExport? items = none) :
    ∀ item ∈ items, DefaultExport.of? item = none := by
  induction items with
  | nil => simp
  | cons first rest ih =>
    rw [splitDefaultExport?] at h
    cases hfirst : DefaultExport.of? first with
    | some shape =>
      rw [hfirst] at h
      cases h
    | none =>
      rw [hfirst] at h
      exact List.forall_mem_cons.mpr ⟨hfirst, ih (Option.map_eq_none_iff.mp h)⟩

/-- What is exported by default can be bound. -/
theorem exists_bindExport? {item : Node} {shape : DefaultExport}
    (h : DefaultExport.of? item = some shape) (derived : String) :
    ∃ bound, bindExport? derived item = some bound := by
  unfold DefaultExport.of? at h
  split at h
  · exact ⟨_, rfl⟩
  · exact ⟨_, rfl⟩
  · exact ⟨_, rfl⟩
  · cases h

/-- All that the step does.  The first default export decides: a reference names the component, and
anything else is bound in its place. -/
inductive BindCases (items : List Node) (s : State) : List Node → State → Prop
  | none (hnone : ∀ item ∈ items, DefaultExport.of? item = none) : BindCases items s items s
  | reference {before after : List Node} {item : Node} {name : String}
    (hitems : items = before ++ item :: after)
    (hbefore : ∀ item ∈ before, DefaultExport.of? item = .none)
    (hitem : DefaultExport.of? item = some (.reference name)) :
    BindCases items s items { s with component? := some name }
  | bound {before after : List Node} {item : Node} {shape : DefaultExport} {bound : Bound}
    (hitems : items = before ++ item :: after)
    (hbefore : ∀ item ∈ before, DefaultExport.of? item = .none)
    (hitem : DefaultExport.of? item = some shape) (hshape : ∀ name, shape ≠ .reference name)
    (hbound : bindExport? s.options.derivedName item = some bound) :
    BindCases items s (before ++ bound.item :: after) { s with component? := some bound.name }

theorem bindComponent_cases (items : List Node) (s : State) :
    BindCases items s (bindComponent items s).items (bindComponent items s).state := by
  unfold bindComponent
  split
  · next hsplit => exact .none (splitDefaultExport?_eq_none hsplit)
  · next hsplit =>
    obtain ⟨hitems, hbefore, hitem⟩ := splitDefaultExport?_eq_some hsplit
    exact .reference hitems hbefore hitem
  · next before item shape after hshape hsplit =>
    obtain ⟨hitems, hbefore, hitem⟩ := splitDefaultExport?_eq_some hsplit
    obtain ⟨bound, hbound⟩ := exists_bindExport? hitem s.options.derivedName
    rw [hbound]
    exact .bound hitems hbefore hitem hshape hbound

theorem isPreamble_of_bindExport? {derived : String} {item : Node} {bound : Bound}
    (h : bindExport? derived item = some bound) : isPreamble bound.item = false := by
  unfold bindExport? at h
  split at h
  · cases h
    rfl
  · cases h
    rfl
  · cases h

/-- **The component is bound in the body.**  Directives and imports neither help nor hinder. -/
theorem bindComponent_body (items : List Node) (s : State) :
    (bindComponent (body items) s).items = body (bindComponent items s).items ∧
      (bindComponent (body items) s).state = (bindComponent items s).state := by
  unfold bindComponent
  rw [splitDefaultExport?_body]
  rcases splitDefaultExport? items with _ | ⟨before, item, shape, after⟩
  · exact ⟨rfl, rfl⟩
  · cases shape with
    | reference name => exact ⟨rfl, rfl⟩
    | function name =>
      simp only [Option.map_some]
      cases hbound : bindExport? s.options.derivedName item with
      | none => exact ⟨rfl, rfl⟩
      | some bound =>
        refine ⟨?_, rfl⟩
        simp only [body_append, body_cons (isPreamble_of_bindExport? hbound)]
    | arrow =>
      simp only [Option.map_some]
      cases hbound : bindExport? s.options.derivedName item with
      | none => exact ⟨rfl, rfl⟩
      | some bound =>
        refine ⟨?_, rfl⟩
        simp only [body_append, body_cons (isPreamble_of_bindExport? hbound)]

theorem bindComponent_congr {items items' : List Node} (h : body items = body items') (s : State) :
    sketch (bindComponent items s).items = sketch (bindComponent items' s).items ∧
      (bindComponent items s).state = (bindComponent items' s).state := by
  obtain ⟨hitems, hstate⟩ := bindComponent_body items s
  obtain ⟨hitems', hstate'⟩ := bindComponent_body items' s
  rw [← h] at hitems' hstate'
  exact ⟨by rw [← sketch_body, ← hitems, hitems', sketch_body], hstate.symm.trans hstate'⟩

theorem options_bindComponent (items : List Node) (s : State) :
    (bindComponent items s).state.options = s.options := by
  unfold bindComponent
  split
  · rfl
  · rfl
  · split <;> rfl

/-! ### Expressions -/

theorem isInert_walk {walk : Node → Node} (hwalk : Keeps keptOf walk) (n : Node) :
    isInert (walk n) = isInert n := by
  rw [isInert, isInert, hwalk.kept_form]

theorem sketch_map {walk : Node → Node} (hwalk : Keeps keptOf walk) (items : List Node) :
    sketch (items.map walk) = sketch items := by
  induction items with
  | nil => rfl
  | cons item rest ih =>
    rw [List.map_cons]
    cases hitem : isInert item with
    | true =>
      rw [sketch_cons_of_inert hitem, sketch_cons_of_inert (by rw [isInert_walk hwalk, hitem]), ih]
    | false =>
      rw [sketch_cons hitem, sketch_cons (by rw [isInert_walk hwalk, hitem]),
        sketchOf_walk hwalk, ih]

/-- The forms of what is renamed, and of what comes of it: types are left alone, references get
another name, and a call may be followed by a member. -/
def isRenamed : Form → Bool
  | .type _ | .ref _ | .call | .member => true
  | _ => false

theorem rebuilds_renameHooks (renames : List HookRename) :
    Rebuilds isRenamed (renameHooks renames) := by
  refine Rebuilds.fold (fun f s parts hf => ?_) fun f s parts hf => ?_
  · unfold renameStep
    split
    · cases hf
    · cases hf
    · cases hf
    · rfl
  · unfold renameStep
    split
    · rfl
    · split <;> rfl
    · dsimp only
      split
      · split <;> rfl
      · rfl
    · exact hf

theorem keeps_renameHooks (renames : List HookRename) : Keeps keptOf (renameHooks renames) := by
  refine (rebuilds_renameHooks renames).keeps fun f hf => ?_
  unfold isRenamed at hf
  split at hf
  case h_5 => cases hf
  all_goals rfl

/-- Only elements are changed, and they stay elements. -/
theorem normalElement_cases (n : Node) :
    normalElement n = n ∨ n.form = .element ∧ (normalElement n).form = .element := by
  unfold normalElement
  split
  · exact Or.inr ⟨rfl, rfl⟩
  · split
    · exact Or.inr ⟨rfl, rfl⟩
    · exact Or.inr ⟨rfl, rfl⟩
  · exact Or.inl rfl

/-- The forms of what `normalize` changes; types are left alone. -/
def isNormalized : Form → Bool
  | .type _ | .element => true
  | _ => false

theorem rebuilds_normalize : Rebuilds isNormalized normalize := by
  refine Rebuilds.fold (fun f s parts hf => ?_) fun f s parts hf => ?_
  · unfold normalizeStep
    split
    · cases hf
    · rcases normalElement_cases (.mk f s (parts.map (·.2))) with hsame | ⟨hform, -⟩
      · exact hsame
      · obtain rfl : f = .element := hform
        cases hf
  · unfold normalizeStep
    split
    · rfl
    · rcases normalElement_cases (.mk f s (parts.map (·.2))) with hsame | ⟨-, hform⟩
      · rw [hsame]
        exact hf
      · rw [hform]
        rfl

theorem keeps_normalize : Keeps keptOf normalize := by
  refine rebuilds_normalize.keeps fun f hf => ?_
  unfold isNormalized at hf
  split at hf
  case h_3 => cases hf
  all_goals rfl

theorem sketch_normalizeElements (items : List Node) (s : State) :
    sketch (normalizeElements items s).items = sketch items :=
  sketch_map keeps_normalize items

theorem mapImport_cases (item : Node) :
    (mapImport item).apply item = item ∨
      isPreamble item = true ∧ isPreamble ((mapImport item).apply item) = true := by
  unfold mapImport
  split
  · split
    · exact Or.inl rfl
    · split
      · exact Or.inl rfl
      · exact Or.inr ⟨rfl, rfl⟩
  · exact Or.inl rfl

theorem sketch_mapHooks (items : List Node) (s : State) :
    sketch (mapHooks items s).items = sketch items := by
  have hmapped : sketch (items.map fun item => (mapImport item).apply item) = sketch items := by
    induction items with
    | nil => rfl
    | cons item rest ih =>
      rw [List.map_cons, ← List.singleton_append, sketch_append, ih,
        ← List.singleton_append (x := item), sketch_append]
      congr 1
      rcases mapImport_cases item with hsame | ⟨hitem, hnew⟩
      · rw [hsame]
      · rw [sketch_cons_of_inert (isInert_of_isPreamble hitem),
          sketch_cons_of_inert (isInert_of_isPreamble hnew)]
  unfold mapHooks
  dsimp only
  split
  · exact hmapped
  · rw [sketch_map (keeps_renameHooks _), hmapped]

/-! ### The shell -/

namespace Component

variable {c : Component} {name : String}

theorem exists_of_ofFunction? {around : Node → Node} {f : Node} (h : ofFunction? around f = some c)
    (newBody : Node) : ∃ f', c.withBody newBody = around f' ∧ f'.form = f.form := by
  unfold ofFunction? at h
  split at h
  · cases h
    exact ⟨_, rfl, rfl⟩
  · cases h

theorem exists_of_ofArrow? {around : Node → Node} {e : Node} (h : ofArrow? around e = some c)
    (newBody : Node) :
    ∃ e', c.withBody newBody = around e' ∧ e'.form = e.form ∧
      ∃ isAsync, e.form = .arrow isAsync := by
  unfold ofArrow? at h
  split at h
  · cases h
    exact ⟨_, rfl, rfl, _, rfl⟩
  · cases h

theorem sketchOf_eq_of_root {n n' : Node} (hform : n'.form = n.form) (h : keptOf n.form = .root) :
    sketchOf n' = sketchOf n := by
  rw [sketchOf_of_root h, sketchOf_of_root (by rw [hform, h]), hform]

/-- A new body changes nothing that the sketch of a value has. -/
theorem exists_of_ofValue? {around : Node → Node} {v : Node} (h : ofValue? around v = some c)
    (newBody : Node) : ∃ v', c.withBody newBody = around v' ∧ sketchOf v' = sketchOf v := by
  unfold ofValue? at h
  split at h
  · obtain ⟨f', heq, -⟩ := exists_of_ofFunction? h newBody
    exact ⟨_, heq, sketchOf_eq_of_root rfl rfl⟩
  · next s e =>
    obtain ⟨e', heq, hform, isAsync, harrow⟩ := exists_of_ofArrow? h newBody
    refine ⟨_, heq, ?_⟩
    rw [sketchOf_of_whole rfl, sketchOf_of_whole rfl, List.map_singleton, List.map_singleton,
      sketchOf_eq_of_root hform (by rw [harrow]; rfl)]
  · obtain ⟨e', heq, hform, isAsync, harrow⟩ := exists_of_ofArrow? h newBody
    exact ⟨e', heq, sketchOf_eq_of_root hform (by rw [harrow]; rfl)⟩

theorem exists_of_ofDeclarators? {ds : List Node} :
    ∀ {around : List Node → Node}, ofDeclarators? name around ds = some c → ∀ newBody,
      ∃ ds', c.withBody newBody = around ds' ∧ ds'.map sketchOf = ds.map sketchOf := by
  induction ds with
  | nil =>
    intro around h
    cases h
  | cons d ds ih =>
    intro around h newBody
    unfold ofDeclarators? at h
    split at h
    · split at h
      · obtain ⟨v', heq, hv⟩ := exists_of_ofValue? h newBody
        refine ⟨_, heq, ?_⟩
        rw [List.map_cons, List.map_cons, sketchOf_declarator, sketchOf_declarator, hv]
      · cases h
    · obtain ⟨ds', heq, hds⟩ := ih h newBody
      exact ⟨d :: ds', heq, by rw [List.map_cons, List.map_cons, hds]⟩

theorem exists_of_ofDeclaration? {around : Node → Node} {d : Node}
    (h : ofDeclaration? name around d = some c) (newBody : Node) :
    ∃ d', c.withBody newBody = around d' ∧ d'.form = d.form ∧ sketchOf d' = sketchOf d := by
  unfold ofDeclaration? at h
  split at h
  · split at h
    · obtain ⟨f', heq, -⟩ := exists_of_ofFunction? h newBody
      refine ⟨_, heq, rfl, ?_⟩
      rw [sketchOf_of_nothing rfl, sketchOf_of_nothing rfl]
    · cases h
  · split at h
    · obtain ⟨ds', heq, hds⟩ := exists_of_ofDeclarators? h newBody
      refine ⟨_, heq, rfl, ?_⟩
      rw [sketchOf_of_whole rfl, sketchOf_of_whole rfl, hds]
    · cases h
  · cases h

/-- A new body leaves the item what it was. -/
theorem form_of_ofItem? {item : Node} (h : ofItem? name item = some c) (newBody : Node) :
    (c.withBody newBody).form = item.form ∧ sketchOf (c.withBody newBody) = sketchOf item := by
  unfold ofItem? at h
  split at h
  · obtain ⟨d', heq, -, hsketch⟩ := exists_of_ofDeclaration? h newBody
    rw [heq]
    refine ⟨rfl, ?_⟩
    rw [sketchOf_of_whole rfl, sketchOf_of_whole rfl, List.map_singleton, List.map_singleton,
      hsketch]
  · obtain ⟨d', heq, hform, hsketch⟩ := exists_of_ofDeclaration? h newBody
    rw [heq]
    exact ⟨hform, hsketch⟩

theorem sketch_of_ofItem? {item : Node} (h : ofItem? name item = some c) (newBody : Node) :
    sketch [c.withBody newBody] = sketch [item] := by
  obtain ⟨hform, hsketch⟩ := form_of_ofItem? h newBody
  have hinert : isInert (c.withBody newBody) = isInert item := by
    rw [isInert, isInert, hform]
  cases hcase : isInert item with
  | true => rw [sketch_cons_of_inert hcase, sketch_cons_of_inert (by rw [hinert, hcase])]
  | false => rw [sketch_cons hcase, sketch_cons (by rw [hinert, hcase]), hsketch]

theorem exists_of_find? {before after : List Node}
    (h : find? name items = some (before, c, after)) :
    ∃ item, items = before ++ item :: after ∧ ofItem? name item = some c := by
  induction items generalizing before with
  | nil => cases h
  | cons item rest ih =>
    rw [find?] at h
    cases hitem : ofItem? name item with
    | some c' =>
      rw [hitem] at h
      cases h
      exact ⟨item, rfl, hitem⟩
    | none =>
      rw [hitem] at h
      obtain ⟨⟨before', c', after'⟩, hfind, heq⟩ := Option.map_eq_some_iff.mp h
      cases heq
      obtain ⟨found, rfl, hfound⟩ := ih hfind
      exact ⟨found, rfl, hfound⟩

end Component

/-- All that the step does: the item that declares the component gets a new body. -/
theorem fitShell_cases (items : List Node) (s : State) :
    (fitShell items s).items = items ∨
      ∃ before item after c newBody, items = before ++ item :: after ∧
        Component.ofItem? s.component item = some c ∧
        (fitShell items s).items = before ++ c.withBody newBody :: after := by
  unfold fitShell
  dsimp only
  split
  · exact Or.inl rfl
  · next before c after hfind =>
    obtain ⟨item, hitems, hitem⟩ := Component.exists_of_find? hfind
    exact Or.inr ⟨before, item, after, c, _, hitems, hitem, rfl⟩

theorem sketch_fitShell (items : List Node) (s : State) :
    sketch (fitShell items s).items = sketch items := by
  rcases fitShell_cases items s with hsame | ⟨before, item, after, c, newBody, rfl, hitem, heq⟩
  · rw [hsame]
  · rw [heq, ← List.singleton_append, ← List.singleton_append (x := item)]
    simp only [sketch_append, Component.sketch_of_ofItem? hitem]

theorem state_fitShell (items : List Node) (s : State) : (fitShell items s).state = s := by
  unfold fitShell
  dsimp only
  split <;> rfl

/-! ### One step after another -/

theorem items_next (t : Step) (pass : Pass) :
    (t.next pass).items = (pass.run t.items t.state).items := rfl

theorem state_next (t : Step) (pass : Pass) :
    (t.next pass).state = (pass.run t.items t.state).state := rfl

theorem warnings_next (t : Step) (pass : Pass) :
    (t.next pass).warnings = t.warnings ++ (pass.run t.items t.state).warnings := rfl

theorem state_stripUseClient (items : List Node) (s : State) :
    (stripUseClient items s).state = s := rfl

theorem state_importRouter (items : List Node) (s : State) : (importRouter items s).state = s := rfl

theorem state_eliminateFonts (items : List Node) (s : State) :
    (eliminateFonts items s).state = s := rfl

theorem component_registerRoute (items : List Node) (s : State) :
    (registerRoute items s).state.component = s.component := rfl

/-- No step changes the options. -/
theorem options_next (pass : Pass) (t : Step) :
    (t.next pass).state.options = t.state.options := by
  cases pass with
  | bindComponent => exact options_bindComponent t.items t.state
  | fitShell => exact congrArg State.options (state_fitShell t.items t.state)
  | _ => rfl

theorem options_foldl (passes : List Pass) (t : Step) :
    (passes.foldl Step.next t).state.options = t.state.options := by
  induction passes generalizing t with
  | nil => rfl
  | cons pass passes ih => exact (ih (t.next pass)).trans (options_next pass t)

end RouteMigration.Migration
