import RouteMigration.Proofs.ComponentExport

/-!
# Asynchronous components

A component is rendered synchronously, so one that is asynchronous is reported when it is bound, and
it stays asynchronous only if its body waits for something.  Two views of the module decide about
that.  A default export is recognised through parentheses and types, but only a bare function is
looked into; and of what may wait in a body, an `await using` and whatever stands in a type are not
looked at.  The report is exact apart from these.

## Main Definitions

* `openForms` — the forms in a tree that are reached without entering closed ones
* `Waits` — a body waits for something before it is done
* `wrappers` — the parentheses and types around an expression
* `ComponentFunction` — the function behind a default export, and behind a declaration

## Main Statements

* `awaits_iff` — which waiting the migration sees
* `exists_bindExport?_of_exported` — what becomes of an exported function, with what is told
* `async_component_reported_iff` — when an asynchronous component is reported and settled rightly
* `wrapped_async_component_is_silent` — an arrow function in parentheses is neither

## Design Notes

A getter, a setter and a constructor have no part of the form `function`, but none of them can wait
itself: the grammar has no `await` in them.  So it makes no difference that they are looked into.
-/

namespace RouteMigration.Migration

variable {item : Node}

/-! ### Waiting -/

/-- One step of `openForms`. -/
def openFormsStep (isClosed : Form → Bool) (form : Form) (_ : Option Span)
    (parts : List (Node × List Form)) : List Form :=
  if isClosed form then [] else form :: parts.flatMap (·.2)

/-- The forms in a tree, without closed ones and all that is in them. -/
def openForms (isClosed : Form → Bool) : Node → List Form := Node.fold (openFormsStep isClosed)

theorem openForms_mk (isClosed : Form → Bool) (f : Form) (s : Option Span) (ps : List Node) :
    openForms isClosed (.mk f s ps) =
      if isClosed f then [] else f :: ps.flatMap (openForms isClosed) := by
  rw [openForms, Node.fold_mk]
  unfold openFormsStep
  rw [List.flatMap_map]

/-- More is reached when less is closed. -/
theorem openForms_subset {isClosed isClosed' : Form → Bool}
    (hclosed : ∀ f, isClosed f = true → isClosed' f = true) (n : Node) :
    openForms isClosed' n ⊆ openForms isClosed n := by
  induction n using Node.induct with
  | mk f s ps ih =>
    intro form hform
    rw [openForms_mk] at hform ⊢
    split at hform
    · cases hform
    · next hopen =>
      rw [if_neg fun h => hopen (hclosed f h)]
      rcases List.mem_cons.mp hform with rfl | hpart
      · exact List.mem_cons_self
      · obtain ⟨p, hp, hmem⟩ := List.mem_flatMap.mp hpart
        exact List.mem_cons_of_mem _ (List.mem_flatMap.mpr ⟨p, hp, ih p hp hmem⟩)

/-- What is in such a form does not run when the form is reached. -/
def runsLater : Form → Bool
  | .function _ _ | .arrow _ => true
  | _ => false

/-- A form that waits for something: `await`, `for await` and `await using`. -/
def isWaiting : Form → Bool
  | .awaitExpr | .forOfStmt true | .varDecl .asyncResource _ => true
  | _ => false

/-- The body waits for something before it is done. -/
def Waits (body : Node) : Prop := ∃ f ∈ openForms runsLater body, isWaiting f = true

instance (body : Node) : Decidable (Waits body) :=
  inferInstanceAs (Decidable (∃ f ∈ openForms runsLater body, isWaiting f = true))

/-- **The waiting that is seen**: an `await` or `for await`, outside functions and types. -/
theorem awaits_iff (body : Node) :
    awaits body = true ↔
      ∃ f ∈ openForms (fun f => runsLater f || f.isType) body,
        f = .awaitExpr ∨ f = .forOfStmt true := by
  induction body using Node.induct with
  | mk f s ps ih =>
    rw [awaits, Node.fold_mk, openForms_mk]
    unfold awaitsStep
    split
    · simp [runsLater, Form.isType]
    · simp [runsLater, Form.isType]
    · simp [runsLater]
    · simp [runsLater]
    · simp [Form.isType]
    · next hawait hfor hfunction harrow htype =>
      have hopen : (runsLater f || f.isType) = false := by
        rw [Bool.or_eq_false_iff]
        constructor
        · unfold runsLater
          split
          · exact absurd rfl (hfunction _ _)
          · exact absurd rfl (harrow _)
          · rfl
        · unfold Form.isType
          split
          · exact absurd rfl (htype _)
          · rfl
      rw [hopen, List.any_map, List.any_eq_true]
      -- the form itself is no waiting that is seen, so it is in a part
      constructor
      · rintro ⟨p, hp, hawaits⟩
        obtain ⟨form, hform, hwaiting⟩ := (ih p hp).mp hawaits
        exact ⟨form, List.mem_cons_of_mem _ (List.mem_flatMap.mpr ⟨p, hp, hform⟩), hwaiting⟩
      · rintro ⟨form, hform, hwaiting⟩
        rcases List.mem_cons.mp hform with rfl | hpart
        · rcases hwaiting with rfl | rfl
          · exact absurd rfl hawait
          · exact absurd rfl hfor
        · obtain ⟨p, hp, hmem⟩ := List.mem_flatMap.mp hpart
          exact ⟨p, hp, (ih p hp).mpr ⟨form, hmem, hwaiting⟩⟩

/-- The waiting that is seen is waiting. -/
theorem waits_of_awaits {body : Node} (h : awaits body = true) : Waits body := by
  obtain ⟨f, hf, hwaiting⟩ := (awaits_iff body).mp h
  refine ⟨f, openForms_subset (fun f hlater => by simp [hlater]) body hf, ?_⟩
  rcases hwaiting with rfl | rfl
  · rfl
  · rfl

/-! ### Exported functions -/

/-- One step of `wrappers`. -/
def wrappersStep (form : Form) (_ : Option Span) (parts : List (Node × List Form)) : List Form :=
  match wrapped? form parts with
  | some (_, inner) => form :: inner
  | none => []

/-- The parentheses and types around an expression, from the outside in. -/
def wrappers : Node → List Form := Node.fold wrappersStep

theorem wrappers_mk (f : Form) (s : Option Span) (ps : List Node) :
    wrappers (.mk f s ps) =
      match wrapped? f ps with
      | some e => f :: wrappers e
      | none => [] := by
  rw [wrappers, Node.fold_mk]
  unfold wrappersStep
  rw [wrapped?_map]
  cases wrapped? f ps <;> rfl

/-- An expression with nothing around it is what is unwrapped. -/
theorem unwrapped_of_wrappers {e : Node} (h : wrappers e = []) : Shape.unwrapped e = e := by
  obtain ⟨f, s, ps⟩ := e
  rw [wrappers_mk] at h
  rw [unwrapped_mk]
  cases he : wrapped? f ps with
  | none => rfl
  | some e =>
    rw [he] at h
    cases h

/-- The parentheses and types around an expression that is exported by default. -/
def exportWrappers : Node → List Form
  | .exportDefaultExpr _ e => wrappers e
  | _ => []

/-- What is asked of a function that implements a component. -/
structure ComponentFunction where
  isAsync : Bool
  body : Node

namespace ComponentFunction

/-- A function. -/
def ofFunction? : Node → Option ComponentFunction
  | .function _ isAsync _ _ _ _ body => some ⟨isAsync, body⟩
  | _ => none

/-- An arrow function. -/
def ofArrow? : Node → Option ComponentFunction
  | .arrow _ isAsync _ _ _ body => some ⟨isAsync, body⟩
  | _ => none

/-- The function that an item exports by default; an arrow function may be in parentheses and under
types. -/
def exported? : Node → Option ComponentFunction
  | .exportDefaultDecl _ (.functionExpr _ _ f) => ofFunction? f
  | .exportDefaultExpr _ e => ofArrow? (Shape.unwrapped e)
  | _ => none

/-- The function that a declaration of one name gives to it. -/
def declared? : Node → Option ComponentFunction
  | .functionDecl _ _ _ f => ofFunction? f
  | .varDecl _ _ _ [.declarator _ _ _ value] => ofArrow? (Shape.unwrapped value)
  | _ => none

variable {f : ComponentFunction}

theorem ofFunction?_eq_some {n : Node} (h : ofFunction? n = some f) :
    ∃ s isGenerator types params result,
      n = .function s f.isAsync isGenerator types params result f.body := by
  unfold ofFunction? at h
  split at h
  · cases h
    exact ⟨_, _, _, _, _, rfl⟩
  · cases h

theorem ofArrow?_eq_some {n : Node} (h : ofArrow? n = some f) :
    ∃ s types params result, n = .arrow s f.isAsync types params result f.body := by
  unfold ofArrow? at h
  split at h
  · cases h
    exact ⟨_, _, _, _, rfl⟩
  · cases h

/-- What exports a function is a function, or an arrow function with something around it. -/
theorem exported?_eq_some (h : exported? item = some f) :
    (∃ s fs name gs isGenerator types params result, item = .exportDefaultDecl s
        (.functionExpr fs name (.function gs f.isAsync isGenerator types params result f.body))) ∨
      ∃ s e as types params result, item = .exportDefaultExpr s e ∧
        Shape.unwrapped e = .arrow as f.isAsync types params result f.body := by
  unfold exported? at h
  split at h
  · obtain ⟨gs, isGenerator, types, params, result, rfl⟩ := ofFunction?_eq_some h
    exact Or.inl ⟨_, _, _, gs, isGenerator, types, params, result, rfl⟩
  · obtain ⟨as, types, params, result, heq⟩ := ofArrow?_eq_some h
    exact Or.inr ⟨_, _, as, types, params, result, rfl, heq⟩
  · cases h

/-- What exports a function exports no name. -/
theorem exists_shape (h : exported? item = some f) :
    ∃ shape, DefaultExport.of? item = some shape ∧ ∀ name, shape ≠ .reference name := by
  rcases exported?_eq_some h with
    ⟨s, fs, ⟨g, ns, ps⟩, gs, isGenerator, types, params, result, rfl⟩ |
    ⟨s, e, as, types, params, result, rfl, he⟩
  · unfold DefaultExport.of?
    split
    · exact ⟨_, rfl, by simp⟩
    · exact ⟨_, rfl, by simp⟩
    · next heq => cases heq
    · next hne _ => exact absurd rfl (hne _ _ _ _)
  · rw [DefaultExport.of?, he]
    exact ⟨_, rfl, by simp⟩

end ComponentFunction

/-! ### The binding -/

theorem code_asyncWarning (isAwaiting : Bool) (name : String) :
    (asyncWarning isAwaiting name).code = "W-EXPORT-002" := by
  cases isAwaiting <;> rfl

/-- An arrow function with something around it is left as it is. -/
theorem settleArrow_of_wrapped {e : Node} (h : wrappers e ≠ []) (name : String) :
    settleArrow name e = (e, []) := by
  unfold settleArrow
  split
  · exact absurd (wrappers_mk ..) h
  · rfl

/-- **The function that is bound.**  It has the body of the exported one.  Without anything around
it, it is told about if it is asynchronous, and stays so if it is seen to wait; in parentheses or
under a type it stays what it is, and nothing is told. -/
theorem exists_bindExport?_of_exported {f : ComponentFunction}
    (h : ComponentFunction.exported? item = some f) (derived : String) :
    ∃ bound, bindExport? derived item = some bound ∧
      ComponentFunction.declared? bound.item =
        some { f with isAsync := f.isAsync && (!(exportWrappers item).isEmpty || awaits f.body) } ∧
      bound.warnings =
        if f.isAsync && (exportWrappers item).isEmpty then [asyncWarning (awaits f.body) bound.name]
        else [] := by
  obtain ⟨isAsync, body⟩ := f
  rcases ComponentFunction.exported?_eq_some h with
    ⟨s, fs, name, gs, isGenerator, types, params, result, rfl⟩ |
    ⟨s, e, as, types, params, result, rfl, he⟩
  · refine ⟨_, rfl, ?_⟩
    cases isAsync with
    | false => exact ⟨rfl, rfl⟩
    | true => exact ⟨rfl, rfl⟩
  · refine ⟨_, rfl, ?_⟩
    show ComponentFunction.ofArrow? (Shape.unwrapped (settleArrow derived e).1) = _ ∧
      (settleArrow derived e).2 = _
    by_cases hbare : wrappers e = []
    · rw [unwrapped_of_wrappers hbare] at he
      subst he
      cases isAsync with
      | false => exact ⟨rfl, rfl⟩
      | true =>
        refine ⟨?_, rfl⟩
        rw [settleArrow, unwrapped_of_wrappers (wrappers_mk ..)]
        rfl
    · have hempty : (wrappers e).isEmpty = false := List.isEmpty_eq_false_iff.mpr hbare
      rw [settleArrow_of_wrapped hbare, he]
      simp [exportWrappers, hempty, ComponentFunction.ofArrow?]

theorem splitDefaultExport?_append_cons {before : List Node} {shape : DefaultExport}
    (hbefore : ∀ other ∈ before, DefaultExport.of? other = none)
    (hitem : DefaultExport.of? item = some shape) (after : List Node) :
    splitDefaultExport? (before ++ item :: after) = some (before, item, shape, after) := by
  induction before with
  | nil => rw [List.nil_append, splitDefaultExport?, hitem]
  | cons first rest ih =>
    rw [List.forall_mem_cons] at hbefore
    rw [List.cons_append, splitDefaultExport?, hbefore.1, ih hbefore.2]
    rfl

/-- The first default export, if it is no name, is bound in its place. -/
theorem bindComponent_append_cons {before : List Node} {shape : DefaultExport} {s : State}
    {bound : Bound} (hbefore : ∀ other ∈ before, DefaultExport.of? other = none)
    (hitem : DefaultExport.of? item = some shape) (hshape : ∀ name, shape ≠ .reference name)
    (hbound : bindExport? s.options.derivedName item = some bound) (after : List Node) :
    bindComponent (before ++ item :: after) s =
      { items := before ++ bound.item :: after
        state := { s with component? := some bound.name }
        isModified := true
        warnings := bound.warnings } := by
  unfold bindComponent
  rw [splitDefaultExport?_append_cons hbefore hitem]
  cases shape with
  | reference name => exact absurd rfl (hshape name)
  | function name => simp only [hbound]
  | arrow => simp only [hbound]

/-- What exports a function declares the component once it is bound. -/
theorem ComponentFunction.exists_binds {f : ComponentFunction} {derived : String} {bound : Bound}
    (h : ComponentFunction.exported? item = some f)
    (hbound : bindExport? derived item = some bound) :
    ∃ binder, Binds bound.name binder bound.item := by
  obtain ⟨shape, hshape, hne⟩ := ComponentFunction.exists_shape h
  obtain ⟨name, binder, hname⟩ : ∃ name binder, boundAs? derived shape = some (name, binder) := by
    cases shape with
    | reference name => exact absurd rfl (hne name)
    | function given => exact ⟨_, _, rfl⟩
    | arrow => exact ⟨_, _, rfl⟩
  obtain ⟨rfl, hbinds⟩ := binds_of_bindExport? hbound hshape hname
  exact ⟨binder, hbinds⟩

/-- **Asynchronous components.**  The exported function is bound in place of the export, with its
body.  If it is not asynchronous, it stays so and nothing is told.  If it is, then there is exactly
one warning, and it is left asynchronous exactly when its body waits for something, provided that
the function stands bare and that, if the body waits, it does so by an `await` or `for await`
outside types.  Nothing weaker will do. -/
theorem async_component_reported_iff (before after : List Node) (item : Node)
    (f : ComponentFunction) (s : State)
    (hbefore : ∀ other ∈ before, DefaultExport.of? other = none)
    (hitem : ComponentFunction.exported? item = some f) :
    let step := bindComponent (before ++ item :: after) s
    ∃ declaration binder g, step.items = before ++ declaration :: after ∧
      Binds step.state.component binder declaration ∧
      ComponentFunction.declared? declaration = some g ∧ g.body = f.body ∧
      (f.isAsync = false →
        g.isAsync = false ∧ ∀ w ∈ step.warnings, w.code ≠ "W-EXPORT-002") ∧
      (f.isAsync = true →
        (step.warnings.countP (·.code = "W-EXPORT-002") = 1 ∧
            (g.isAsync = true ↔ Waits f.body) ↔
          exportWrappers item = [] ∧ (Waits f.body → awaits f.body = true))) := by
  intro step
  obtain ⟨shape, hshape, hne⟩ := ComponentFunction.exists_shape hitem
  obtain ⟨bound, hbound, hdeclared, hwarnings⟩ :=
    exists_bindExport?_of_exported hitem s.options.derivedName
  obtain ⟨binder, hbinds⟩ := ComponentFunction.exists_binds hitem hbound
  have hstep : step = _ := bindComponent_append_cons hbefore hshape hne hbound after
  rw [hstep]
  refine ⟨bound.item, binder, _, rfl, hbinds, hdeclared, rfl, ?_, ?_⟩
  · intro hsync
    simp [hwarnings, hsync]
  · intro hasync
    by_cases hbare : exportWrappers item = []
    · simp only [hwarnings, hasync, hbare, List.isEmpty_nil, Bool.not_true, Bool.false_or,
        Bool.true_and, if_true, List.countP_singleton, code_asyncWarning, decide_true, true_and]
      exact ⟨fun hiff => hiff.mpr, fun hseen => ⟨waits_of_awaits, hseen⟩⟩
    · -- nothing is told about a function that is not bare
      simp [hwarnings, hasync, hbare]

/-- `export default (async () => null);` -/
def wrappedAsyncExport : Node :=
  .exportDefaultExpr none
    (.paren none (.arrow none true .absent [] .absent (.mk .null none [])))

/-- An asynchronous arrow function in parentheses stays asynchronous though it waits for nothing,
and nobody is told. -/
theorem wrapped_async_component_is_silent :
    let step := bindComponent [wrappedAsyncExport] { options := {} }
    ComponentFunction.exported? wrappedAsyncExport = some ⟨true, .mk .null none []⟩ ∧
      ∃ declaration g, step.items = [declaration] ∧
        ComponentFunction.declared? declaration = some g ∧ g.isAsync = true ∧ ¬Waits g.body ∧
        step.warnings.countP (·.code = "W-EXPORT-002") = 0 ∧
        ¬(step.warnings.countP (·.code = "W-EXPORT-002") = 1 ∧
          (g.isAsync = true ↔ Waits g.body)) := by
  intro step
  obtain ⟨declaration, binder, g, hitems, -, hdeclared, hbody, -, hreported⟩ :=
    async_component_reported_iff [] [] wrappedAsyncExport ⟨true, .mk .null none []⟩
      { options := {} } (by simp) rfl
  have hnot := (hreported rfl).not.mpr fun h => absurd h.1 (by decide)
  obtain rfl : _ = declaration := (List.cons.inj hitems).1
  obtain rfl := Option.some.inj hdeclared
  exact ⟨rfl, _, _, rfl, rfl, rfl, by decide, rfl, hnot⟩

/-- The body `{ await using handle = null; }` waits, and the migration does not see it. -/
example :
    let body := Node.mk .block none [.varDecl none .asyncResource false
      [.declarator none false (.mk (.binding "handle" false) none [.absent]) (.mk .null none [])]]
    Waits body ∧ awaits body = false := by
  decide

end RouteMigration.Migration
