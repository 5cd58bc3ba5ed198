import RouteMigration.Proofs.Bindings
import RouteMigration.Proofs.Uses

/-!
# The parameters of a layout

The component of a layout loses its parameters.  What its body used of them is gone, and the user is
warned about the one name that layouts get from everywhere, `children`.  The warning is exact for
that name: without it the new body does not use `children` at all.  No other parameter is looked
for.

## Main Definitions

* `Implementation` — the parameters and the body of a component
* `Implementation.find?` — those of the component of a name
* `parameterNames` — the names that a parameter binds

## Main Statements

* `exists_component` — the step finds the implementation, and puts one without parameters there
* `quiet_layout_uses_no_children` — without the warning the new body does not use `children`
* `params_used_without_warning` — another parameter may still be used, and nobody is told

## Design Notes

`Component` keeps a function that puts the item together again, and only whether there were
parameters.  `Implementation` reads the parameters off the items, before and after, so that the
statements do not depend on how the step goes about it; `Views` says that the two agree.
-/

namespace RouteMigration.Migration

/-- The parameters and the body of a component. -/
structure Implementation where
  params : List Node
  body : Node

namespace Implementation

/-- The implementation in a function. -/
def ofFunction? : Node → Option Implementation
  | .function _ _ _ _ params _ body => some ⟨params, body⟩
  | _ => none

/-- The implementation in an arrow function. -/
def ofArrow? : Node → Option Implementation
  | .arrow _ _ _ params _ body => some ⟨params, body⟩
  | _ => none

/-- The implementation in the value of a variable. -/
def ofValue? : Node → Option Implementation
  | .functionExpr _ _ f => ofFunction? f
  | .paren _ e => ofArrow? e
  | e => ofArrow? e

/-- The implementation in the first declarator of a name. -/
def ofDeclarators? (name : String) : List Node → Option Implementation
  | [] => none
  | d :: ds =>
    if Shape.boundName? d == some name then
      match d with
      | .declarator _ _ _ value => ofValue? value
      | _ => none
    else ofDeclarators? name ds

/-- The implementation that a declaration gives to a name. -/
def ofDeclaration? (name : String) : Node → Option Implementation
  | .functionDecl _ _ (.ident _ n) f => if n = name then ofFunction? f else none
  | .varDecl _ kind _ ds => if Shape.isVariable kind then ofDeclarators? name ds else none
  | _ => none

/-- The implementation that an item gives to a name, exported or not. -/
def ofItem? (name : String) : Node → Option Implementation
  | .exportDecl _ d => ofDeclaration? name d
  | d => ofDeclaration? name d

/-- The implementation that a module gives to a name. -/
def find? (name : String) (items : List Node) : Option Implementation :=
  items.findSome? (ofItem? name)

end Implementation

/-- The names that a parameter binds; those of an arrow function are patterns themselves. -/
def parameterNames : Node → List String
  | .mk .param _ [pattern] => patternNames pattern
  | pattern => patternNames pattern

/-! ### Components and implementations -/

/-- A component, if one is found, has the implementation that `view` reads, and one without
parameters once it has a new body. -/
inductive Views {ν : Type} (view : ν → Option Implementation) (around : ν → Node) (n : ν) :
    Option Component → Prop
  | none (hview : view n = .none) : Views view around n .none
  | some {c : Component} {params : List Node} (hview : view n = .some ⟨params, c.body⟩)
    (hparams : c.hasParams = !params.isEmpty)
    (hbody : ∀ body, ∃ n', c.withBody body = around n' ∧ view n' = .some ⟨[], body⟩) :
    Views view around n (.some c)

namespace Views

variable {ν μ : Type} {view : ν → Option Implementation} {view' : μ → Option Implementation}
  {found : Option Component}

/-- What is read inside of something is read of the whole. -/
theorem lift (wrap : ν → μ) {around : μ → Node} {n : ν} (hview : view' (wrap n) = view n)
    (hsome : ∀ n' i, view n' = .some i → view' (wrap n') = .some i)
    (h : Views view (fun n => around (wrap n)) n found) : Views view' around (wrap n) found := by
  cases h with
  | none hnone => exact .none (hview.trans hnone)
  | some hfound hparams hbody =>
    refine .some (hview.trans hfound) hparams fun body => ?_
    obtain ⟨n', hwith, hn'⟩ := hbody body
    exact ⟨wrap n', hwith, hsome n' _ hn'⟩

theorem ofFunction? (around : Node → Node) (f : Node) :
    Views Implementation.ofFunction? around f (Component.ofFunction? around f) := by
  unfold Component.ofFunction?
  split
  · exact .some rfl rfl fun body => ⟨_, rfl, rfl⟩
  · next hne =>
    refine .none ?_
    unfold Implementation.ofFunction?
    split
    · exact absurd rfl (hne _ _ _ _ _ _ _)
    · rfl

theorem ofArrow? (around : Node → Node) (e : Node) :
    Views Implementation.ofArrow? around e (Component.ofArrow? around e) := by
  unfold Component.ofArrow?
  split
  · exact .some rfl rfl fun body => ⟨_, rfl, rfl⟩
  · next hne =>
    refine .none ?_
    unfold Implementation.ofArrow?
    split
    · exact absurd rfl (hne _ _ _ _ _ _)
    · rfl

/-- What is an arrow function itself is one as a value. -/
theorem ofValue?_of_ofArrow? {e : Node} {i : Implementation}
    (h : Implementation.ofArrow? e = .some i) : Implementation.ofValue? e = .some i := by
  unfold Implementation.ofArrow? at h
  split at h
  · exact h
  · cases h

theorem ofValue? (around : Node → Node) (v : Node) :
    Views Implementation.ofValue? around v (Component.ofValue? around v) := by
  unfold Component.ofValue?
  split
  · next s name f =>
    exact lift (fun f => Node.functionExpr s name f) rfl (fun _ _ h => h) (ofFunction? _ f)
  · next s e => exact lift (fun e => Node.paren s e) rfl (fun _ _ h => h) (ofArrow? _ e)
  · next hexpr hparen =>
    refine lift id ?_ (fun _ _ h => ofValue?_of_ofArrow? h) (ofArrow? _ v)
    show Implementation.ofValue? v = _
    unfold Implementation.ofValue?
    split
    · exact absurd rfl (hexpr _ _ _)
    · exact absurd rfl (hparen _ _)
    · rfl

theorem ofDeclarators? (name : String) (ds : List Node) : ∀ around : List Node → Node,
    Views (Implementation.ofDeclarators? name) around ds
      (Component.ofDeclarators? name around ds) := by
  induction ds with
  | nil => exact fun around => .none rfl
  | cons d ds ih =>
    intro around
    unfold Component.ofDeclarators?
    split
    · next hname =>
      split
      · next isDefinite s pattern value =>
        have hbound : ∀ v, (Shape.boundName? (.declarator s isDefinite pattern v) == .some name) =
            true := by
          intro v
          rwa [boundName?_declarator] at hname ⊢
        refine lift (fun v => Node.declarator s isDefinite pattern v :: ds) ?_ ?_
          (ofValue? _ value)
        · exact if_pos (hbound value)
        · intro v i hv
          exact (if_pos (hbound v)).trans hv
      · next hne =>
        refine .none ?_
        unfold Implementation.ofDeclarators?
        rw [if_pos hname]
        split
        · exact absurd rfl (hne _ _ _ _)
        · rfl
    · next hname =>
      refine lift (fun ds => d :: ds) ?_ ?_ (ih _)
      · exact if_neg hname
      · intro ds' i hds'
        exact (if_neg hname).trans hds'

theorem ofDeclaration? (name : String) (around : Node → Node) (d : Node) :
    Views (Implementation.ofDeclaration? name) around d
      (Component.ofDeclaration? name around d) := by
  unfold Component.ofDeclaration?
  split
  · next isDeclare s n ns f =>
    split
    · next hname =>
      refine lift (fun f => Node.functionDecl s isDeclare (.ident ns n) f) ?_ ?_
        (ofFunction? _ f)
      · exact if_pos hname
      · intro f' i hf'
        exact (if_pos hname).trans hf'
    · next hname => exact .none (if_neg hname)
  · next kind isDeclare s ds =>
    split
    · next hkind =>
      refine lift (fun ds => Node.varDecl s kind isDeclare ds) ?_ ?_ (ofDeclarators? name ds _)
      · exact if_pos hkind
      · intro ds' i hds'
        exact (if_pos hkind).trans hds'
    · next hkind => exact .none (if_neg hkind)
  · next hfunction hvariable =>
    refine .none ?_
    unfold Implementation.ofDeclaration?
    split
    · exact absurd rfl (hfunction _ _ _ _ _)
    · exact absurd rfl (hvariable _ _ _ _)
    · rfl

theorem ofItem?_of_ofDeclaration? {name : String} {d : Node} {i : Implementation}
    (h : Implementation.ofDeclaration? name d = .some i) :
    Implementation.ofItem? name d = .some i := by
  unfold Implementation.ofItem?
  split
  · cases h
  · exact h

theorem ofItem? (name : String) (item : Node) :
    Views (Implementation.ofItem? name) id item (Component.ofItem? name item) := by
  unfold Component.ofItem?
  split
  · next s d =>
    exact lift (fun d => Node.exportDecl s d) rfl (fun _ _ h => h) (ofDeclaration? name _ d)
  · next hne =>
    refine lift id ?_ (fun _ _ h => ofItem?_of_ofDeclaration? h)
      (ofDeclaration? name _ item)
    show Implementation.ofItem? name item = _
    unfold Implementation.ofItem?
    split
    · exact absurd rfl (hne _ _)
    · rfl

end Views

theorem find?_append {name : String} {before after : List Node} {item : Node} {c : Component}
    (hbefore : ∀ i ∈ before, Component.ofItem? name i = none)
    (hitem : Component.ofItem? name item = some c) :
    Component.find? name (before ++ item :: after) = some (before, c, after) := by
  induction before with
  | nil => rw [List.nil_append, Component.find?, hitem]
  | cons i before ih =>
    rw [List.forall_mem_cons] at hbefore
    rw [List.cons_append, Component.find?, hbefore.1, ih hbefore.2]
    rfl

theorem ofItem?_eq_none {name : String} {item : Node}
    (h : Implementation.ofItem? name item = none) : Component.ofItem? name item = none := by
  have hitem := Views.ofItem? name item
  cases hfound : Component.ofItem? name item with
  | none => rfl
  | some c =>
    rw [hfound] at hitem
    cases hitem with
    | some hview =>
      rw [h] at hview
      cases hview

/-- **The component of a module.**  It is the implementation of its name that the first item
declares, and with a new body that item declares one without parameters. -/
theorem exists_component {name : String} {items : List Node} {i : Implementation}
    (h : Implementation.find? name items = some i) :
    ∃ before item after c, items = before ++ item :: after ∧
      (∀ item ∈ before, Implementation.ofItem? name item = none) ∧
      Implementation.ofItem? name item = some i ∧
      Component.find? name items = some (before, c, after) ∧ c.body = i.body ∧
      (c.hasParams = !i.params.isEmpty) ∧
      ∀ body, Implementation.ofItem? name (c.withBody body) = some ⟨[], body⟩ := by
  obtain ⟨before, item, after, rfl, hitem, hbefore⟩ := List.findSome?_eq_some_iff.mp h
  have hnone : ∀ item ∈ before, Component.ofItem? name item = none := fun item hmem =>
    ofItem?_eq_none (hbefore item hmem)
  have hviews := Views.ofItem? name item
  cases hfound : Component.ofItem? name item with
  | none =>
    rw [hfound] at hviews
    cases hviews with
    | none hview =>
      rw [hitem] at hview
      cases hview
  | some c =>
    rw [hfound] at hviews
    cases hviews with
    | some hview hparams hbody =>
      rw [hitem] at hview
      cases hview
      refine ⟨before, item, after, c, rfl, hbefore, hitem, find?_append hnone hfound, rfl,
        hparams, ?_⟩
      intro body
      obtain ⟨newItem, hwith, hnewItem⟩ := hbody body
      rw [hwith]
      exact hnewItem

theorem items_fitShell {items before after : List Node} {s : State} {c : Component}
    (hfind : Component.find? s.component items = some (before, c, after)) :
    (fitShell items s).items =
      before ++ c.withBody (shell (s.options.kind = .rootLayout) c.body) :: after := by
  unfold fitShell
  simp only [hfind]

/-! ### The warning -/

/-- **The children of a layout.**  Where the component had parameters and there is no warning that
the children are still used, the new body does not use `children` outside of its types, whatever
binds it.  So if the parameters bound no other name, nothing is used that they bound. -/
theorem quiet_layout_uses_no_children (items : List Node) (s : State) (params : List Node)
    (body : Node) (hfound : Implementation.find? s.component items = some ⟨params, body⟩)
    (hparams : params ≠ [])
    (hquiet : ∀ w ∈ (fitShell items s).warnings, w.code ≠ "W-SHELL-004") :
    let newBody := shell (s.options.kind = .rootLayout) body
    Implementation.find? s.component (fitShell items s).items = some ⟨[], newBody⟩ ∧
      (∀ u ∈ uses newBody, u.name ≠ "children") ∧
      ((∀ x ∈ params.flatMap parameterNames, x = "children") →
        ∀ u ∈ uses newBody, u.name ∉ params.flatMap parameterNames) := by
  intro newBody
  obtain ⟨before, item, after, c, -, hbefore, -, hfind, rfl, hhas, hbody⟩ := exists_component hfound
  have hhas : c.hasParams = true := by
    rw [hhas, Bool.not_eq_true', List.isEmpty_eq_false_iff]
    exact hparams
  have hnone : ∀ u ∈ uses newBody, u.name ≠ "children" := by
    intro u hu hname
    have hmentions : ShellCount.mentionsChildren newBody = true :=
      mentionsChildren_of_mem_uses hu hname
    refine hquiet (.childrenLeft s.component) ?_ rfl
    unfold fitShell
    simp [hfind, hhas, newBody, hmentions]
  refine ⟨?_, hnone, fun honly u hu hmem => hnone u hu (honly _ hmem)⟩
  rw [items_fitShell hfind]
  exact List.findSome?_eq_some_iff.mpr ⟨before, _, after, rfl, hbody newBody, hbefore⟩

/-- The parameter `{ name }` of a function. -/
def propertyParam (name : String) : Node :=
  .mk .param none [.mk (.objectPattern false) none [.seq [.mk .bindingProperty none
    [.mk (.binding name false) none [.absent], .absent]], .absent]]

/-- `function Layout({ name }) { return <p>...</p>; }` -/
def layoutWith (name : String) (child : Node) : List Node :=
  [.functionDecl none false (.ident none "Layout")
    (.function none false false .absent [propertyParam name] .absent
      (.mk .block none [.mk .returnStmt none [Build.element "p" [] [child]]]))]

/-- The state in which a layout with that component is changed. -/
def layoutState : State := { options := { kind := .layout }, component? := some "Layout" }

/-- The children that a layout shows are shown by the outlet, and nothing else used them. -/
theorem layout_with_children_is_quiet :
    let items := layoutWith "children" (.container none (.ref none "children"))
    ∃ newBody, Implementation.find? "Layout" (fitShell items layoutState).items =
        some ⟨[], newBody⟩ ∧
      ∀ u ∈ uses newBody, u.name ∉ [propertyParam "children"].flatMap parameterNames := by
  intro items
  obtain ⟨hfind, -, hunused⟩ := quiet_layout_uses_no_children items layoutState
    [propertyParam "children"] _ rfl (by simp) (by decide)
  exact ⟨_, hfind, hunused (by decide)⟩

/-- One step of `boundNames`. -/
def boundNamesStep (form : Form) (_ : Option Span) (parts : List (Node × List String)) :
    List String :=
  match form with
  | .binding name _ | .ident name => name :: parts.flatMap (·.2)
  | _ => parts.flatMap (·.2)

/-- The names that are bound or declared anywhere in a tree. -/
def boundNames : Node → List String := Node.fold boundNamesStep

/-- `function Layout({ params }) { return <p>{params.id}</p>; }`: its parameter is removed, its
body reads a name that nothing in it binds, and there is no warning. -/
theorem params_used_without_warning :
    let items := layoutWith "params"
      (.container none (.member none (.ref none "params") (.word none "id")))
    ∃ params body newBody,
      Implementation.find? "Layout" items = some ⟨params, body⟩ ∧ params ≠ [] ∧
      (fitShell items layoutState).warnings = [] ∧
      Implementation.find? "Layout" (fitShell items layoutState).items = some ⟨[], newBody⟩ ∧
      "params" ∈ params.flatMap parameterNames ∧
      .read "params" ∈ uses newBody ∧ "params" ∉ boundNames newBody := by
  intro items
  exact ⟨_, _, _, rfl, by simp, by decide, rfl, by decide, by decide, by decide⟩

end RouteMigration.Migration
