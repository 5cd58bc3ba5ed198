import Mathlib.Data.List.Forall2
import RouteMigration.Proofs.FontElimination
import RouteMigration.Proofs.Handlers

/-!
# The handlers of an API route

A module exports request handlers by declarations that declare nothing else.  Each of these loses
its `export` and stays what it is, and the registration lists the names of all of them, in the order
of the module.  A statement that declares a handler beside something else is no such declaration:
it stays exported, and its handler is not listed.

## Main Definitions

* `IsMethod` — the names of request methods
* `DeclaresHandlers` — a declaration declares handlers and nothing else, and which
* `Collected` — what becomes of an item, and the handlers that it gives to the registration
* `serverHandlers?` — the handlers that a registration lists, read off its syntax

## Main Statements

* `handlerNames_eq_iff`, `collected_iff` — what counts as a handler
* `serverHandlers?_item` — a registration lists the handlers it was built with
* `handlers_are_collected` — the registration of an API route, and everything beside it
-/

namespace RouteMigration.Migration

/-! ### Declarations of handlers -/

/-- The declarator binds one plain variable of that name. -/
def BindsVariable (d : Node) (name : String) : Prop :=
  ∃ s isDefinite pattern value isOptional,
    d = .declarator s isDefinite pattern value ∧ pattern.form = .binding name isOptional

theorem boundName?_eq_some_iff_bindsVariable {d : Node} {name : String} :
    Shape.boundName? d = some name ↔ BindsVariable d name := boundName?_eq_some

/-- The name is that of a request method. -/
def IsMethod (name : String) : Prop :=
  name ∈ ["GET", "POST", "PUT", "DELETE", "PATCH", "HEAD", "OPTIONS"]

theorem isHttpMethod_iff {name : String} : isHttpMethod name = true ↔ IsMethod name :=
  List.contains_iff_mem

/-- The declaration declares request handlers, with these names, and nothing else. -/
inductive DeclaresHandlers : Node → List String → Prop
  | function {s s' : Option Span} {isDeclare : Bool} {name : String} {f : Node}
    (hname : IsMethod name) :
    DeclaresHandlers (.functionDecl s isDeclare (.ident s' name) f) [name]
  | statement {s : Option Span} {kind : VarKind} {isDeclare : Bool} {ds : List Node}
    {names : List String} (hkind : Shape.isVariable kind = true) (hne : ds ≠ [])
    (hds : List.Forall₂ (fun d name => BindsVariable d name ∧ IsMethod name) ds names) :
    DeclaresHandlers (.varDecl s kind isDeclare ds) names

theorem DeclaresHandlers.ne_nil {d : Node} {names : List String} (h : DeclaresHandlers d names) :
    names ≠ [] := by
  cases h with
  | function => simp
  | statement hkind hne hds =>
    rintro rfl
    exact hne (List.forall₂_nil_right_iff.mp hds)

/-- A list that kept its length under a choice lost none of its members. -/
theorem filter_filterMap_eq_iff {α β : Type} {f : α → Option β} {p : β → Bool} {xs : List α}
    {ys : List β} :
    (xs.filterMap f).filter p = ys ∧ ys.length = xs.length ↔
      List.Forall₂ (fun x y => f x = some y ∧ p y = true) xs ys := by
  have hle : ∀ xs : List α, ((xs.filterMap f).filter p).length ≤ xs.length := fun xs =>
    (List.length_filter_le _ _).trans (List.length_filterMap_le _ _)
  constructor
  · rintro ⟨rfl, hlength⟩
    induction xs with
    | nil => exact .nil
    | cons x xs ih =>
      have hrest := hle xs
      rw [List.length_cons] at hlength
      cases hx : f x with
      | none =>
        rw [List.filterMap_cons_none hx] at hlength
        omega
      | some y =>
        rw [List.filterMap_cons_some hx] at hlength ⊢
        cases hy : p y with
        | false =>
          rw [List.filter_cons_of_neg (by simp [hy])] at hlength
          omega
        | true =>
          rw [List.filter_cons_of_pos hy] at hlength ⊢
          exact .cons ⟨hx, hy⟩ (ih (by simpa using hlength))
  · intro h
    refine ⟨?_, h.length_eq.symm⟩
    induction h with
    | nil => rfl
    | cons hxy _ ih => rw [List.filterMap_cons_some hxy.1, List.filter_cons_of_pos hxy.2, ih]

theorem handlerNames_varDecl_eq_iff {s : Option Span} {kind : VarKind} {isDeclare : Bool}
    {ds : List Node} {names : List String} (hnames : names ≠ []) :
    handlerNames (.varDecl s kind isDeclare ds) = names ↔
      Shape.isVariable kind = true ∧ (ds.filterMap Shape.boundName?).filter isHttpMethod = names ∧
        names.length = ds.length := by
  unfold handlerNames Shape.declarators?
  dsimp only
  split
  · next ds' hds =>
    obtain ⟨hkind, rfl⟩ : Shape.isVariable kind = true ∧ ds = ds' := by simpa using hds
    split
    · next hlength =>
      constructor
      · rintro rfl
        exact ⟨hkind, rfl, hlength⟩
      · exact fun h => h.2.1
    · next hlength =>
      refine iff_of_false hnames.symm ?_
      rintro ⟨-, rfl, hsame⟩
      exact hlength hsame
  · next hds =>
    refine iff_of_false hnames.symm fun h => ?_
    simp [h.1] at hds

/-- **What counts as a handler.**  The names that are collected from a declaration are those of
handlers, if it declares nothing else. -/
theorem handlerNames_eq_iff {d : Node} {names : List String} (hnames : names ≠ []) :
    handlerNames d = names ↔ DeclaresHandlers d names := by
  constructor
  · intro h
    cases hds : Shape.declarators? d with
    | some ds =>
      obtain ⟨s, kind, isDeclare, rfl, hkind⟩ := declarators?_eq_some.mp hds
      obtain ⟨-, hfilter, hlength⟩ := (handlerNames_varDecl_eq_iff hnames).mp h
      have hall := filter_filterMap_eq_iff.mp ⟨hfilter, hlength⟩
      simp only [boundName?_eq_some_iff_bindsVariable, isHttpMethod_iff] at hall
      refine .statement hkind ?_ hall
      rintro rfl
      exact hnames (List.forall₂_nil_left_iff.mp hall)
    | none =>
      unfold handlerNames at h
      split at h
      · split at h
        · next hname =>
          subst h
          exact .function (isHttpMethod_iff.mp hname)
        · exact absurd h.symm hnames
      · rw [hds] at h
        exact absurd h.symm hnames
  · intro h
    cases h with
    | function hname => exact if_pos (isHttpMethod_iff.mpr hname)
    | statement hkind hne hds =>
      simp only [← boundName?_eq_some_iff_bindsVariable, ← isHttpMethod_iff] at hds
      obtain ⟨hfilter, hlength⟩ := filter_filterMap_eq_iff.mpr hds
      exact (handlerNames_varDecl_eq_iff hnames).mpr ⟨hkind, hfilter, hlength⟩

/-! ### Items -/

/-- What becomes of an item, and the handlers that it gives to the registration: what exports
handlers becomes their declaration, and everything else stays. -/
inductive Collected : Node → Node → List String → Prop
  | handlers {s : Option Span} {d : Node} {names : List String} (hd : DeclaresHandlers d names) :
    Collected (.exportDecl s d) d names
  | other {item : Node}
    (hother : ∀ s d names, item = .exportDecl s d → ¬DeclaresHandlers d names) :
    Collected item item []

theorem exportedHandlers_eq_nil_iff {item : Node} :
    exportedHandlers item = [] ↔
      ∀ s d names, item = .exportDecl s d → ¬DeclaresHandlers d names := by
  constructor
  · rintro hnone s d names rfl hd
    exact hd.ne_nil (((handlerNames_eq_iff hd.ne_nil).mpr hd).symm.trans hnone)
  · intro hother
    by_contra hnames
    unfold exportedHandlers at hnames
    split at hnames
    · next s d => exact hother s d _ rfl ((handlerNames_eq_iff hnames).mp rfl)
    · exact hnames rfl

theorem hideHandlers_of_eq_nil {item : Node} (h : exportedHandlers item = []) :
    hideHandlers item = item :=
  if_pos (List.isEmpty_iff.mpr h)

theorem hideHandlers_of_ne_nil {item : Node} (h : exportedHandlers item ≠ []) :
    hideHandlers item = Shape.declaration item :=
  if_neg (by rwa [List.isEmpty_iff])

/-- **What becomes of an item.** -/
theorem collected_iff {item new : Node} {names : List String} :
    Collected item new names ↔ (new, names) = (hideHandlers item, exportedHandlers item) := by
  rw [Prod.mk.injEq]
  constructor
  · intro h
    cases h with
    | @handlers s _ _ hd =>
      have hnames : exportedHandlers (.exportDecl s new) = names :=
        (handlerNames_eq_iff hd.ne_nil).mpr hd
      have hnew : hideHandlers (.exportDecl s new) = new :=
        hideHandlers_of_ne_nil (by rw [hnames]; exact hd.ne_nil)
      exact ⟨hnew.symm, hnames.symm⟩
    | other hother =>
      have hnone := exportedHandlers_eq_nil_iff.mpr hother
      exact ⟨(hideHandlers_of_eq_nil hnone).symm, hnone.symm⟩
  · rintro ⟨rfl, rfl⟩
    by_cases hnone : exportedHandlers item = []
    · rw [hideHandlers_of_eq_nil hnone, hnone]
      exact .other (exportedHandlers_eq_nil_iff.mp hnone)
    · rw [hideHandlers_of_ne_nil hnone]
      unfold exportedHandlers at hnone ⊢
      split at hnone
      · exact .handlers ((handlerNames_eq_iff hnone).mp rfl)
      · exact absurd rfl hnone

theorem forall₂_collected_iff {items : List Node} {collected : List (Node × List String)} :
    List.Forall₂ (fun item c => Collected item c.1 c.2) items collected ↔
      collected = items.map fun item => (hideHandlers item, exportedHandlers item) := by
  have hrelation : (fun (item : Node) (c : Node × List String) => Collected item c.1 c.2) =
      fun item c => (hideHandlers item, exportedHandlers item) = c := by
    funext item c
    exact propext (collected_iff.trans eq_comm)
  rw [hrelation, ← List.forall₂_map_left_iff (R := Eq), List.forall₂_eq_eq_eq, eq_comm]

theorem isPreamble_hideHandlers (item : Node) :
    isPreamble (hideHandlers item) = isPreamble item := by
  by_cases hnone : exportedHandlers item = []
  · rw [hideHandlers_of_eq_nil hnone]
  · have hcollected := collected_iff.mpr (Eq.refl (hideHandlers item, exportedHandlers item))
    generalize hideHandlers item = new at hcollected ⊢
    generalize exportedHandlers item = names at hcollected hnone
    cases hcollected with
    | handlers hd => cases hd <;> rfl
    | other => exact absurd rfl hnone

theorem body_map_hideHandlers (items : List Node) :
    body (items.map hideHandlers) = (body items).map hideHandlers := by
  rw [body, List.filter_map, body]
  congr 1
  exact List.filter_congr fun item _ => congrArg not (isPreamble_hideHandlers item)

/-! ### The handlers of a registration -/

/-- The value that a property gives to a key. -/
def valueAt? (key : String) : Node → Option Node
  | .mk .keyValue _ [.word _ name, value] => if name = key then some value else none
  | _ => none

/-- The value that an object has under a key. -/
def propertyValue? (key : String) : Node → Option Node
  | .mk .object _ properties => properties.findSome? (valueAt? key)
  | _ => none

/-- The names in an object such as `{ a, b }`. -/
def shorthandNames? : Node → Option (List String)
  | .mk .object _ properties => properties.mapM fun
    | .mk (.shorthand name) _ _ => some name
    | _ => none
  | _ => none

/-- The options of the route that an item exports: what the call is given that makes it. -/
def routeOptions? : Node → Option Node
  | .exportDecl _ (.varDecl _ _ _
      [.declarator _ _ (.mk (.binding name _) _ _) (.call _ _ _ [options])]) =>
    if name = routeBinding then some options else none
  | _ => none

/-- The names under `server.handlers` in the options of the route that an item exports. -/
def serverHandlers? (item : Node) : Option (List String) := do
  let options ← routeOptions? item
  let server ← propertyValue? "server" options
  let handlers ← propertyValue? "handlers" server
  shorthandNames? handlers

theorem routeOptions?_item (r : Registration) :
    routeOptions? r.item = some (Build.object r.properties) := by
  obtain ⟨factory, head, component, handlers⟩ := r
  cases factory <;> rfl

theorem propertyValue?_server (r : Registration) :
    propertyValue? "server" (Build.object r.properties) =
      r.handlers.map fun names => Build.object [Build.keyValue "handlers"
        (Build.object (names.map fun n => .mk (.shorthand n) none []))] := by
  obtain ⟨factory, head, component, handlers⟩ := r
  have hhead : (head.map fun h => Build.keyValue "head" h.toNode).toList.findSome?
      (valueAt? "server") = none := by
    cases head <;> rfl
  show List.findSome? _ (_ ++ _ ++ _) = _
  rw [List.findSome?_append, List.findSome?_append, hhead, Option.none_or]
  cases component with
  | none => cases handlers <;> rfl
  | some slotted =>
    obtain ⟨slot, name⟩ := slotted
    cases slot <;> cases handlers <;> rfl

theorem shorthandNames?_object (names : List String) :
    shorthandNames? (Build.object (names.map fun n => .mk (.shorthand n) none [])) =
      some names := by
  show List.mapM _ (names.map _) = some names
  induction names with
  | nil => rfl
  | cons n names ih =>
    rw [List.map_cons, List.mapM_cons, ih]
    rfl

/-- **Reading a registration.**  The handlers that it lists are those it was built with. -/
theorem serverHandlers?_item (r : Registration) : serverHandlers? r.item = r.handlers := by
  rw [serverHandlers?, routeOptions?_item]
  simp only [Option.bind_eq_bind, Option.bind_some, propertyValue?_server]
  cases r.handlers with
  | none => rfl
  | some names =>
    have hhandlers : ∀ value,
        propertyValue? "handlers" (Build.object [Build.keyValue "handlers" value]) = some value :=
      fun _ => rfl
    simp only [Option.map_some, Option.bind_some, hhandlers, shorthandNames?_object]

/-! ### API routes -/

/-- The only step of an API route that warns is the one that collects its handlers. -/
theorem warnings_migrate_of_api {o : Options} (h : o.kind = .api) (m : Module) :
    (migrate o m).warnings =
      if m.items.flatMap exportedHandlers = [] then [.noHandlers] else [] := by
  have hpipeline : pipeline o =
      [.stripUseClient, .importRouter, .redirectImports, .collectHandlers, .registerRoute] := by
    simp [pipeline, h]
  obtain ⟨s, hhandlers, hwarnings⟩ : ∃ s : State, s.handlers = [] ∧
      (migrate o m).warnings = (collectHandlers (importedItems o m) s).warnings := by
    unfold migrate
    rw [hpipeline]
    simp only [List.foldl_cons, List.foldl_nil, items_next, state_next, warnings_next, Pass.run,
      Step.start, state_stripUseClient, state_importRouter]
    exact ⟨_, rfl, List.append_nil _⟩
  rw [hwarnings, collectHandlers, hhandlers, List.nil_append, handlers_importedItems]
  simp only [List.isEmpty_iff]

/-- **Handlers are collected.**  Each item of an API route that exports handlers and nothing else
becomes their declaration, and every other item stays, exported or not.  The registration lists the
handlers of these items in their order, each as often as it is exported.  The user is warned if
there are none, and of nothing else.  (Directives and imports, which the body leaves out, export
nothing.) -/
theorem handlers_are_collected (o : Options) (h : o.kind = .api) (m : Module) :
    ∃ (r : Registration) (before after : List Node) (collected : List (Node × List String)),
      (migrate o m).module.items = before ++ r.item :: after ∧ r.factory = o.factory ∧
      List.Forall₂ (fun item c => Collected item c.1 c.2) (body m.items) collected ∧
      body (before ++ after) = collected.map (·.1) ∧
      serverHandlers? r.item = some (collected.flatMap (·.2)) ∧
      (migrate o m).warnings.map (·.code) =
        if collected.flatMap (·.2) = [] then ["W-API-001"] else [] := by
  obtain ⟨r, hitems, hfactory, hhandlers⟩ := migrate_of_api h m
  have hnames : ((body m.items).map fun item => (hideHandlers item, exportedHandlers item)).flatMap
      (·.2) = m.items.flatMap exportedHandlers := by
    rw [List.flatMap_map]
    exact flatMap_body (fun _ => exportedHandlers_of_isPreamble) m.items
  refine ⟨r, _, _, (body m.items).map fun item => (hideHandlers item, exportedHandlers item),
    hitems, hfactory, forall₂_collected_iff.mpr rfl, ?_, ?_, ?_⟩
  · rw [List.take_append_drop, body_map_hideHandlers, body_importedItems, List.map_map]
    rfl
  · rw [serverHandlers?_item, hhandlers, hnames]
  · rw [warnings_migrate_of_api h, hnames]
    split <;> rfl

/-- Handlers that are functions and variables, and statements that are no handlers: one exports
something else, one exports a handler beside something else. -/
def mixedExports : Module where
  items :=
    let value := Build.str "force-dynamic"
    let declarator (name : String) : Node :=
      .declarator none false (.mk (.binding name false) none [.absent]) value
    [Build.exported (.functionDecl none false (.ident none "POST") .absent),
      Build.exported (Build.constDecl "dynamic" value),
      Build.exported (.varDecl none .const false [declarator "PUT", declarator "GET"]),
      Build.exported (.varDecl none .const false [declarator "DELETE", declarator "helper"])]

/-- Three handlers are collected, in the order of the module, and two statements stay exported. -/
theorem handlers_are_collected_from_mixedExports :
    ({ kind := .api } : Options).kind = .api ∧
      ∃ (r : Registration) (before after : List Node) (post dynamic both mixed : Node),
        mixedExports.items =
          [Build.exported post, dynamic, Build.exported both, mixed] ∧
        (migrate { kind := .api } mixedExports).module.items = before ++ r.item :: after ∧
        body (before ++ after) = [post, dynamic, both, mixed] ∧
        serverHandlers? r.item = some ["POST", "PUT", "GET"] ∧
        (migrate { kind := .api } mixedExports).warnings.map (·.code) = [] := by
  obtain ⟨r, before, after, collected, hitems, -, hcollected, hbody, hhandlers, hwarnings⟩ :=
    handlers_are_collected { kind := .api } rfl mixedExports
  obtain rfl := forall₂_collected_iff.mp hcollected
  exact ⟨rfl, r, before, after, _, _, _, _, rfl, hitems, hbody, hhandlers, hwarnings⟩

end RouteMigration.Migration
