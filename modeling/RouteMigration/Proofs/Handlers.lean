import RouteMigration.Proofs.Steps

/-!
# Request handlers and their registration

An API route is registered right after its imports, whatever its handlers are bound by.  The
registration names them as `{ GET }`, which reads them at once: a function has its value by then, a
variable has none.

## Main Statements

* `handlers_bound_before_registration_iff` — the handlers are bound before they are read exactly
  when none of them is bound by `const` or `let`
* `handler_read_before_bound` — a module in which one is
-/

namespace RouteMigration.Migration

/-! ### Handlers -/

theorem isHttpMethod_of_mem_handlerNames {d : Node} {x : String} (h : x ∈ handlerNames d) :
    isHttpMethod x = true := by
  unfold handlerNames at h
  split at h
  · split at h
    · next hmethod => rwa [List.mem_singleton.mp h]
    · exact absurd h (by simp)
  · split at h
    · dsimp only at h
      split at h
      · exact (List.mem_filter.mp h).2
      · exact absurd h (by simp)
    · exact absurd h (by simp)

theorem isHttpMethod_of_mem_exportedHandlers {item : Node} {x : String}
    (h : x ∈ exportedHandlers item) : isHttpMethod x = true := by
  unfold exportedHandlers at h
  split at h
  · exact isHttpMethod_of_mem_handlerNames h
  · exact absurd h (by simp)

/-- What declares handlers is no export itself. -/
theorem declaration_of_handlerNames {d : Node} (h : handlerNames d ≠ []) :
    Shape.declaration d = d := by
  unfold Shape.declaration
  split
  · exact absurd rfl h
  · rfl

theorem variableNames_hideHandlers (item : Node) :
    variableNames (hideHandlers item) = variableNames item := by
  unfold hideHandlers
  split
  · rfl
  · next hne =>
    have hdeclaration : Shape.declaration (Shape.declaration item) = Shape.declaration item := by
      unfold exportedHandlers at hne
      split at hne
      · next d =>
        rw [List.isEmpty_iff] at hne
        exact declaration_of_handlerNames hne
      · exact absurd rfl hne
    rw [variableNames, variableNames, hdeclaration]

/-! ### Directives and imports -/

theorem exportedHandlers_of_isPreamble {item : Node} (h : isPreamble item = true) :
    exportedHandlers item = [] := by
  unfold exportedHandlers
  split
  · exact absurd h (by simp [isPreamble, Shape.directive?, Shape.isImport, Shape.importSource?])
  · rfl

theorem variableNames_of_isPreamble {item : Node} (h : isPreamble item = true) :
    variableNames item = [] :=
  (List.append_eq_nil_iff.mp (lexicalNames_of_inert (isInert_of_isPreamble h))).1

/-- What directives and imports have nothing of can be read off the body. -/
theorem flatMap_body {α : Type} {view : Node → List α}
    (hview : ∀ item, isPreamble item = true → view item = []) (items : List Node) :
    (body items).flatMap view = items.flatMap view := by
  induction items with
  | nil => rfl
  | cons item rest ih =>
    cases hitem : isPreamble item with
    | true =>
      rw [body_cons_of_preamble hitem, List.flatMap_cons, hview item hitem, ih, List.nil_append]
    | false => rw [body_cons hitem, List.flatMap_cons, List.flatMap_cons, ih]

/-! ### The steps of an API route -/

/-- The items of an API route before its handlers are collected. -/
def importedItems (o : Options) (m : Module) : List Node :=
  let start : State := { options := o }
  (redirectImports (importRouter (stripUseClient m.items start).items start).items start).items

theorem body_importedItems (o : Options) (m : Module) :
    body (importedItems o m) = body m.items := by
  rw [importedItems, body_redirectImports, body_importRouter, body_stripUseClient]

theorem handlers_importedItems (o : Options) (m : Module) :
    (importedItems o m).flatMap exportedHandlers = m.items.flatMap exportedHandlers := by
  have hview : ∀ item, isPreamble item = true → exportedHandlers item = [] :=
    fun _ => exportedHandlers_of_isPreamble
  rw [← flatMap_body hview, body_importedItems, flatMap_body hview]

theorem variables_importedItems (o : Options) (m : Module) :
    ((importedItems o m).map hideHandlers).flatMap variableNames =
      m.items.flatMap variableNames := by
  have hview : ∀ item, isPreamble item = true → variableNames item = [] :=
    fun _ => variableNames_of_isPreamble
  rw [List.flatMap_map]
  simp only [variableNames_hideHandlers]
  rw [← flatMap_body hview, body_importedItems, flatMap_body hview]

theorem registerRoute_of_api (items : List Node) {s : State} (h : s.options.kind = .api) :
    (registerRoute items s).items =
      insertAt (Shape.leading items) (registration { s with metadataFound := false } []).item
        items := by
  simp [registerRoute, h, ModuleKind.hasHead]

/-- The module of an API route: its registration stands right after the leading directives and
imports. -/
theorem migrate_of_api {o : Options} (h : o.kind = .api) (m : Module) :
    let items := (importedItems o m).map hideHandlers
    ∃ r : Registration,
      (migrate o m).module.items =
        items.take (Shape.leading items) ++ r.item :: items.drop (Shape.leading items) ∧
      r.factory = o.factory ∧ r.handlers = some (m.items.flatMap exportedHandlers) := by
  intro items
  have hpipeline : pipeline o =
      [.stripUseClient, .importRouter, .redirectImports, .collectHandlers, .registerRoute] := by
    simp [pipeline, h]
  obtain ⟨s, hoptions, hhandlers, hmigrate⟩ : ∃ s : State, s.options = o ∧
      s.handlers = (importedItems o m).flatMap exportedHandlers ∧
      (migrate o m).module.items = (registerRoute items s).items := by
    unfold migrate
    rw [hpipeline]
    simp only [List.foldl_cons, List.foldl_nil, items_next, state_next, Pass.run, Step.start,
      state_stripUseClient, state_importRouter, collectHandlers]
    exact ⟨_, rfl, List.nil_append _, rfl⟩
  have hkind : s.options.kind = .api := by rw [hoptions, h]
  refine ⟨registration { s with metadataFound := false } [], ?_, ?_, ?_⟩
  · rw [hmigrate, registerRoute_of_api items hkind]
    rfl
  · exact congrArg Options.factory hoptions
  · show (if s.options.kind = .api then some s.handlers else none) = _
    rw [if_pos hkind, hhandlers, handlers_importedItems]

/-- **The handlers come before their registration, or the reason why not.**  The module of an API
route ends up as some items that bind no variable, the registration of the exported handlers, and
the items behind it.  No handler is bound by `const` or `let` in the last two if and only if none
was in the whole module. -/
theorem handlers_bound_before_registration_iff (o : Options) (h : o.kind = .api) (m : Module) :
    let handlers := m.items.flatMap exportedHandlers
    ∃ (r : Registration) (before after : List Node),
      (migrate o m).module.items = before ++ r.item :: after ∧
      r.factory = o.factory ∧ r.handlers = some handlers ∧
      (∀ item ∈ before, variableNames item = []) ∧
      ((∀ x ∈ handlers, ∀ item ∈ r.item :: after, x ∉ variableNames item) ↔
        ∀ x ∈ handlers, ∀ item ∈ m.items, x ∉ variableNames item) := by
  intro handlers
  obtain ⟨r, hitems, hfactory, hr⟩ := migrate_of_api h m
  generalize hplaced : (importedItems o m).map hideHandlers = items at hitems
  have hbefore : ∀ item ∈ items.take (Shape.leading items), variableNames item = [] := by
    intro item hitem
    have hnone := lexicalNames_of_inert (isInert_of_mem_leading hitem)
    exact (List.append_eq_nil_iff.mp hnone).1
  have hbound : ∀ x, x ∈ (items.drop (Shape.leading items)).flatMap variableNames ↔
      x ∈ m.items.flatMap variableNames := by
    intro x
    rw [← variables_importedItems o m, hplaced]
    conv_rhs => rw [← List.take_append_drop (Shape.leading items) items, List.flatMap_append]
    rw [List.flatMap_eq_nil_iff.mpr hbefore, List.nil_append]
  refine ⟨r, _, _, hitems, hfactory, hr, hbefore, forall₂_congr fun x hx => ?_⟩
  -- A request handler never has the name of the route.
  have hroute : x ∉ variableNames r.item := by
    obtain ⟨item, -, hmem⟩ := List.mem_flatMap.mp hx
    have hmethod := isHttpMethod_of_mem_exportedHandlers hmem
    intro hmem'
    obtain rfl : x = routeBinding := List.mem_singleton.mp hmem'
    exact absurd hmethod (by decide)
  have hx' := hbound x
  simp only [List.mem_flatMap] at hx'
  rw [List.forall_mem_cons]
  constructor
  · rintro ⟨-, hafter⟩ item hitem hmem
    obtain ⟨item', hitem', hmem'⟩ := hx'.mpr ⟨item, hitem, hmem⟩
    exact hafter item' hitem' hmem'
  · intro hall
    refine ⟨hroute, fun item hitem hmem => ?_⟩
    obtain ⟨item', hitem', hmem'⟩ := hx'.mp ⟨item, hitem, hmem⟩
    exact hall item' hitem' hmem'

/-- `export const GET = () => 1;` -/
def arrowHandler : Module where
  items := [Build.exported (Build.constDecl "GET" (Build.thunk (.mk (.num "1") none [])))]

/-- A handler that is an arrow function is read before it is bound. -/
theorem handler_read_before_bound :
    ({ kind := .api } : Options).kind = .api ∧
      ∃ (r : Registration) (before after : List Node),
        (migrate { kind := .api } arrowHandler).module.items = before ++ r.item :: after ∧
        r.handlers = some ["GET"] ∧ ∃ item ∈ r.item :: after, "GET" ∈ variableNames item := by
  refine ⟨rfl, ?_⟩
  obtain ⟨r, before, after, hitems, -, hr, -, hiff⟩ :=
    handlers_bound_before_registration_iff { kind := .api } rfl arrowHandler
  refine ⟨r, before, after, hitems, hr, ?_⟩
  by_contra hnone
  have hall : ∀ x ∈ arrowHandler.items.flatMap exportedHandlers,
      ∀ item ∈ r.item :: after, x ∉ variableNames item := by
    intro x hx item hitem hmem
    obtain rfl : x = "GET" := List.mem_singleton.mp hx
    exact hnone ⟨item, hitem, hmem⟩
  exact absurd (hiff.mp hall) (by decide)

end RouteMigration.Migration
