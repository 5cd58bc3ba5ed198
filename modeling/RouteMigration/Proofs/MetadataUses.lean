import RouteMigration.Proofs.LayoutParameters
import RouteMigration.Proofs.MigratedRegistration

/-!
# Uses of the metadata

The metadata of a module goes into the head of its route, and the statement that exported it goes,
or at least the declarator that bound it.  Nobody looks for uses of the name.  So a name `metadata`
is left in the module wherever one was used outside that declarator, and comes back with the entries
if they use it themselves.

## Main Definitions

* `MetaTag.uses`, `Head.uses` — the names that an entry, and a head, use

## Main Statements

* `uses_item` — the names that a registration uses
* `perm_registerRoute_of_metadata` — the items after the metadata was registered
* `metadata_used_after_registration_iff` — when the name of the metadata is still used then
* `titlePage_still_uses_metadata` — a page that shows the title it exports
-/

namespace RouteMigration

namespace MetaTag

/-- The names that an entry uses. -/
def uses : MetaTag → List Migration.Use
  | title value => Migration.uses value
  | named _ content => Migration.uses content
  | charSet _ => []

end MetaTag

namespace Head

/-- The names that a head uses: those of its entries, and its stylesheets. -/
def uses (h : Head) : List Migration.Use :=
  h.tags.flatMap MetaTag.uses ++ (h.stylesheets.getD []).map .read

end Head

namespace Migration

/-! ### Made syntax -/

@[simp] theorem uses_ref (name : String) : uses (Build.ref name) = [.read name] := rfl

@[simp] theorem uses_str (value : String) : uses (Build.str value) = [] := rfl

@[simp] theorem uses_keyValue (key : String) (value : Node) :
    uses (Build.keyValue key value) = uses value := by
  simp [Build.keyValue, uses_mk, ownUses, usingParts]

@[simp] theorem uses_object (properties : List Node) :
    uses (Build.object properties) = properties.flatMap uses := by
  simp [Build.object, uses_mk, ownUses, usingParts]

@[simp] theorem uses_array (elements : List Node) :
    uses (Build.array elements) = elements.flatMap uses := by
  simp [Build.array, uses_mk, ownUses, usingParts]

@[simp] theorem uses_call (callee : Node) (args : List Node) :
    uses (Build.call callee args) = uses callee ++ args.flatMap uses := by
  simp [Build.call, uses_mk, ownUses, usingParts]

@[simp] theorem uses_thunk (body : Node) : uses (Build.thunk body) = uses body := by
  unfold Build.thunk
  dsimp only
  split
  · simp [uses_mk, ownUses, usingParts]
  · simp [uses_mk, ownUses, usingParts]

@[simp] theorem uses_constDecl (name : String) (value : Node) :
    uses (Build.constDecl name value) = uses value := by
  simp [Build.constDecl, uses_mk, ownUses, usingParts]

@[simp] theorem uses_exported (declaration : Node) :
    uses (Build.exported declaration) = uses declaration := by
  simp [Build.exported, uses_mk, ownUses, usingParts]

/-! ### The registration -/

theorem uses_tag (tag : MetaTag) : uses tag.toNode = tag.uses := by
  cases tag <;> simp [MetaTag.toNode, MetaTag.uses]

theorem uses_head (h : Head) : uses h.toNode = h.uses := by
  have htags : (h.tags.map MetaTag.toNode).flatMap uses = h.tags.flatMap MetaTag.uses := by
    rw [List.flatMap_map]
    exact List.flatMap_congr fun tag _ => uses_tag tag
  have hlinks (names : List String) :
      (names.map stylesheetLink).flatMap uses = names.map Use.read := by
    rw [List.flatMap_map, ← List.flatMap_singleton' (names.map _), List.flatMap_map]
    exact List.flatMap_congr fun name _ => by simp [stylesheetLink]
  unfold Head.toNode
  cases hsheets : h.stylesheets with
  | none => simp [Head.uses, htags, hsheets]
  | some names => simp [Head.uses, htags, hlinks, hsheets]

/-- **A registration** uses the factory, what its head uses, its component and its handlers. -/
theorem uses_item (r : Registration) :
    uses r.item = .read r.factory.symbol.name :: (r.head.elim [] Head.uses ++
      r.component.elim [] (fun c => [.read c.2]) ++ r.handlers.elim [] (·.map .property)) := by
  have hhandlers (names : List String) : (names.map fun n => Node.mk (.shorthand n) none []).flatMap
      uses = names.map Use.property := by
    rw [List.flatMap_map, ← List.flatMap_singleton' (names.map _), List.flatMap_map]
    exact List.flatMap_congr fun name _ => rfl
  have hproperties : r.properties.flatMap uses = r.head.elim [] Head.uses ++
      r.component.elim [] (fun c => [.read c.2]) ++ r.handlers.elim [] (·.map .property) := by
    unfold Registration.properties
    cases r.head <;> cases r.component <;> cases r.handlers <;> simp [uses_head, hhandlers]
  have hcall : uses r.call = .read r.factory.symbol.name :: r.properties.flatMap uses := by
    unfold Registration.call
    cases r.factory <;> simp
  rw [Registration.item, uses_exported, uses_constDecl, hcall, hproperties]

theorem ne_api_of_hasHead {kind : ModuleKind} (h : kind.hasHead = true) : kind ≠ .api := by
  rintro rfl
  cases h

/-- The entries that every top layout begins with use nothing. -/
theorem uses_rootDefaults : MetaTag.rootDefaults.flatMap MetaTag.uses = [] := rfl

/-- What the head of a route uses: its entries, and in the top layout the stylesheets. -/
theorem uses_head_registration {s : State} (hkind : s.options.kind.hasHead = true)
    (tags : List MetaTag) :
    (registration s tags).head.elim [] Head.uses = tags.flatMap MetaTag.uses ++
      if s.options.kind = .rootLayout then s.stylesheets.map .read else [] := by
  by_cases hroot : s.options.kind = .rootLayout
  · simp [registration, hroot, ModuleKind.hasHead, Head.uses, uses_rootDefaults]
  · simp [registration, hroot, hkind, Head.uses]

/-- What is registered for a module with a head uses a name, other than that of the factory, if an
entry does or if it is the name of a stylesheet that is linked or of the component. -/
theorem used_by_registration_iff {s : State} {tags : List MetaTag} {x : String}
    (hkind : s.options.kind.hasHead = true) (hx : s.options.factory.symbol.name ≠ x) :
    (∃ u ∈ uses (registration s tags).item, u.name = x) ↔
      (∃ tag ∈ tags, ∃ u ∈ tag.uses, u.name = x) ∨
        (s.options.kind = .rootLayout ∧ x ∈ s.stylesheets) ∨ s.component = x := by
  have hcomponent : (registration s tags).component = some (.component, s.component) := by
    rw [registration, slot?_of_hasHead hkind]
    rfl
  have hhandlers : (registration s tags).handlers = none := if_neg (ne_api_of_hasHead hkind)
  have hfactory : (registration s tags).factory = s.options.factory := rfl
  rw [uses_item, uses_head_registration hkind, hcomponent, hhandlers, hfactory]
  have htags : (∃ u ∈ tags.flatMap MetaTag.uses, u.name = x) ↔
      ∃ tag ∈ tags, ∃ u ∈ tag.uses, u.name = x := by
    simp only [List.mem_flatMap]
    exact ⟨fun ⟨u, ⟨tag, htag, hu⟩, hname⟩ => ⟨tag, htag, u, hu, hname⟩,
      fun ⟨tag, htag, u, hu, hname⟩ => ⟨u, ⟨tag, htag, hu⟩, hname⟩⟩
  have hsheets : (∃ u ∈ if s.options.kind = .rootLayout then s.stylesheets.map Use.read else [],
      u.name = x) ↔ s.options.kind = .rootLayout ∧ x ∈ s.stylesheets := by
    split
    · next hroot => simp [hroot, Use.name]
    · next hroot => simp [hroot]
  simp only [Option.elim_some, Option.elim_none, List.append_nil, List.mem_cons, List.mem_append,
    List.not_mem_nil, or_false, or_and_right, exists_or, exists_eq_left, htags, hsheets]
  rw [or_assoc]
  exact or_iff_right hx

/-! ### The metadata -/

/-- **The items** after the metadata was registered: the statement of the metadata is gone, or only
its declarator, and the registration is there. -/
theorem perm_registerRoute_of_metadata {before properties : List Node} {item : Node} {i : Nat}
    {s : State} (hkind : s.options.kind.hasHead = true)
    (hbefore : ∀ other ∈ before, Shape.metadata? other = none)
    (hitem : Shape.metadata? item = some (i, properties)) (after : List Node) :
    (registerRoute (before ++ item :: after) s).items.Perm
      ((registration s (MetaTag.ofProperties properties)).item ::
        (before ++ (dropDeclarator i item ++ after))) := by
  have hapi : s.options.kind ≠ .api := ne_api_of_hasHead hkind
  unfold registerRoute
  rw [if_pos hkind, takeMetadata?_append_cons hbefore hitem]
  dsimp only [Option.getD_some]
  rw [if_neg hapi]
  refine (placed_insertAt _ _ _ _).perm.trans ?_
  rw [List.take_append_drop]
  rfl

theorem mem_moduleUses_of_perm {items items' : List Node} (h : items.Perm items') (u : Use) :
    u ∈ moduleUses items ↔ u ∈ moduleUses items' := by
  simp only [moduleUses, List.mem_flatMap, h.mem_iff]

/-- No factory is called like the metadata. -/
theorem factory_ne_metadata (f : RouteFactory) : f.symbol.name ≠ "metadata" := by
  have hall : ∀ symbol ∈ RouterSymbol.all, symbol.name ≠ "metadata" := by decide
  cases f with
  | file path => exact hall .createFileRoute (by decide)
  | root => exact hall .createRootRoute (by decide)

/-- **Uses of the metadata.**  Once the metadata is registered, its name is still used exactly if it
was used outside its declarator, or if one of its entries uses it, or if a linked stylesheet or the
component has that name. -/
theorem metadata_used_after_registration_iff (before after properties : List Node) (item : Node)
    (i : Nat) (s : State) (hkind : s.options.kind.hasHead = true)
    (hbefore : ∀ other ∈ before, Shape.metadata? other = none)
    (hitem : Shape.metadata? item = some (i, properties)) :
    (∃ u ∈ moduleUses (registerRoute (before ++ item :: after) s).items, u.name = "metadata") ↔
      (∃ u ∈ moduleUses (before ++ (dropDeclarator i item ++ after)), u.name = "metadata") ∨
        (∃ tag ∈ MetaTag.ofProperties properties, ∃ u ∈ tag.uses, u.name = "metadata") ∨
        (s.options.kind = .rootLayout ∧ "metadata" ∈ s.stylesheets) ∨
        s.component = "metadata" := by
  have hperm := perm_registerRoute_of_metadata hkind hbefore hitem after
  simp only [mem_moduleUses_of_perm hperm]
  rw [← used_by_registration_iff hkind (factory_ne_metadata s.options.factory), or_comm]
  simp only [moduleUses, List.flatMap_cons, List.mem_append, or_and_right, exists_or]

/-- `export const metadata = { title: "T" };` -/
def titleExport : Node :=
  Build.exported (Build.constDecl "metadata"
    (Build.object [Build.keyValue "title" (Build.str "T")]))

/-- `function Home() { return <h1>{metadata.title}</h1>; }` -/
def titlePage : Node :=
  .functionDecl none false (.ident none "Home")
    (.function none false false .absent [] .absent
      (.mk .block none [.mk .returnStmt none [Build.element "h1" []
        [.container none (.member none (Build.ref "metadata") (.word none "title"))]]]))

/-- A page that shows the title of its metadata still uses it when nothing binds it any more. -/
theorem titlePage_still_uses_metadata :
    let s : State := { options := {}, component? := some "Home" }
    let items := (registerRoute [titleExport, titlePage] s).items
    ([titleExport, titlePage].flatMap boundNames).count "metadata" = 1 ∧
      "metadata" ∉ items.flatMap boundNames ∧ ∃ u ∈ moduleUses items, u.name = "metadata" := by
  intro s items
  refine ⟨by decide, by decide, ?_⟩
  exact (metadata_used_after_registration_iff [] [titlePage]
    [Build.keyValue "title" (Build.str "T")] titleExport 0 s rfl (by simp) rfl).mpr
    (Or.inl (by decide))

end Migration

end RouteMigration
