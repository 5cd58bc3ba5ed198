import Mathlib.Data.List.Forall2
import RouteMigration.Proofs.DefaultExports
import RouteMigration.Proofs.MigratedRegistration

/-!
# The metadata in a migrated module

The properties of the metadata are read off the module by the step that registers the route, after
all other steps but one have had it.  Those change the values of the properties as they change every
expression, and none of them makes or hides metadata.

## Main Definitions

* `metadataProperties?` — the properties of the first metadata of a module
* `Entry` — the entry of the head that a property spells
* `EntrySyntax` — the syntax of that entry
* `entryVisit` — what a migration makes of the value of a property

## Main Statements

* `metadata?_rewrites` — the metadata of an item after a walk
* `metadataProperties?_arranged` — the metadata that the route is registered with
* `metadata_survives_in_order` — the entries of the head in a migrated module

## Design Notes

A shorthand `{ title }` has no expression for a value, so what changes expressions passes it over.
-/

namespace RouteMigration

namespace Rebuilds

variable {special : Form → Bool} {walk walk' : Node → Node}

/-- One walk after the other. -/
theorem comp (hwalk' : Rebuilds special walk') (hwalk : Rebuilds special walk) :
    Rebuilds special (walk' ∘ walk) where
  plain := by
    intro f s ps hf
    rw [Function.comp_apply, hwalk.plain s ps hf, hwalk'.plain s _ hf, List.map_map]
  special := by
    intro f s ps hf
    have hform := hwalk.special s ps hf
    rw [Function.comp_apply]
    generalize walk (.mk f s ps) = n at hform ⊢
    obtain ⟨g, s', ps'⟩ := n
    exact hwalk'.special s' ps' hform

end Rebuilds

namespace Migration

variable {items : List Node} {walk : Node → Node}

/-! ### The metadata of a module -/

/-- The properties of the metadata that an item exports. -/
def exportedProperties? (item : Node) : Option (List Node) := (Shape.metadata? item).map (·.2)

/-- The properties of the first metadata that a module exports. -/
def metadataProperties? (items : List Node) : Option (List Node) :=
  items.findSome? exportedProperties?

theorem exportedProperties?_eq_none_iff {item : Node} :
    exportedProperties? item = none ↔ Shape.metadata? item = none :=
  Option.map_eq_none_iff

theorem metadataProperties?_append (items items' : List Node) :
    metadataProperties? (items ++ items') =
      (metadataProperties? items).or (metadataProperties? items') :=
  List.findSome?_append

/-- An item in place of another that exports the same. -/
theorem metadataProperties?_replace (before after : List Node) {item item' : Node}
    (h : Shape.metadata? item' = Shape.metadata? item) :
    metadataProperties? (before ++ item' :: after) =
      metadataProperties? (before ++ item :: after) := by
  rw [metadataProperties?_append, metadataProperties?_append, metadataProperties?,
    metadataProperties?, metadataProperties?, List.findSome?_cons, List.findSome?_cons,
    exportedProperties?, exportedProperties?, h]

theorem metadataProperties?_body (items : List Node) :
    metadataProperties? (body items) = metadataProperties? items := by
  induction items with
  | nil => rfl
  | cons item rest ih =>
    cases hitem : isPreamble item with
    | false =>
      rw [body_cons hitem, metadataProperties?, metadataProperties?, List.findSome?_cons,
        List.findSome?_cons]
      split
      · rfl
      · exact ih
    | true =>
      have hnone : exportedProperties? item = none :=
        exportedProperties?_eq_none_iff.mpr (metadata?_of_inert (isInert_of_isPreamble hitem))
      rw [body_cons_of_preamble hitem, ih]
      show metadataProperties? rest = List.findSome? exportedProperties? (item :: rest)
      rw [List.findSome?_cons, hnone]
      rfl

theorem metadataProperties?_eq_none (h : ∀ item ∈ items, Shape.metadata? item = none) :
    metadataProperties? items = none :=
  List.findSome?_eq_none_iff.mpr fun item hitem =>
    exportedProperties?_eq_none_iff.mpr (h item hitem)

theorem metadataProperties?_append_cons {before after : List Node} {item : Node} {i : Nat}
    {properties : List Node} (hbefore : ∀ item ∈ before, Shape.metadata? item = none)
    (hitem : Shape.metadata? item = some (i, properties)) :
    metadataProperties? (before ++ item :: after) = some properties := by
  rw [metadataProperties?_append, metadataProperties?_eq_none hbefore, Option.none_or,
    metadataProperties?, List.findSome?_cons, exportedProperties?, hitem]
  rfl

/-- What is taken out of a module spells the entries. -/
theorem Extracted.tags_eq {kind : ModuleKind} {taken : TakenMetadata} {properties : List Node}
    (h : Extracted kind items taken) (hkind : kind.hasHead = true)
    (hproperties : metadataProperties? items = some properties) :
    taken.tags = MetaTag.ofProperties properties := by
  cases h with
  | nothing hitems hdirectives himports hnext hrest hnone =>
    rw [metadataProperties?_eq_none (hnone hkind)] at hproperties
    cases hproperties
  | @statement before after properties' s vs varKind isDeclare d hkind' hitems hbefore hvar
    hmetadata =>
    have hitem := metadata?_eq_some_iff.mpr
      ⟨s, vs, varKind, isDeclare, [], d, [], rfl, hvar, rfl, by simp, hmetadata⟩
    rw [List.nil_append] at hitem
    rw [hitems, metadataProperties?_append_cons hbefore hitem] at hproperties
    rw [Option.some.inj hproperties]
  | @declarator before after ds ds' properties' s vs varKind isDeclare d hkind' hitems hbefore hvar
    hds hmetadata hsiblings =>
    have hitem := metadata?_eq_some_iff.mpr
      ⟨s, vs, varKind, isDeclare, ds, d, ds', rfl, hvar, rfl, hds, hmetadata⟩
    rw [hitems, metadataProperties?_append_cons hbefore hitem] at hproperties
    rw [Option.some.inj hproperties]

/-- A head lists the defaults of a top layout and then its entries. -/
theorem exists_toNode_headOf (o : Options) (tags : List MetaTag) (stylesheets : List String) :
    ∃ links, (headOf o tags stylesheets).toNode = Build.thunk (Build.object (Build.keyValue "meta"
      (Build.array
        ((if o.kind = .rootLayout then MetaTag.rootDefaults else []).map MetaTag.toNode ++
        tags.map MetaTag.toNode)) :: links)) := by
  rw [← List.map_append]
  exact ⟨_, rfl⟩

theorem isSome_takeMetadata? {properties : List Node}
    (h : metadataProperties? items = some properties) : (takeMetadata? items).isSome = true := by
  rcases takeMetadata?_cases items with hnone | ⟨before, item, after, i, properties', rfl, hbefore,
    hitem⟩
  · rw [metadataProperties?_eq_none hnone] at h
    cases h
  · rw [takeMetadata?_append_cons hbefore hitem]
    rfl

/-! ### Walks -/

theorem objectProperties?_walk (hwalk : Rebuilds isRewritten walk) (e : Node) :
    Shape.objectProperties? (walk e) = (Shape.objectProperties? e).map (·.map walk) := by
  unfold Shape.objectProperties?
  rw [unwrapped_rewrites hwalk]
  generalize Shape.unwrapped e = n
  by_cases hform : n.form = .object
  · obtain ⟨f, s, ps⟩ := n
    obtain rfl : f = .object := hform
    rw [hwalk.plain s ps rfl]
    rfl
  · have hform' : (walk n).form ≠ .object := fun h => hform ((hwalk.form_eq_iff rfl n).mp h)
    split
    · next heq => exact absurd (congrArg Node.form heq) hform'
    · split
      · exact absurd rfl hform
      · rfl

/-- A walk changes the properties of the metadata, and nothing else about it. -/
theorem metadata?_rewrites (hwalk : Rebuilds isRewritten walk) (hkeeps : Keeps keptOf walk)
    (item : Node) :
    Shape.metadata? (walk item) = (Shape.metadata? item).map fun m => (m.1, m.2.map walk) :=
  metadata?_walk hkeeps (objectProperties?_walk hwalk) item

theorem metadataProperties?_map {change : Node → Node}
    (h : ∀ item, Shape.metadata? (change item) =
      (Shape.metadata? item).map fun m => (m.1, m.2.map walk)) (items : List Node) :
    metadataProperties? (items.map change) = (metadataProperties? items).map (·.map walk) := by
  induction items with
  | nil => rfl
  | cons item rest ih =>
    rw [List.map_cons, metadataProperties?, metadataProperties?, List.findSome?_cons,
      List.findSome?_cons, exportedProperties?, exportedProperties?, h]
    cases Shape.metadata? item with
    | none => exact ih
    | some m => rfl

/-! ### The shell -/

namespace Component

variable {c : Component} {name : String}

/-- A component is a function, and no metadata. -/
theorem objectProperties?_of_ofValue? {around : Node → Node} {v : Node}
    (h : ofValue? around v = some c) : Shape.objectProperties? v = none := by
  have harrow : ∀ {around : Node → Node} {e : Node}, ofArrow? around e = some c →
      Shape.objectProperties? e = none := by
    intro around e h
    unfold ofArrow? at h
    split at h
    · rfl
    · cases h
  unfold ofValue? at h
  split at h
  · rfl
  · next s e =>
    have hparen : Shape.objectProperties? (.paren s e) = Shape.objectProperties? e := by
      unfold Shape.objectProperties?
      rw [unwrapped_mk]
      rfl
    rw [hparen]
    exact harrow h
  · exact harrow h

theorem findMetadata?_of_ofDeclarators? {ds : List Node} :
    ∀ {around : List Node → Node}, ofDeclarators? name around ds = some c → ∀ newBody,
      ∃ ds', c.withBody newBody = around ds' ∧
        ∀ i, Shape.findMetadata? i ds' = Shape.findMetadata? i ds := by
  induction ds with
  | nil =>
    intro around h
    cases h
  | cons d ds ih =>
    intro around h newBody
    unfold ofDeclarators? at h
    split at h
    · split at h
      · next isDefinite s pattern value hname =>
        obtain ⟨v', heq, hsketch⟩ := exists_of_ofValue? h newBody
        have hold : Shape.metadataOf? (.declarator s isDefinite pattern value) = none := by
          unfold Shape.metadataOf?
          rw [value?_declarator]
          split
          · split
            · rfl
            · exact objectProperties?_of_ofValue? h
          · rfl
        -- the sketch of the new declarator is that of the old one
        have hnew : Shape.metadataOf? (.declarator s isDefinite pattern v') = none := by
          have hdrawn := metadataOf?_sketchOf (.declarator s isDefinite pattern v')
          rw [sketchOf_declarator, hsketch, ← sketchOf_declarator s, metadataOf?_sketchOf,
            hold] at hdrawn
          exact Option.map_eq_none_iff.mp hdrawn.symm
        refine ⟨_, heq, fun i => ?_⟩
        rw [Shape.findMetadata?, Shape.findMetadata?, hold, hnew]
      · cases h
    · obtain ⟨ds', heq, hds⟩ := ih h newBody
      refine ⟨d :: ds', heq, fun i => ?_⟩
      rw [Shape.findMetadata?, Shape.findMetadata?, hds]

/-- A new body changes nothing about metadata. -/
theorem metadata?_withBody {item : Node} (h : ofItem? name item = some c) (newBody : Node) :
    Shape.metadata? (c.withBody newBody) = Shape.metadata? item := by
  have hsketch := (form_of_ofItem? h newBody).2
  unfold ofItem? at h
  split at h
  · next s d =>
    unfold ofDeclaration? at h
    split at h
    · split at h
      · obtain ⟨f', heq, -⟩ := exists_of_ofFunction? h newBody
        rw [heq]
        rfl
      · cases h
    · split at h
      · obtain ⟨ds', heq, hds⟩ := findMetadata?_of_ofDeclarators? h newBody
        rw [heq, Shape.metadata?, Shape.metadata?, hds]
      · cases h
    · cases h
  · next hne =>
    -- what is not exported has no metadata, and by its sketch neither has the new item
    have hold : Shape.metadata? item = none := by
      refine metadata?_of_not ?_
      rintro ⟨s, vs, kind, isDeclare, ds, rfl⟩
      exact hne _ _ rfl
    have hdrawn := metadata?_sketchOf (c.withBody newBody)
    rw [hsketch, metadata?_sketchOf, hold] at hdrawn
    rw [hold]
    exact Option.map_eq_none_iff.mp hdrawn.symm

end Component

/-! ### The steps before the registration -/

theorem metadataProperties?_bindComponent (items : List Node) (s : State) :
    metadataProperties? (bindComponent items s).items = metadataProperties? items := by
  have hcases := bindComponent_cases items s
  generalize (bindComponent items s).items = items', (bindComponent items s).state = s' at hcases ⊢
  cases hcases with
  | none => rfl
  | reference => rfl
  | @bound before after found shape bound hitems hbefore hfound hshape hbound =>
    have hold : Shape.metadata? found = none := by
      refine metadata?_of_not ?_
      rintro ⟨s, vs, kind, isDeclare, ds, rfl⟩
      cases hfound
    have hnew : Shape.metadata? bound.item = none := by
      unfold bindExport? at hbound
      split at hbound
      · cases hbound
        rfl
      · cases hbound
        rfl
      · cases hbound
    rw [hitems, metadataProperties?_replace before after (hnew.trans hold.symm)]

theorem metadataProperties?_mapHooks (items : List Node) (s : State) :
    metadataProperties? (mapHooks items s).items =
      (metadataProperties? items).map (·.map (renameHooks (hookRenames items))) := by
  have hmapped : ∀ item, Shape.metadata? ((mapImport item).apply item) = Shape.metadata? item := by
    intro item
    rcases mapImport_cases item with hsame | ⟨hitem, hnew⟩
    · rw [hsame]
    · rw [metadata?_of_inert (isInert_of_isPreamble hitem),
        metadata?_of_inert (isInert_of_isPreamble hnew)]
  rw [mapHooks_items]
  refine metadataProperties?_map (fun item => ?_) items
  rw [metadata?_rewrites (rewrites_renameHooks _) (keeps_renameHooks _), hmapped]

theorem metadataProperties?_normalizeElements (items : List Node) (s : State) :
    metadataProperties? (normalizeElements items s).items =
      (metadataProperties? items).map (·.map normalize) :=
  metadataProperties?_map (metadata?_rewrites rewrites_normalize keeps_normalize) items

theorem metadataProperties?_fitShell (items : List Node) (s : State) :
    metadataProperties? (fitShell items s).items = metadataProperties? items := by
  rcases fitShell_cases items s with hsame | ⟨before, found, after, c, newBody, rfl, hfound, heq⟩
  · rw [hsame]
  · rw [heq]
    exact metadataProperties?_replace before after (Component.metadata?_withBody hfound newBody)

/-- What a migration makes of the value of a property before it is registered. -/
def propertyVisit (m : Module) : Node → Node := normalize ∘ renameHooks (hookRenames m.items)

theorem rewrites_propertyVisit (m : Module) : Rebuilds isRewritten (propertyVisit m) :=
  rewrites_normalize.comp (rewrites_renameHooks _)

/-- **The metadata that a route is registered with** is that of the module, with every expression in
it changed. -/
theorem metadataProperties?_arranged (o : Options) (hkind : o.kind ≠ .api) (m : Module) :
    metadataProperties? (arranged o m).items =
      (metadataProperties? m.items).map (·.map (propertyVisit m)) := by
  have hfront : front o m = boundStep o m := by
    rw [front, frontPasses, if_neg hkind]
    rfl
  have hbound : metadataProperties? (boundStep o m).items = metadataProperties? m.items := by
    rw [items_boundStep, metadataProperties?_bindComponent, ← metadataProperties?_body,
      body_importRouter, body_stripUseClient, metadataProperties?_body]
  have hredirected : metadataProperties? (redirected o m).items = metadataProperties? m.items := by
    rw [← hbound, ← hfront, ← metadataProperties?_body]
    show metadataProperties? (body (redirectImports (front o m).items (front o m).state).items) = _
    rw [body_redirectImports, metadataProperties?_body]
  have hrenames : hookRenames (redirected o m).items = hookRenames m.items := by
    rw [← hookRenames_boundStep o m, ← hfront]
    exact hookRenames_redirectImports (front o m).items (front o m).state
  have hshell : ∀ t : Step, metadataProperties?
      ((if o.kind.isLayout then [Pass.fitShell] else []).foldl Step.next t).items =
        metadataProperties? t.items := by
    intro t
    split
    · exact metadataProperties?_fitShell t.items t.state
    · rfl
  rw [arranged, middlePasses, if_neg hkind, List.foldl_append, hshell]
  show metadataProperties? (normalizeElements (mapHooks (redirected o m).items
    (redirected o m).state).items (redirected o m).state).items = _
  rw [metadataProperties?_normalizeElements, metadataProperties?_mapHooks, hredirected, hrenames,
    Option.map_map]
  congr 1
  funext properties
  exact List.map_map

/-! ### Entries -/

/-- The entry that a property spells, with a change made to its value.  A shorthand has no value to
change. -/
inductive Entry (visit : Node → Node) : Node → MetaTag → Prop
  | word {s ks : Option Span} {key : String} {kps : List Node} {value : Node} :
    Entry visit (.mk .keyValue s [.mk (.word key) ks kps, value]) (.ofKey key (visit value))
  | text {s ks : Option Span} {key : String} {raw : Option String} {kps : List Node}
    {value : Node} :
    Entry visit (.mk .keyValue s [.mk (.str key raw) ks kps, value]) (.ofKey key (visit value))
  | shorthand {s : Option Span} {name : String} {ps : List Node} :
    Entry visit (.mk (.shorthand name) s ps) (.ofKey name (.ref s name))

theorem mapValue_ofKey (g : Node → Node) (key : String) (value : Node) :
    mapValue g (.ofKey key value) = .ofKey key (g value) := by
  unfold MetaTag.ofKey
  split <;> rfl

/-- A property spells the same entry after a walk, with its value walked over. -/
theorem entry_walk (hwalk : Rebuilds isRewritten walk) {g : Node → Node}
    (hg : ∀ s name, g (.ref s name) = .ref s name) {p : Node} {tag : MetaTag} (h : Entry id p tag) :
    ∃ tag', MetaTag.ofProperty? (walk p) = some tag' ∧ Entry (g ∘ walk) p (mapValue g tag') := by
  cases h with
  | @word s ks key kps value =>
    rw [hwalk.plain s _ rfl, List.map_cons, List.map_singleton, hwalk.plain ks kps rfl]
    refine ⟨_, rfl, ?_⟩
    rw [mapValue_ofKey]
    exact .word
  | @text s ks key raw kps value =>
    rw [hwalk.plain s _ rfl, List.map_cons, List.map_singleton, hwalk.plain ks kps rfl]
    refine ⟨_, rfl, ?_⟩
    rw [mapValue_ofKey]
    exact .text
  | @shorthand s name ps =>
    rw [hwalk.plain s ps rfl]
    refine ⟨_, rfl, ?_⟩
    rw [mapValue_ofKey, hg]
    exact .shorthand

/-- **Properties and entries.**  There is one entry for each property, in order. -/
theorem forall₂_entry (hwalk : Rebuilds isRewritten walk) {g : Node → Node}
    (hg : ∀ s name, g (.ref s name) = .ref s name) {properties : List Node}
    (h : ∀ p ∈ properties, ∃ tag, Entry id p tag) :
    List.Forall₂ (Entry (g ∘ walk)) properties
      ((MetaTag.ofProperties (properties.map walk)).map (mapValue g)) := by
  induction properties with
  | nil => exact .nil
  | cons p properties ih =>
    obtain ⟨⟨tag, htag⟩, hrest⟩ := List.forall_mem_cons.mp h
    obtain ⟨tag', hof, hentry⟩ := entry_walk hwalk hg htag
    rw [List.map_cons, MetaTag.ofProperties, List.filterMap_cons, hof]
    exact .cons hentry (ih hrest)

/-- The key and the value of a property, with a change made to the value. -/
inductive Spells (visit : Node → Node) : Node → String → Node → Prop
  | word {s ks : Option Span} {key : String} {kps : List Node} {value : Node} :
    Spells visit (.mk .keyValue s [.mk (.word key) ks kps, value]) key (visit value)
  | text {s ks : Option Span} {key : String} {raw : Option String} {kps : List Node}
    {value : Node} :
    Spells visit (.mk .keyValue s [.mk (.str key raw) ks kps, value]) key (visit value)
  | shorthand {s : Option Span} {name : String} {ps : List Node} :
    Spells visit (.mk (.shorthand name) s ps) name (.ref s name)

/-- What the head has for a property: `{ title: value }` for the title, and
`{ name: "key", content: value }` for any other key. -/
inductive EntrySyntax (visit : Node → Node) (p : Node) : Node → Prop
  | title {value : Node} (h : Spells visit p "title" value) :
    EntrySyntax visit p (Build.object [Build.keyValue "title" value])
  | named {key : String} {value : Node} (h : Spells visit p key value) (hkey : key ≠ "title") :
    EntrySyntax visit p
      (Build.object [Build.keyValue "name" (Build.str key), Build.keyValue "content" value])

theorem EntrySyntax.of_spells {visit : Node → Node} {p value : Node} {key : String}
    (h : Spells visit p key value) : EntrySyntax visit p (MetaTag.ofKey key value).toNode := by
  rw [MetaTag.ofKey]
  split
  · next hkey =>
    subst hkey
    exact .title h
  · next hkey => exact .named h hkey

/-- A property has one key and one value. -/
theorem Spells.unique {visit : Node → Node} {p value value' : Node} {key key' : String}
    (h : Spells visit p key value) (h' : Spells visit p key' value') :
    key = key' ∧ value = value' := by
  cases h <;> cases h' <;> exact ⟨rfl, rfl⟩

theorem EntrySyntax.eq_of_spells {visit : Node → Node} {p n value : Node} {key : String}
    (h : EntrySyntax visit p n) (hspells : Spells visit p key value) :
    n = (MetaTag.ofKey key value).toNode := by
  cases h with
  | title htitle =>
    obtain ⟨rfl, rfl⟩ := htitle.unique hspells
    rfl
  | named hnamed hkey =>
    obtain ⟨rfl, rfl⟩ := hnamed.unique hspells
    rw [MetaTag.ofKey, if_neg hkey]
    rfl

/-- The syntax of an entry is that of the property. -/
theorem Entry.toNode {visit : Node → Node} {p : Node} {tag : MetaTag} (h : Entry visit p tag) :
    EntrySyntax visit p tag.toNode := by
  cases h with
  | word => exact .of_spells .word
  | text => exact .of_spells .text
  | shorthand => exact .of_spells .shorthand

/-- What a migration makes of the value of a property. -/
def entryVisit (o : Options) (m : Module) : Node → Node := fontVisit o m ∘ propertyVisit m

/-- **Metadata survives in order.**  The properties of the first metadata of a module become the
entries of the head of its registration, one for each property, in order, with every expression in
them changed.  A top layout has two entries before them, and no route has another.  The list of
entries is what the head has for `meta`. -/
theorem metadata_survives_in_order (o : Options) (hhead : o.kind.hasHead = true) (m : Module)
    (properties : List Node) (hmetadata : metadataProperties? m.items = some properties)
    (hentries : ∀ p ∈ properties, ∃ tag, Entry id p tag) :
    (migrate o m).metadataFound = true ∧
      ∃ (r : Registration) (head : Head) (entries : List MetaTag)
          (nodes links before after : List Node),
        (migrate o m).module.items = before ++ r.item :: after ∧ r.factory = o.factory ∧
        r.component = some (.component, (migrate o m).component) ∧ r.head = some head ∧
        Build.keyValue "head" head.toNode ∈ r.properties ∧
        head.toNode = Build.thunk (Build.object (Build.keyValue "meta" (Build.array
          ((if o.kind = .rootLayout then
            [Build.object [Build.keyValue "charSet" (Build.str "utf-8")],
              Build.object [Build.keyValue "name" (Build.str "viewport"), Build.keyValue "content"
                (Build.str "width=device-width, initial-scale=1")]] else []) ++ nodes)) :: links)) ∧
        List.Forall₂ (EntrySyntax (entryVisit o m)) properties nodes ∧
        head.tags = (if o.kind = .rootLayout then MetaTag.rootDefaults else []) ++ entries ∧
        List.Forall₂ (Entry (entryVisit o m)) properties entries ∧
        head.tags.length = (if o.kind = .rootLayout then 2 else 0) + properties.length := by
  have hkind : o.kind ≠ .api := by
    intro hapi
    rw [hapi] at hhead
    cases hhead
  have harranged : metadataProperties? (arranged o m).items =
      some (properties.map (propertyVisit m)) := by
    rw [metadataProperties?_arranged o hkind, hmetadata]
    rfl
  refine ⟨by rw [(state_migrate o m).2, if_pos hhead, isSome_takeMetadata? harranged], ?_⟩
  obtain ⟨taken, r, before, after, htaken, hitems, hfactory, hcomponent, hregistered⟩ :=
    exists_registration_migrate o m
  rw [if_pos hhead] at hregistered
  rw [slot?_of_hasHead hhead] at hcomponent
  have hall : List.Forall₂ (Entry (entryVisit o m)) properties
      (taken.tags.map (mapValue (fontVisit o m))) := by
    rw [htaken.tags_eq hhead harranged]
    exact forall₂_entry (rewrites_propertyVisit m) (fun s name => fontVisit_leaf o m rfl s) hentries
  obtain ⟨links, hnode⟩ := exists_toNode_headOf o (taken.tags.map (mapValue (fontVisit o m)))
    (arranged o m).state.stylesheets
  refine ⟨r, _, _, _, links, before, after, hitems, hfactory, hcomponent, hregistered,
    head_mem_properties hregistered, ?_,
    List.forall₂_map_right_iff.mpr (hall.imp fun _ _ hentry => hentry.toNode), rfl, hall, ?_⟩
  · rw [hnode]
    split <;> rfl
  · rw [headOf, List.length_append, hall.length_eq]
    split <;> rfl

/-- `title: "Home", "theme-color": hue, author` -/
def describingProperties : List Node :=
  [Build.keyValue "title" (Build.str "Home"),
    .mk .keyValue none [.mk (.str "theme-color" none) none [], Build.ref "hue"],
    .mk (.shorthand "author") none []]

/-- `export const viewport = {}, metadata = ({ ... });`, with those properties. -/
def describedLayout : Module where
  items :=
    [.exportDecl none (.varDecl none .const false
      [.declarator none false (.mk (.binding "viewport" false) none [.absent]) (Build.object []),
        .declarator none false (.mk (.binding "metadata" false) none [.absent])
          (.paren none (Build.object describingProperties))])]

/-- The entries that its properties spell. -/
theorem entrySyntax_describingProperties {nodes : List Node}
    (h : List.Forall₂ (EntrySyntax (entryVisit { kind := .rootLayout } describedLayout))
      describingProperties nodes) :
    nodes = [Build.object [Build.keyValue "title" (Build.str "Home")],
      Build.object [Build.keyValue "name" (Build.str "theme-color"),
        Build.keyValue "content" (Build.ref "hue")],
      Build.object [Build.keyValue "name" (Build.str "author"),
        Build.keyValue "content" (Build.ref "author")]] := by
  generalize hvisit : entryVisit { kind := .rootLayout } describedLayout = visit at h
  have hhome : visit (Build.str "Home") = Build.str "Home" := by
    rw [← hvisit]
    exact fontVisit_leaf _ _ rfl none
  have hhue : visit (Build.ref "hue") = Build.ref "hue" := by
    rw [← hvisit]
    exact fontVisit_leaf _ _ rfl none
  rw [describingProperties] at h
  rcases h with _ | ⟨htitle, _ | ⟨hcolor, _ | ⟨hauthor, _ | _⟩⟩⟩
  rw [htitle.eq_of_spells .word, hcolor.eq_of_spells .text, hauthor.eq_of_spells .shorthand, hhome,
    hhue]
  rfl

/-- Its three properties follow the two entries of every top layout. -/
theorem metadata_survives_in_describedLayout :
    ({ kind := .rootLayout } : Options).kind.hasHead = true ∧
      metadataProperties? describedLayout.items = some describingProperties ∧
      (∀ p ∈ describingProperties, ∃ tag, Entry id p tag) ∧
      (migrate { kind := .rootLayout } describedLayout).metadataFound = true ∧
      ∃ (r : Registration) (head : Head) (links before after : List Node),
        (migrate { kind := .rootLayout } describedLayout).module.items =
          before ++ r.item :: after ∧
        r.head = some head ∧ head.tags.length = 5 ∧
        head.toNode = Build.thunk (Build.object (Build.keyValue "meta" (Build.array
          [Build.object [Build.keyValue "charSet" (Build.str "utf-8")],
            Build.object [Build.keyValue "name" (Build.str "viewport"), Build.keyValue "content"
              (Build.str "width=device-width, initial-scale=1")],
            Build.object [Build.keyValue "title" (Build.str "Home")],
            Build.object [Build.keyValue "name" (Build.str "theme-color"),
              Build.keyValue "content" (Build.ref "hue")],
            Build.object [Build.keyValue "name" (Build.str "author"),
              Build.keyValue "content" (Build.ref "author")]]) :: links)) := by
  have hentries : ∀ p ∈ describingProperties, ∃ tag, Entry id p tag := by
    rw [describingProperties]
    simp only [List.forall_mem_cons]
    exact ⟨⟨_, .word⟩, ⟨_, .text⟩, ⟨_, .shorthand⟩, by simp⟩
  obtain ⟨hfound, r, head, entries, nodes, links, before, after, hitems, -, -, hhead, -, hnode,
    hnodes, -, -, hlength⟩ :=
    metadata_survives_in_order { kind := .rootLayout } rfl describedLayout describingProperties rfl
      hentries
  rw [entrySyntax_describingProperties hnodes] at hnode
  exact ⟨rfl, rfl, hentries, hfound, r, head, links, before, after, hitems, hhead, hlength, hnode⟩

end Migration

end RouteMigration
