import RouteMigration.Proofs.ImportDeclarations
import RouteMigration.Proofs.RegistrationPlace

/-!
# The registration of a migrated module

The registration is built by the last step but one, and the removal of fonts that may follow only
cleans the entries of its head.  So what a migrated module registers can be read off the module as
it was right before that.

## Main Definitions

* `arranged` — a module right before its route is registered
* `fontVisit` — what the removal of fonts makes of a value in the registration

## Main Statements

* `exists_registration_migrate` — the registration in a migrated module
-/

namespace RouteMigration.Migration

variable {items : List Node}

/-- A module right before its route is registered. -/
def arranged (o : Options) (m : Module) : Step :=
  (middlePasses o).foldl Step.next (redirected o m)

/-- What the removal of fonts makes of a value in the registration. -/
def fontVisit (o : Options) (m : Module) : Node → Node :=
  if o.fontAware && !(removedFonts (registered o m).items).isEmpty then
    cleanClassNames (removedFonts (registered o m).items)
  else id

theorem registered_eq (o : Options) (m : Module) :
    registered o m = (arranged o m).next .registerRoute := rfl

theorem options_arranged (o : Options) (m : Module) : (arranged o m).state.options = o :=
  (options_foldl (middlePasses o) _).trans (options_front o m)

/-- What is told about a migrated module was found out by its registration. -/
theorem state_migrate (o : Options) (m : Module) :
    (migrate o m).component = (arranged o m).state.component ∧
      (migrate o m).metadataFound =
        (if o.kind.hasHead then takeMetadata? (arranged o m).items else none).isSome := by
  have hregistered : (migrate o m).component = (registered o m).state.component ∧
      (migrate o m).metadataFound = (registered o m).state.metadataFound := by
    unfold migrate
    rw [foldl_pipeline]
    cases o.fontAware with
    | true =>
      simp only [if_true, List.foldl_cons, List.foldl_nil, state_next, Pass.run,
        state_eliminateFonts, and_self]
    | false => simp only [Bool.false_eq_true, if_false, List.foldl_nil, and_self]
  refine ⟨hregistered.1, hregistered.2.trans ?_⟩
  have hmetadata : ((arranged o m).next .registerRoute).state.metadataFound =
      (if (arranged o m).state.options.kind.hasHead then takeMetadata? (arranged o m).items
        else none).isSome := rfl
  rw [registered_eq, hmetadata, options_arranged]

/-! ### The removal of fonts -/

theorem mapValue_id (tag : MetaTag) : mapValue id tag = tag := by
  cases tag <;> rfl

theorem mapTags_id (r : Registration) : mapTags id r = r := by
  obtain ⟨factory, head, component, handlers⟩ := r
  have htags : ∀ tags : List MetaTag, tags.map (mapValue id) = tags := fun tags =>
    (List.map_congr_left fun tag _ => mapValue_id tag).trans (List.map_id' tags)
  cases head with
  | none => rfl
  | some head => simp only [mapTags, Option.map_some, htags]

/-- The removal of fonts keeps a registration, with what it makes of the entries. -/
theorem exists_split_eliminateFonts (before after : List Node) (r : Registration) (s : State) :
    ∃ before' after', (eliminateFonts (before ++ r.item :: after) s).items =
      before' ++ (mapTags (if (removedFonts (before ++ r.item :: after)).isEmpty then id
        else cleanClassNames (removedFonts (before ++ r.item :: after))) r).item :: after' := by
  generalize hitems : before ++ r.item :: after = items
  by_cases hempty : (removedFonts items).isEmpty = true
  · rw [eliminateFonts_of_isEmpty s hempty, if_pos hempty, mapTags_id]
    exact ⟨before, after, hitems.symm⟩
  · have hleft : (eliminateFonts items s).items = withoutFonts items := by
      simp [eliminateFonts, hempty]
    rw [hleft, withoutFonts_eq_flatMap, if_neg hempty]
    have hregistration := fontless_item (removedFonts items) (droppedFactories items) r
    generalize fontless (removedFonts items) (droppedFactories items) = keep at hregistration ⊢
    have hflat : items.flatMap keep =
        before.flatMap keep ++ (keep r.item ++ after.flatMap keep) := by
      rw [← hitems, List.flatMap_append, List.flatMap_cons]
    refine ⟨before.flatMap keep, after.flatMap keep, ?_⟩
    rw [hflat, hregistration, List.singleton_append]

theorem fontVisit_leaf (o : Options) (m : Module) {f : Form} (hf : isCleaned f = false)
    (s : Option Span) : fontVisit o m (.mk f s []) = .mk f s [] := by
  unfold fontVisit
  split
  · exact (rebuilds_cleanClassNames _).plain s [] hf
  · rfl

theorem mapValue_rootDefaults (o : Options) (m : Module) :
    MetaTag.rootDefaults.map (mapValue (fontVisit o m)) = MetaTag.rootDefaults := by
  have hstr : ∀ value, fontVisit o m (Build.str value) = Build.str value :=
    fun value => fontVisit_leaf o m rfl none
  simp [MetaTag.rootDefaults, mapValue, hstr]

/-- The head of a route: the defaults of a top layout, the entries of the metadata, and the
stylesheets that a top layout links. -/
def headOf (o : Options) (tags : List MetaTag) (stylesheets : List String) : Head where
  tags := (if o.kind = .rootLayout then MetaTag.rootDefaults else []) ++ tags
  stylesheets := if o.kind = .rootLayout then some stylesheets else none

/-- A registration whose entries are cleaned has a head with cleaned entries. -/
theorem head_mapTags_registration (o : Options) (m : Module) (tags : List MetaTag) :
    (mapTags (fontVisit o m) (registration (arranged o m).state tags)).head =
      if o.kind.hasHead then
        some (headOf o (tags.map (mapValue (fontVisit o m))) (arranged o m).state.stylesheets)
      else none := by
  unfold mapTags registration headOf
  rw [options_arranged]
  by_cases hhead : o.kind.hasHead = true
  · by_cases hroot : o.kind = .rootLayout
    · simp [hroot, ModuleKind.hasHead, mapValue_rootDefaults]
    · simp [hroot, hhead]
  · simp [hhead]

theorem slot?_of_hasHead {kind : ModuleKind} (h : kind.hasHead = true) :
    kind.slot? = some .component := by
  cases kind with
  | page => rfl
  | rootLayout => rfl
  | layout => rfl
  | loading => cases h
  | error => cases h
  | api => cases h

/-! ### The migrated module -/

/-- The registration in a module before fonts are removed. -/
theorem exists_split_registered (o : Options) (m : Module) :
    ∃ taken before after, Extracted o.kind (arranged o m).items taken ∧
      (registered o m).items =
        before ++ (registration (arranged o m).state taken.tags).item :: after := by
  obtain ⟨taken, htaken, hitems⟩ := items_registerRoute (arranged o m).items (arranged o m).state
  rw [options_arranged] at htaken hitems
  split at hitems
  · exact ⟨taken, _, _, htaken, hitems⟩
  · obtain ⟨before, after, hsplit, -⟩ := hitems.exists_split
    exact ⟨taken, before, after, htaken, hsplit⟩

/-- **The registration in a migrated module.** -/
theorem exists_registration_migrate (o : Options) (m : Module) :
    ∃ taken r before after, Extracted o.kind (arranged o m).items taken ∧
      (migrate o m).module.items = before ++ Registration.item r :: after ∧
      r.factory = o.factory ∧ r.component = o.kind.slot?.map (·, (migrate o m).component) ∧
      r.head = if o.kind.hasHead then
          some (headOf o (taken.tags.map (mapValue (fontVisit o m)))
            (arranged o m).state.stylesheets)
        else none := by
  obtain ⟨taken, before, after, htaken, hsplit⟩ := exists_split_registered o m
  have hhead := head_mapTags_registration o m taken.tags
  have hroute : (registration (arranged o m).state taken.tags).factory = o.factory ∧
      (registration (arranged o m).state taken.tags).component =
        o.kind.slot?.map (·, (migrate o m).component) := by
    rw [(state_migrate o m).1]
    show (arranged o m).state.options.factory = _ ∧
      (arranged o m).state.options.kind.slot?.map _ = _
    rw [options_arranged]
    exact ⟨rfl, rfl⟩
  suffices h : ∃ before after, (migrate o m).module.items = before ++
      (mapTags (fontVisit o m) (registration (arranged o m).state taken.tags)).item :: after by
    obtain ⟨before', after', hitems⟩ := h
    exact ⟨taken, _, before', after', htaken, hitems, hroute.1, hroute.2, hhead⟩
  rw [items_migrate]
  by_cases hfont : o.fontAware = true
  · obtain ⟨before', after', hleft⟩ := exists_split_eliminateFonts before after
      (registration (arranged o m).state taken.tags) (registered o m).state
    rw [← hsplit] at hleft
    refine ⟨before', after', ?_⟩
    rw [if_pos hfont, hleft, fontVisit, hfont]
    cases (removedFonts (registered o m).items).isEmpty <;> rfl
  · refine ⟨before, after, ?_⟩
    rw [if_neg hfont, hsplit, fontVisit, Bool.eq_false_iff.mpr hfont]
    exact congrArg (fun r => before ++ Registration.item r :: after) (mapTags_id _).symm

end RouteMigration.Migration
