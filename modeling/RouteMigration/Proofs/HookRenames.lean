import RouteMigration.Proofs.ImportSources

/-!
# The hooks that a module renames

Which uses of hooks change is decided by the imports of the navigation module.  The steps before
the one that maps hooks leave these imports alone, so the answer can be read off the module as it
came in.

## Main Definitions

* `mappedHooks` — the local names of the hooks

## Main Statements

* `hookRenames_boundStep` — the steps up to there change nothing about the hooks
* `hookRenames_redirectImports` — nor does the one that redirects imports
-/

namespace RouteMigration.Migration

variable {items : List Node}

/-- The local names of the hooks that a module imports and that are mapped to the router. -/
def mappedHooks (items : List Node) : NameSet := .ofList ((hookRenames items).map (·.fromName))

theorem covers_mappedHooks (items : List Node) :
    Covers (mappedHooks items) (hookRenames items) := by
  intro r hr
  rw [mappedHooks, NameSet.contains_ofList]
  exact List.mem_map_of_mem hr

/-! ### Earlier steps -/

theorem mapImport_of_ne {item : Node} (h : Shape.importSource? item ≠ some navigationSource) :
    mapImport item = .none := by
  unfold mapImport
  split
  · next isTypeOnly phase s specifiers source raw ss attributes =>
    have hne : source ≠ navigationSource := fun heq => h (congrArg some heq)
    rw [if_pos (by simpa using hne)]
  · rfl

theorem renames_of_ne {item : Node} (h : Shape.importSource? item ≠ some navigationSource) :
    (mapImport item).renames = [] := by
  rw [mapImport_of_ne h]
  rfl

theorem renames_of_none {item : Node} (h : Shape.importSource? item = none) :
    (mapImport item).renames = [] :=
  renames_of_ne (by simp [h])

theorem hookRenames_importRouter (items : List Node) (s : State) :
    hookRenames (importRouter items s).items = hookRenames items := by
  have hrouter : (mapImport (routerImport s.options.factory)).renames = [] :=
    renames_of_ne fun h => absurd (Option.some.inj h) (by decide)
  show hookRenames (items.take _ ++ routerImport s.options.factory :: items.drop _) = _
  rw [hookRenames, List.flatMap_append, List.flatMap_cons, hrouter, List.nil_append,
    ← List.flatMap_append, List.take_append_drop, hookRenames]

theorem importSource?_of_directive {item : Node} (h : (Shape.directive? item).isSome = true) :
    Shape.importSource? item = none := by
  unfold Shape.directive? at h
  split at h
  · rfl
  · cases h

theorem hookRenames_stripUseClient (items : List Node) (s : State) :
    hookRenames (stripUseClient items s).items = hookRenames items := by
  have hdirectives : ∀ item ∈ items.take (Shape.prologue items), (mapImport item).renames = [] :=
    fun item hitem => renames_of_none (importSource?_of_directive (directive_of_mem_prologue hitem))
  show hookRenames ((items.take (Shape.prologue items)).filter (!Shape.isUseClient ·) ++
    items.drop (Shape.prologue items)) = _
  conv_rhs => rw [← List.take_append_drop (Shape.prologue items) items]
  rw [hookRenames, hookRenames, List.flatMap_append, List.flatMap_append,
    List.flatMap_eq_nil_iff.mpr hdirectives,
    List.flatMap_eq_nil_iff.mpr fun item hitem => hdirectives item (List.mem_of_mem_filter hitem)]

theorem hookRenames_bindComponent (items : List Node) (s : State) :
    hookRenames (bindComponent items s).items = hookRenames items := by
  have hcases := bindComponent_cases items s
  generalize (bindComponent items s).items = items', (bindComponent items s).state = s' at hcases ⊢
  cases hcases with
  | none => rfl
  | reference => rfl
  | @bound before after found shape bound heq hbefore hfound hshape hbound =>
    have hold : (mapImport found).renames = [] :=
      renames_of_none (importSource?_of_not_isPreamble (isPreamble_of_defaultExport hfound))
    have hnew : (mapImport bound.item).renames = [] :=
      renames_of_none (importSource?_of_not_isPreamble (isPreamble_of_bindExport? hbound))
    rw [heq, hookRenames, hookRenames, List.flatMap_append, List.flatMap_append, List.flatMap_cons,
      List.flatMap_cons, hold, hnew]

/-- An import that is redirected was none of the navigation module, and is none afterwards. -/
theorem renames_of_replace {o : Options} {specifiers : List Node} {source : String} {new : Node}
    {package stylesheet : Option String}
    (h : ImportChange.of o specifiers source = .replace new package stylesheet) :
    (mapImport new).renames = [] := by
  refine renames_of_ne fun hnew => ?_
  rcases source_of_replace h hnew with heq | heq | ⟨-, hstylesheet, heq | heq⟩
  · exact absurd heq (by decide)
  · exact absurd heq (by decide)
  · rw [← heq] at hstylesheet
    rw [isStylesheetSource_of_named (by decide)] at hstylesheet
    cases hstylesheet
  · exact url_ne (by decide) source heq.symm

theorem of_navigationSource (o : Options) (specifiers : List Node) :
    ImportChange.of o specifiers navigationSource = .keep :=
  of_eq_keep (by decide) (by decide) (isStylesheetSource_of_named (by decide)) o

theorem renames_ofItem (o : Options) (item : Node) :
    ((ImportChange.ofItem o item).apply item).flatMap (fun n => (mapImport n).renames) =
      (mapImport item).renames := by
  unfold ImportChange.ofItem
  split
  · next isTypeOnly phase s specifiers source raw ss attributes =>
    by_cases hsource : source = navigationSource
    · subst hsource
      rw [of_navigationSource]
      exact List.flatMap_singleton _ _
    · have hold : (mapImport (.importDecl s isTypeOnly phase specifiers (.str ss source raw)
          attributes)).renames = [] :=
        renames_of_ne fun h => hsource (Option.some.inj h)
      rw [hold]
      cases hof : ImportChange.of o specifiers source with
      | keep => exact (List.flatMap_singleton _ _).trans hold
      | remove => rfl
      | replace new package stylesheet =>
        exact (List.flatMap_singleton _ _).trans (renames_of_replace hof)
  · exact List.flatMap_singleton _ _

theorem hookRenames_redirectImports (items : List Node) (s : State) :
    hookRenames (redirectImports items s).items = hookRenames items := by
  show hookRenames (items.flatMap fun item => (ImportChange.ofItem s.options item).apply item) = _
  rw [hookRenames, List.flatMap_assoc, hookRenames]
  congr 1
  exact List.flatMap_congr fun item _ => renames_ofItem s.options item

/-! ### All the earlier steps -/

theorem hookRenames_boundStep (o : Options) (m : Module) :
    hookRenames (boundStep o m).items = hookRenames m.items := by
  rw [items_boundStep, hookRenames_bindComponent, hookRenames_importRouter,
    hookRenames_stripUseClient]

end RouteMigration.Migration
