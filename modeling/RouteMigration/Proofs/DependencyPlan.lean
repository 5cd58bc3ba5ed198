import RouteMigration.Proofs.IntroducedImports

/-!
# The plan of a run, carried out

A plan says which packages a project has to add and which it may remove.  Planning again for a
project that followed the plan could ask for more only if a package were both required and
obsolete: it would be added and removed in turns.  No run requires such a package, as its modules
ask for the package of images alone.

## Main Definitions

* `DependencyPlan.carriedOut` — what a project declares once it followed a plan

## Main Statements

* `DependencyPlan.isEmpty_make_carriedOut_iff` — when nothing is left to plan
* `Workspace.eq_imagePackage_of_required` — what a run can require
* `DependencyPlan.plan_settles_in_one_step` — the plan for what a run requires
-/

namespace RouteMigration

namespace DependencyPlan

variable {plan : DependencyPlan} {declared required : NameSet} {p : String}

theorem isEmpty_iff :
    plan.isEmpty = true ↔
      (∀ p, ¬plan.add.contains p = true) ∧ ∀ p, ¬plan.remove.contains p = true := by
  rw [isEmpty, Bool.and_eq_true, NameSet.isEmpty_iff_not_contains,
    NameSet.isEmpty_iff_not_contains]

/-- What a project declares once it removed and added what the plan says. -/
def carriedOut (plan : DependencyPlan) (declared : NameSet) : NameSet :=
  (declared.filter (!plan.remove.contains ·)).union plan.add

theorem contains_carriedOut :
    (plan.carriedOut declared).contains p = true ↔
      (declared.contains p = true ∧ ¬plan.remove.contains p = true) ∨
        plan.add.contains p = true := by
  rw [carriedOut, NameSet.contains_union, NameSet.contains_filter, Bool.not_eq_true',
    Bool.not_eq_true]

theorem not_obsolete_of_base : ∀ p ∈ basePackages, p ∉ obsoletePackages := by decide

/-- **A plan that was followed.**  What is needed is declared then, and of what is obsolete, only
what was required and not declared before. -/
theorem contains_carriedOut_make :
    ((make declared required).carriedOut declared).contains p = true ↔
      if p ∈ obsoletePackages then required.contains p = true ∧ ¬declared.contains p = true
      else declared.contains p = true ∨ p ∈ basePackages ∨ required.contains p = true := by
  rw [contains_carriedOut, contains_remove_make, contains_add_make_iff]
  split
  · next hobsolete =>
    have hbase : p ∉ basePackages := fun hbase => not_obsolete_of_base p hbase hobsolete
    constructor
    · rintro (⟨hdeclared, hkept⟩ | ⟨hneeded, hnew⟩)
      · exact absurd ⟨hobsolete, hdeclared⟩ hkept
      · exact ⟨hneeded.resolve_left hbase, hnew⟩
    · rintro ⟨hrequired, hnew⟩
      exact Or.inr ⟨Or.inr hrequired, hnew⟩
  · next hobsolete =>
    constructor
    · rintro (⟨hdeclared, -⟩ | ⟨hneeded, -⟩)
      · exact Or.inl hdeclared
      · exact Or.inr hneeded
    · intro h
      by_cases hdeclared : declared.contains p = true
      · exact Or.inl ⟨hdeclared, fun hremoved => hobsolete hremoved.1⟩
      · exact Or.inr ⟨h.resolve_left hdeclared, hdeclared⟩

/-- **Planning again.**  Nothing is left to plan exactly if nothing obsolete is required.  Else a
package that was added is removed again, or one that was removed is added again. -/
theorem isEmpty_make_carriedOut_iff :
    (make ((make declared required).carriedOut declared) required).isEmpty = true ↔
      ∀ p ∈ obsoletePackages, ¬required.contains p = true := by
  rw [isEmpty_iff]
  simp only [contains_add_make_iff, contains_remove_make, contains_carriedOut_make]
  constructor
  · rintro ⟨hadd, hremove⟩ p hobsolete hrequired
    by_cases hdeclared : declared.contains p = true
    · refine hadd p ⟨Or.inr hrequired, ?_⟩
      rw [if_pos hobsolete]
      exact fun h => h.2 hdeclared
    · refine hremove p ⟨hobsolete, ?_⟩
      rw [if_pos hobsolete]
      exact ⟨hrequired, hdeclared⟩
  · intro hnone
    refine ⟨fun p => ?_, fun p => ?_⟩
    · rintro ⟨hneeded, hmissing⟩
      have hobsolete : p ∉ obsoletePackages := fun hobsolete =>
        hneeded.elim (fun hbase => not_obsolete_of_base p hbase hobsolete) (hnone p hobsolete)
      rw [if_neg hobsolete] at hmissing
      exact hmissing (Or.inr hneeded)
    · rintro ⟨hobsolete, hdeclared⟩
      rw [if_pos hobsolete] at hdeclared
      exact hnone p hobsolete hdeclared.1

end DependencyPlan

/-- **What a run requires.**  The modules of a run ask for no other package than that of images. -/
theorem Workspace.eq_imagePackage_of_required {w : Workspace} {tools : Toolbox} {root p : String}
    {c : Config} {report : MigrationReport} (h : (w.migrate tools root c).1 = .ok report)
    (hp : (requiredPackages report.files).contains p = true) : p = imagePackage := by
  obtain ⟨made, -, hasked⟩ := (contains_requiredPackages h p).mp hp
  exact ((Migration.contains_packages_migrate made.options made.module p).mp hasked).1

namespace DependencyPlan

/-- **Plans settle.**  Let a project declare anything, and plan for what some run requires.  What is
added is neither declared nor removed, what is removed is declared, and what every project and this
run need is declared or added.  Once the plan was followed, there is nothing left to plan. -/
theorem plan_settles_in_one_step (w : Workspace) (tools : Toolbox) (root : String) (c : Config)
    (report : MigrationReport) (hreport : (w.migrate tools root c).1 = .ok report)
    (declared : NameSet) :
    let required := requiredPackages report.files
    let plan := make declared required
    (∀ p, plan.add.contains p = true →
        ¬declared.contains p = true ∧ ¬plan.remove.contains p = true) ∧
      (∀ p, plan.remove.contains p = true → declared.contains p = true) ∧
      (∀ p, p ∈ ["@tanstack/react-router", "@tanstack/react-start"] ∨ required.contains p = true →
        declared.contains p = true ∨ plan.add.contains p = true) ∧
      (make (plan.carriedOut declared) required).isEmpty = true := by
  intro required plan
  have hremove : ∀ p, plan.remove.contains p = true → declared.contains p = true :=
    fun p hp => (contains_remove_make.mp hp).2
  refine ⟨fun p hp => ?_, hremove, fun p hp => contains_add_make hp, ?_⟩
  · have hnew := (contains_add_make_iff.mp hp).2
    exact ⟨hnew, fun hremoved => hnew (hremove p hremoved)⟩
  · refine isEmpty_make_carriedOut_iff.mpr fun p hobsolete hrequired => ?_
    obtain rfl := Workspace.eq_imagePackage_of_required hreport hrequired
    exact absurd hobsolete (by decide)

/-- A run that requires the package of images, and a project that declares the framework. -/
theorem plan_settles_for_photoProject :
    ∃ report, (Migration.photoProject.migrate (fun _ => none) "p" {}).1 = .ok report ∧
      (requiredPackages report.files).contains imagePackage = true ∧
      let declared := NameSet.ofList ["next"]
      let plan := make declared (requiredPackages report.files)
      plan.remove.contains "next" = true ∧ plan.add.contains imagePackage = true ∧
        (make (plan.carriedOut declared) (requiredPackages report.files)).isEmpty = true := by
  have hruns : (Migration.photoProject.migrate (fun _ => none) "p" {}).1.toOption.any
      (fun report => (requiredPackages report.files).contains imagePackage) = true := by
    decide +kernel
  obtain ⟨report, hrun, hrequired⟩ := exists_eq_ok_of_any hruns
  obtain ⟨-, -, hneeded, hsettled⟩ := plan_settles_in_one_step Migration.photoProject
    (fun _ => none) "p" {} report hrun (.ofList ["next"])
  have hremoves : "next" ∈ obsoletePackages ∧
      (NameSet.ofList ["next"]).contains "next" = true := by decide
  have hnew : ¬(NameSet.ofList ["next"]).contains imagePackage = true := by decide
  exact ⟨report, hrun, hrequired, contains_remove_make.mpr hremoves,
    (hneeded imagePackage (Or.inr hrequired)).resolve_left hnew, hsettled⟩

end DependencyPlan

end RouteMigration
