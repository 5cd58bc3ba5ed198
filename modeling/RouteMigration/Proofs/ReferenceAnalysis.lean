import RouteMigration.Proofs.Reference
import RouteMigration.Tree.Build

/-!
# The counts of names

A module is analysed for a set of names at once: the declarators of these names are skipped, and
the references to them are counted one after the other.  What is counted for a name is the same
for every set that it is a member of, though other declarators are skipped.

## Main Definitions

* `ReferenceAnalysis.IsExact` — an analysis has entries for what was met, and for nothing else

## Main Statements

* `ReferenceAnalysis.lookup?_record` — what one reference changes
* `ReferenceAnalysis.count_foldl` — what the references of a walk add to a count
* `ReferenceAnalysis.IsExact.foldl` — an analysis stays exact
* `ReferenceAnalysis.count_ofItems` — a count is the number of references
* `ReferenceAnalysis.counts_are_pointwise` — counts do not depend on the other names
-/

namespace RouteMigration

namespace ReferenceCount

theorem add_className_other (c : ReferenceCount) (inClassName : Bool) :
    (c.add inClassName).className + (c.add inClassName).other = c.className + c.other + 1 := by
  cases inClassName with
  | false => exact (Nat.add_assoc _ _ _).symm
  | true => exact Nat.add_right_comm _ _ _

end ReferenceCount

namespace ReferenceAnalysis

/-! ### One reference -/

theorem find?_countInto (r : Reference) (name : String)
    (entries : List (String × ReferenceCount)) :
    ((r.countInto entries).find? (·.1 = name)).map (·.2) =
      if r.name = name then
        some (ReferenceCount.add (((entries.find? (·.1 = name)).map (·.2)).getD {}) r.inClassName)
      else (entries.find? (·.1 = name)).map (·.2) := by
  induction entries with
  | nil => by_cases h : r.name = name <;> simp [Reference.countInto, h]
  | cons entry rest ih =>
    rw [Reference.countInto]
    by_cases hr : r.name = entry.1
    · rw [if_pos hr]
      by_cases h : entry.1 = name <;> simp [hr, h]
    · rw [if_neg hr]
      by_cases h : entry.1 = name
      · have hne : r.name ≠ name := fun heq => hr (heq.trans h.symm)
        simp [h, hne]
      · simpa [h] using ih

/-- **One reference** changes the entry of its name, if that is one of the names in question. -/
theorem lookup?_record (names : NameSet) (a : ReferenceAnalysis) (r : Reference) (name : String) :
    (a.record names r).lookup? name =
      if names.contains r.name = true ∧ r.name = name then
        some ((a.count name).add r.inClassName)
      else a.lookup? name := by
  unfold record
  by_cases hr : names.contains r.name = true
  · rw [if_pos hr, lookup?, find?_countInto]
    simp only [hr, true_and]
    rfl
  · rw [if_neg hr, if_neg fun h => hr h.1]

theorem count_record {names : NameSet} {name : String} (h : names.contains name = true)
    (a : ReferenceAnalysis) (r : Reference) :
    (a.record names r).count name =
      if r.name = name then (a.count name).add r.inClassName else a.count name := by
  rw [count, lookup?_record]
  by_cases hr : r.name = name
  · rw [if_pos ⟨by rw [hr, h], hr⟩, if_pos hr]
    rfl
  · rw [if_neg fun hand => hr hand.2, if_neg hr]
    rfl

/-! ### A walk -/

/-- **A walk** adds to the count of a name the references that it meets. -/
theorem count_foldl {names : NameSet} {name : String} (h : names.contains name = true)
    (rs : List Reference) (a : ReferenceAnalysis) :
    (rs.foldl (record names) a).count name =
      { className := (a.count name).className + rs.count ⟨name, true⟩
        other := (a.count name).other + rs.count ⟨name, false⟩ } := by
  induction rs generalizing a with
  | nil => rfl
  | cons r rs ih =>
    obtain ⟨x, inClassName⟩ := r
    rw [List.foldl_cons, ih, count_record h, List.count_cons, List.count_cons]
    by_cases hx : x = name
    · subst hx
      cases inClassName <;> simp [ReferenceCount.add] <;> omega
    · simp [hx]

/-- The analysis has entries for names in question only, and only for those that were met. -/
structure IsExact (names : NameSet) (a : ReferenceAnalysis) : Prop where
  contains : ∀ {name c}, a.lookup? name = some c → names.contains name = true
  seen : ∀ {name c}, a.lookup? name = some c → 0 < c.className + c.other

theorem isExact_empty (names : NameSet) : IsExact names {} where
  contains h := by cases h
  seen h := by cases h

/-- One reference more leaves an analysis exact. -/
theorem IsExact.record {names : NameSet} {a : ReferenceAnalysis} (h : IsExact names a)
    (r : Reference) : IsExact names (a.record names r) where
  contains {name c} hc := by
    rw [lookup?_record] at hc
    split at hc
    next hr => exact hr.2 ▸ hr.1
    next => exact h.contains hc
  seen {name c} hc := by
    rw [lookup?_record] at hc
    split at hc
    next =>
      obtain rfl := Option.some.inj hc
      rw [ReferenceCount.add_className_other]
      exact Nat.succ_pos _
    next => exact h.seen hc

theorem IsExact.foldl {names : NameSet} (rs : List Reference) {a : ReferenceAnalysis}
    (h : IsExact names a) : IsExact names (rs.foldl (ReferenceAnalysis.record names) a) := by
  induction rs generalizing a with
  | nil => exact h
  | cons r rs ih => exact ih (h.record r)

/-! ### A module -/

theorem isExact_ofItems (names : NameSet) (items : List Node) :
    IsExact names (ofItems names items) :=
  (isExact_empty names).foldl _

theorem IsExact.lookup?_eq_none {names : NameSet} {a : ReferenceAnalysis} (h : IsExact names a)
    {name : String} (hname : ¬names.contains name = true) : a.lookup? name = none := by
  cases hentry : a.lookup? name with
  | none => rfl
  | some c => exact absurd (h.contains hentry) hname

theorem IsExact.isSome_lookup?_iff {names : NameSet} {a : ReferenceAnalysis}
    (h : IsExact names a) (name : String) :
    (a.lookup? name).isSome = true ↔ 0 < (a.count name).className + (a.count name).other := by
  rw [count]
  cases hentry : a.lookup? name with
  | none => simp
  | some c => simpa using h.seen hentry

/-- The count of a name in question is the number of references to it. -/
theorem count_ofItems (names : NameSet) (items : List Node) (name : String) :
    (ofItems names items).count name = ReferenceCount.of items names name := by
  rw [ReferenceCount.of]
  split
  next h =>
    rw [ofItems, count_foldl h, ReferenceCount.ofReferences]
    simp [count, lookup?]
  next h => rw [count, (isExact_ofItems names items).lookup?_eq_none h, Option.getD_none]

/-- **Counts do not depend on the other names.**  A name has the same count in the analyses of a
module for all sets that it is a member of, which is the number of references to it.  A name
outside the set has no entry, and a name has an entry if and only if its count is not zero. -/
theorem counts_are_pointwise (items : List Node) (names : NameSet) (name : String) :
    (names.contains name = true →
      (ofItems names items).count name = (ofItems (.ofList [name]) items).count name) ∧
      (ofItems names items).count name = ReferenceCount.of items names name ∧
      (names.contains name = false → (ofItems names items).lookup? name = none) ∧
      (((ofItems names items).lookup? name).isSome = true ↔
        0 < ((ofItems names items).count name).className +
          ((ofItems names items).count name).other) := by
  have hexact := isExact_ofItems names items
  refine ⟨fun h => ?_, count_ofItems names items name, fun h => ?_,
    hexact.isSome_lookup?_iff name⟩
  · have hself : (NameSet.ofList [name]).contains name = true := by simp
    rw [count_ofItems, count_ofItems, ReferenceCount.of_congr h hself]
  · exact hexact.lookup?_eq_none (by simp [h])

/-- `const inter = Inter(), mono = inter; <body className={inter.className}/>;` -/
def sharedFont : List Node :=
  [.varDecl none .const false
      [.declarator none false (.mk (.binding "inter" false) none [.absent])
          (Build.call (Build.ref "Inter") []),
        .declarator none false (.mk (.binding "mono" false) none [.absent]) (Build.ref "inter")],
    .exprStmt none
      (Build.element "body"
        [.attr none (.word none "className")
          (.container none (.member none (Build.ref "inter") (.word none "className")))] [])]

/-- A font is counted alike whether the name declared beside it is in question or not. -/
theorem sharedFont_is_counted_alike :
    (NameSet.ofList ["inter", "mono"]).contains "inter" = true ∧
      (NameSet.ofList ["inter", "mono"]).contains "Inter" = false ∧
      (ofItems (.ofList ["inter"]) sharedFont).count "inter" = ⟨1, 1⟩ ∧
      (ofItems (.ofList ["inter", "mono"]) sharedFont).lookup? "Inter" = none ∧
      (ofItems (.ofList ["inter", "mono"]) sharedFont).lookup? "mono" = none := by
  have hinter : (NameSet.ofList ["inter", "mono"]).contains "inter" = true := by decide
  have hfactory : (NameSet.ofList ["inter", "mono"]).contains "Inter" = false := by decide
  obtain ⟨halike, hcount, -⟩ := counts_are_pointwise sharedFont (.ofList ["inter", "mono"]) "inter"
  obtain ⟨-, -, hnone, -⟩ := counts_are_pointwise sharedFont (.ofList ["inter", "mono"]) "Inter"
  refine ⟨hinter, hfactory, ?_, hnone hfactory, by decide +kernel⟩
  rw [← halike hinter, hcount]
  decide +kernel

end ReferenceAnalysis

end RouteMigration
