import RouteMigration.Text.NameSet

/-!
# Members of name sets

Every operation on name sets is described by its members.  The order in which a set lists them is
of no consequence here: `contains` is the one observer that the migrations use.

## Main Statements

* `NameSet.contains_insert`, `NameSet.contains_ofList`, `NameSet.contains_union`,
  `NameSet.contains_filter` — the members of a set that was made from others
-/

namespace RouteMigration.NameSet

theorem contains_iff_mem (s : NameSet) (name : String) :
    s.contains name = true ↔ name ∈ s.toList := by
  rw [contains, List.contains_iff_mem]

theorem isEmpty_iff_not_contains (s : NameSet) :
    s.isEmpty = true ↔ ∀ name, ¬s.contains name = true := by
  rw [isEmpty, List.isEmpty_iff, List.eq_nil_iff_forall_not_mem]
  simp only [contains_iff_mem]

@[simp] theorem not_contains_empty (name : String) : ¬empty.contains name = true := by
  simp [contains_iff_mem, empty]

theorem mem_insertInto (name x : String) (xs : List String) :
    x ∈ insertInto name xs ↔ x = name ∨ x ∈ xs := by
  induction xs with
  | nil => simp [insertInto]
  | cons y ys ih =>
      rw [insertInto]
      split
      · exact List.mem_cons
      · split
        next h => simp [h]
        next =>
          rw [List.mem_cons, ih, List.mem_cons]
          exact or_left_comm

@[simp] theorem contains_insert (s : NameSet) (name x : String) :
    (s.insert name).contains x = true ↔ x = name ∨ s.contains x = true := by
  rw [contains_iff_mem, contains_iff_mem, insert, mem_insertInto]

/-- Inserting names one after the other adds exactly those names. -/
theorem contains_foldl_insert (names : List String) (s : NameSet) (x : String) :
    (names.foldl (fun s n => s.insert n) s).contains x = true ↔
      x ∈ names ∨ s.contains x = true := by
  induction names generalizing s with
  | nil => simp
  | cons n names ih =>
      rw [List.foldl_cons, ih, contains_insert, List.mem_cons]
      exact or_left_comm.trans or_assoc.symm

@[simp] theorem contains_ofList (names : List String) (x : String) :
    (ofList names).contains x = true ↔ x ∈ names := by
  rw [ofList, contains_foldl_insert]
  simp

@[simp] theorem contains_union (s t : NameSet) (x : String) :
    (s.union t).contains x = true ↔ s.contains x = true ∨ t.contains x = true := by
  rw [union, contains_foldl_insert, ← contains_iff_mem]
  exact or_comm

@[simp] theorem contains_filter (p : String → Bool) (s : NameSet) (x : String) :
    (s.filter p).contains x = true ↔ s.contains x = true ∧ p x = true := by
  rw [contains_iff_mem, contains_iff_mem, filter, List.mem_filter]

end RouteMigration.NameSet
