import Mathlib.Data.List.Basic
import RouteMigration.Project.FileTree

/-!
# Laws of file trees

What is at a location after a change, and the one fact about a tree that every change keeps: what
an entry lies in is a directory.

## Main Definitions

* `FileTree.IsConnected` — every entry lies in a directory
* `FileTree.Extends` — a tree with more directories, on the way to a location

## Main Statements

* `FileTree.find?_insert`, `FileTree.find?_erase` — the whole effect of the two basic changes
* `FileTree.makeDirectories_spec` — only directories that were missing are made

## Design Notes

The laws of `insert` and `erase` do not need the entries to be in ascending order; only the order
of a walk does.
-/

namespace RouteMigration.FileTree

variable {t t' : FileTree} {l l' : Location} {e : Entry}

/-! ### Entries -/

@[simp] theorem find?_nil (t : FileTree) : t.find? [] = some .directory := rfl

theorem find?_of_ne_nil (t : FileTree) (h : l ≠ []) : t.find? l = t.entries.lookup l := by
  rw [find?, if_neg h]

theorem isDirectory_iff : t.isDirectory l = true ↔ t.find? l = some .directory := by
  simp [isDirectory]

theorem lookup_cons_eq_ite (x : Location × Entry) (xs : List (Location × Entry)) (l : Location) :
    (x :: xs).lookup l = if l = x.1 then some x.2 else xs.lookup l := by
  rw [List.lookup_cons]
  by_cases h : l = x.1
  · rw [if_pos h, beq_iff_eq.mpr h]
  · rw [if_neg h, beq_eq_false_iff_ne.mpr h]

theorem lookup_insertInto (l l' : Location) (e : Entry) (entries : List (Location × Entry)) :
    (insertInto l e entries).lookup l' = if l' = l then some e else entries.lookup l' := by
  induction entries with
  | nil => rw [insertInto, lookup_cons_eq_ite]
  | cons x xs ih =>
    rw [insertInto]
    split
    · rw [lookup_cons_eq_ite]
    · split
      · next hx =>
        subst hx
        rw [lookup_cons_eq_ite, lookup_cons_eq_ite]
        split <;> rfl
      · next hx =>
        rw [lookup_cons_eq_ite, lookup_cons_eq_ite, ih]
        by_cases h : l' = x.1
        · rw [if_pos h, if_pos h, if_neg]
          rintro rfl
          exact hx h
        · rw [if_neg h, if_neg h]

/-- **An entry put in.**  It is found where it was put, and all else is as it was. -/
theorem find?_insert (t : FileTree) (hl : l ≠ []) (e : Entry) (l' : Location) :
    (t.insert l e).find? l' = if l' = l then some e else t.find? l' := by
  by_cases hl' : l' = []
  · subst hl'
    rw [find?_nil, find?_nil, if_neg (Ne.symm hl)]
  · rw [find?_of_ne_nil _ hl', find?_of_ne_nil _ hl', insert, lookup_insertInto]

theorem lookup_filter_ne (l l' : Location) (entries : List (Location × Entry)) :
    (entries.filter (·.1 ≠ l)).lookup l' = if l' = l then none else entries.lookup l' := by
  induction entries with
  | nil => rw [List.filter_nil, List.lookup_nil, ite_self]
  | cons x xs ih =>
    by_cases hx : x.1 = l
    · subst hx
      rw [List.filter_cons_of_neg (by simp), ih, lookup_cons_eq_ite]
      split <;> rfl
    · rw [List.filter_cons_of_pos (by simpa using hx), lookup_cons_eq_ite, lookup_cons_eq_ite, ih]
      by_cases h : l' = x.1
      · rw [if_pos h, if_pos h, if_neg]
        rintro rfl
        exact hx h.symm
      · rw [if_neg h, if_neg h]

/-- **An entry taken out.**  Nothing is found where it was, and all else is as it was. -/
theorem find?_erase (t : FileTree) (hl : l ≠ []) (l' : Location) :
    (t.erase l).find? l' = if l' = l then none else t.find? l' := by
  by_cases hl' : l' = []
  · subst hl'
    rw [find?_nil, find?_nil, if_neg (Ne.symm hl)]
  · rw [find?_of_ne_nil _ hl', find?_of_ne_nil _ hl', erase, lookup_filter_ne]

/-! ### Connected trees -/

/-- What an entry lies in is a directory. -/
def IsConnected (t : FileTree) : Prop :=
  ∀ l n, t.find? (l ++ [n]) ≠ none → t.find? l = some .directory

/-- Everything on the way to an entry is a directory. -/
theorem IsConnected.find?_of_append (ht : t.IsConnected) {rest : Location} (hrest : rest ≠ [])
    (h : t.find? (l ++ rest) ≠ none) : t.find? l = some .directory := by
  induction rest generalizing l with
  | nil => exact absurd rfl hrest
  | cons n rest ih =>
    by_cases hempty : rest = []
    · subst hempty
      exact ht l n h
    · have hnext : t.find? (l ++ [n]) = some .directory := by
        refine ih hempty ?_
        rwa [List.append_assoc]
      exact ht l n (by simp [hnext])

/-- An entry put into a directory, where no directory is lost by it. -/
theorem IsConnected.insert (ht : t.IsConnected) (hl : l ≠ [])
    (hparent : t.find? l.dropLast = some .directory)
    (hold : t.find? l ≠ some .directory ∨ e = .directory) : (t.insert l e).IsConnected := by
  intro l' n' h
  rw [find?_insert t hl] at h ⊢
  -- the new entry lies in `l.dropLast`; every other entry lies where it lay
  by_cases hnew : l' ++ [n'] = l
  · have hdrop : l.dropLast = l' := by rw [← hnew, List.dropLast_concat]
    have hne : l' ≠ l := by
      rintro rfl
      simpa using congrArg List.length hnew
    rw [if_neg hne, ← hdrop]
    exact hparent
  · rw [if_neg hnew] at h
    have hdir := ht l' n' h
    by_cases hl' : l' = l
    · rw [if_pos hl']
      rw [hl'] at hdir
      rcases hold with hold | rfl
      · exact absurd hdir hold
      · rfl
    · rw [if_neg hl']
      exact hdir

/-- A file taken out. -/
theorem IsConnected.erase (ht : t.IsConnected) (hl : l ≠ []) (hfile : t.find? l ≠ some .directory) :
    (t.erase l).IsConnected := by
  intro l' n' h
  rw [find?_erase t hl] at h ⊢
  have hsome : t.find? (l' ++ [n']) ≠ none := by
    intro hnone
    rw [hnone, ite_self] at h
    exact h rfl
  have hdir := ht l' n' hsome
  have hl' : l' ≠ l := by
    rintro rfl
    exact hfile hdir
  rw [if_neg hl', hdir]

/-! ### Directories -/

/-- The tree has more directories, all of them on the way to a location. -/
def Extends (t t' : FileTree) (goal : Location) : Prop :=
  ∀ l, t'.find? l = t.find? l ∨
    t.find? l = none ∧ t'.find? l = some .directory ∧ l <+: goal

theorem Extends.refl (t : FileTree) (goal : Location) : Extends t t goal := fun _ => Or.inl rfl

theorem Extends.trans {t'' : FileTree} {goal : Location} (h : Extends t t' goal)
    (h' : Extends t' t'' goal) : Extends t t'' goal := by
  intro l
  rcases h' l with hsame' | ⟨hnone', hdir', hprefix'⟩
  · rcases h l with hsame | ⟨hnone, hdir, hprefix⟩
    · exact Or.inl (hsame'.trans hsame)
    · exact Or.inr ⟨hnone, hsame'.trans hdir, hprefix⟩
  · rcases h l with hsame | ⟨-, hdir, -⟩
    · exact Or.inr ⟨hsame.symm.trans hnone', hdir', hprefix'⟩
    · rw [hdir] at hnone'
      exact absurd hnone' (by simp)

/-- No directory is lost. -/
theorem Extends.isDirectory {goal : Location} (h : Extends t t' goal) (l : Location)
    (hl : t.find? l = some .directory) : t'.find? l = some .directory := by
  rcases h l with hsame | ⟨-, hdir, -⟩
  · rw [hsame, hl]
  · exact hdir

theorem makeDirectory_spec {here : Location} {n : String} {isLast : Bool} (ht : t.IsConnected)
    (hhere : t.find? here = some .directory) (h : makeDirectory here n isLast t = .ok t') :
    Extends t t' (here ++ [n]) ∧ t'.IsConnected ∧ t'.find? (here ++ [n]) = some .directory := by
  unfold makeDirectory at h
  split at h
  · next hdir =>
    cases h
    exact ⟨Extends.refl t _, ht, hdir⟩
  · cases h
  · next hnone =>
    cases h
    have hparent : t.find? (here ++ [n]).dropLast = some .directory := by
      rw [List.dropLast_concat, hhere]
    refine ⟨fun l => ?_, ht.insert (by simp) hparent (Or.inr rfl), ?_⟩
    · rw [find?_insert t (by simp)]
      by_cases hl : l = here ++ [n]
      · subst hl
        exact Or.inr ⟨hnone, if_pos rfl, List.prefix_refl _⟩
      · exact Or.inl (if_neg hl)
    · rw [find?_insert t (by simp), if_pos rfl]

theorem makeDirectoriesFrom_spec {names : List String} {here : Location} (ht : t.IsConnected)
    (hhere : t.find? here = some .directory) (h : makeDirectoriesFrom here names t = .ok t') :
    Extends t t' (here ++ names) ∧ t'.IsConnected ∧
      t'.find? (here ++ names) = some .directory := by
  induction names generalizing here t with
  | nil =>
    obtain rfl : t = t' := by simpa [makeDirectoriesFrom] using h
    rw [List.append_nil]
    exact ⟨Extends.refl t _, ht, hhere⟩
  | cons n names ih =>
    rw [makeDirectoriesFrom] at h
    cases hmake : t.makeDirectory here n names.isEmpty with
    | error fault =>
      rw [hmake] at h
      cases h
    | ok t₁ =>
      rw [hmake] at h
      obtain ⟨hext, ht₁, hdir⟩ := makeDirectory_spec ht hhere hmake
      obtain ⟨hext', ht', hdir'⟩ := ih ht₁ hdir h
      rw [List.append_assoc] at hext' hdir'
      refine ⟨Extends.trans (fun l => (hext l).imp_right ?_) hext', ht', hdir'⟩
      rintro ⟨hnone, hnew, hprefix⟩
      refine ⟨hnone, hnew, hprefix.trans ?_⟩
      exact ⟨names, by simp⟩

/-- **Directories made.**  The tree has the directory, and nothing changes but what was missing on
the way to it. -/
theorem makeDirectories_spec (ht : t.IsConnected) (h : t.makeDirectories l = .ok t') :
    Extends t t' l ∧ t'.IsConnected ∧ t'.find? l = some .directory :=
  makeDirectoriesFrom_spec ht (find?_nil t) h

/-- Directories that are there are not made again. -/
theorem makeDirectories_of_directory (ht : t.IsConnected) (h : t.find? l = some .directory) :
    t.makeDirectories l = .ok t := by
  -- the directories still to be made are generalized, with the location they are made in
  have hfrom : ∀ (names : List String) (here : Location),
      t.find? (here ++ names) = some .directory → makeDirectoriesFrom here names t = .ok t := by
    intro names
    induction names with
    | nil => exact fun _ _ => rfl
    | cons n names ih =>
      intro here hdir
      have hnext : t.find? (here ++ [n]) = some .directory := by
        by_cases hempty : names = []
        · subst hempty
          exact hdir
        · refine ht.find?_of_append hempty ?_
          rw [List.append_assoc]
          simp [hdir]
      have hmake : t.makeDirectory here n names.isEmpty = .ok t := by
        rw [makeDirectory, hnext]
      rw [makeDirectoriesFrom, hmake]
      exact ih (here ++ [n]) (by rwa [List.append_assoc])
  exact hfrom l [] h

end RouteMigration.FileTree
