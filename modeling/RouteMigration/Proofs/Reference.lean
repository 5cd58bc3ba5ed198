import Mathlib.Data.List.Basic
import RouteMigration.Module.Reference
import RouteMigration.Proofs.NameSet

/-!
# The search for references

How the references of a tree come from those of its parts, and how much the search depends on the
names that are looked for.

## Main Statements

* `Reference.ofNode_mk` — the references of a node, by the role of its form
* `Reference.map_name_ofNode` — which names a tree refers to does not depend on where it stands;
  only the mark `inClassName` does
* `ReferenceCount.of_congr` — the count of a name is the same for all sets of names that it is a
  member of
* `ReferenceCount.ofReferences_eq_default_iff` — a count is zero exactly when nothing refers to the
  name
-/

namespace RouteMigration

namespace Reference

/-- **One node.**  The references of a node, by the role of its form. -/
theorem ofNode_mk (f : Form) (s : Option Span) (ps : List Node) (b : Bool) :
    ofNode (.mk f s ps) b =
      match roleOf f with
      | .hidden => []
      | .read name => [⟨name, b⟩]
      | .fixed name => [⟨name, false⟩]
      | .attr => ps.flatMap (ofNode · (isClassNameAttr ps))
      | .inner => ps.flatMap (ofNode · b) := by
  rw [ofNode, Node.fold_mk, step]
  cases roleOf f with
  | hidden => rfl
  | read name => rfl
  | fixed name => rfl
  | attr => simp [List.flatMap_map, Function.comp_def, ofNode]
  | inner => simp [List.flatMap_map, ofNode]

theorem ofNode_inner {f : Form} (h : roleOf f = .inner) (s : Option Span) (ps : List Node)
    (b : Bool) : ofNode (.mk f s ps) b = ps.flatMap (ofNode · b) := by
  rw [ofNode_mk, h]

theorem ofNode_attr (s : Option Span) (ps : List Node) (b : Bool) :
    ofNode (.mk .attr s ps) b = ps.flatMap (ofNode · (isClassNameAttr ps)) := by
  rw [ofNode_mk]
  rfl

theorem eq_ref_of_roleOf {f : Form} {name : String} (h : roleOf f = .read name) :
    f = .ref name := by
  unfold roleOf at h
  split at h <;> simp_all

theorem eq_attr_of_roleOf {f : Form} (h : roleOf f = .attr) : f = .attr := by
  unfold roleOf at h
  split at h <;> simp_all

/-- The names that a tree refers to are the same wherever it stands. -/
theorem map_name_ofNode (n : Node) (b b' : Bool) :
    (ofNode n b).map (·.name) = (ofNode n b').map (·.name) := by
  induction n using Node.induct with
  | mk f s ps ih =>
    rw [ofNode_mk, ofNode_mk]
    cases roleOf f with
    | hidden => rfl
    | read name => rfl
    | fixed name => rfl
    | attr => rfl
    | inner =>
      rw [List.map_flatMap, List.map_flatMap]
      exact List.flatMap_congr ih

/-- The tree refers to the name. -/
def Names (name : String) (n : Node) : Prop := name ∈ (ofNode n false).map (·.name)

theorem names_iff (name : String) (n : Node) (b : Bool) :
    Names name n ↔ ⟨name, true⟩ ∈ ofNode n b ∨ ⟨name, false⟩ ∈ ofNode n b := by
  rw [Names, map_name_ofNode n false b, List.mem_map]
  constructor
  · rintro ⟨⟨x, mark⟩, hmem, rfl⟩
    cases mark with
    | true => exact Or.inl hmem
    | false => exact Or.inr hmem
  · rintro (h | h)
    · exact ⟨_, h, rfl⟩
    · exact ⟨_, h, rfl⟩

theorem names_of_mem {r : Reference} {n : Node} {b : Bool} (h : r ∈ ofNode n b) :
    Names r.name n := by
  rw [Names, map_name_ofNode n false b]
  exact List.mem_map_of_mem h

/-- A node that names nothing itself refers to what its parts refer to. -/
theorem names_parts {f : Form} (h : roleOf f = .attr ∨ roleOf f = .inner) {name : String}
    {s : Option Span} {ps : List Node} :
    Names name (.mk f s ps) ↔ ∃ p ∈ ps, Names name p := by
  rw [Names, ofNode_mk]
  rcases h with h | h
  · simp only [h, List.map_flatMap, List.mem_flatMap, Names]
    simp only [map_name_ofNode _ (isClassNameAttr ps) false]
  · rw [h]
    simp only [List.map_flatMap, List.mem_flatMap, Names]

/-! ### Declarators -/

/-- What the value of a declarator refers to; a value that is not there refers to nothing. -/
theorem getD_value?_declarator (s : Option Span) (isDefinite : Bool) (pattern value : Node) :
    ((Shape.value? (.declarator s isDefinite pattern value)).map (ofNode · false)).getD [] =
      ofNode value false := by
  obtain ⟨f, vs, ps⟩ := value
  by_cases hf : f = .absent
  · subst hf
    rw [ofNode_mk]
    rfl
  · have hvalue : Shape.value? (.declarator s isDefinite pattern (.mk f vs ps)) =
        some (.mk f vs ps) := by
      unfold Shape.value?
      cases isDefinite <;> split <;> simp_all
    rw [hvalue]
    rfl

/-- A declarator of one name refers to that name and to what its value refers to. -/
theorem ofNode_of_boundName? {d : Node} {name : String} (h : Shape.boundName? d = some name) :
    ofNode d false = ⟨name, false⟩ :: ((Shape.value? d).map (ofNode · false)).getD [] := by
  unfold Shape.boundName? at h
  split at h
  next isDefinite s x isOptional bs bps value =>
    obtain rfl : x = name := by simpa using h
    have hbinding : ofNode (.mk (.binding x isOptional) bs bps) false = [⟨x, false⟩] := by
      rw [ofNode_mk]
      rfl
    rw [getD_value?_declarator, ofNode_inner rfl, List.flatMap_cons, hbinding,
      List.flatMap_singleton]
    rfl
  next => exact absurd h (by simp)

theorem declares_iff {names : NameSet} {d : Node} :
    declares names d = true ↔ ∃ x, Shape.boundName? d = some x ∧ names.contains x = true := by
  unfold declares
  cases Shape.boundName? d with
  | none => simp
  | some x => simp

/-- The references of a declarator to one of the names in question, whatever the other names are:
those of its value where it declares that name, and all of them elsewhere. -/
theorem filter_ofDeclarator {names : NameSet} {name : String} (hname : names.contains name = true)
    (d : Node) :
    (ofDeclarator names d).filter (·.name = name) =
      if Shape.boundName? d = some name then
        (((Shape.value? d).map (ofNode · false)).getD []).filter (·.name = name)
      else (ofNode d false).filter (·.name = name) := by
  unfold ofDeclarator
  by_cases hd : Shape.boundName? d = some name
  · rw [if_pos (declares_iff.mpr ⟨name, hd, hname⟩), if_pos hd]
  · rw [if_neg hd]
    split
    next hdeclares =>
      obtain ⟨x, hx, -⟩ := declares_iff.mp hdeclares
      have hne : x ≠ name := by
        rintro rfl
        exact hd hx
      rw [ofNode_of_boundName? hx, List.filter_cons_of_neg (by simpa using hne)]
    next => rfl

/-- Which references there are to a name does not depend on the other names in question. -/
theorem filter_ofItems_congr {names names' : NameSet} {name : String}
    (h : names.contains name = true) (h' : names'.contains name = true) (items : List Node) :
    (ofItems names items).filter (·.name = name) =
      (ofItems names' items).filter (·.name = name) := by
  rw [ofItems, ofItems, List.filter_flatMap, List.filter_flatMap]
  refine List.flatMap_congr fun item _ => ?_
  unfold ofItem
  cases Shape.declarators? item with
  | none => rfl
  | some ds =>
    simp only [List.filter_flatMap]
    refine List.flatMap_congr fun d _ => ?_
    rw [filter_ofDeclarator h, filter_ofDeclarator h']

end Reference

namespace ReferenceCount

open Reference

theorem ofReferences_eq_filter (name : String) (rs : List Reference) :
    ofReferences name rs = ofReferences name (rs.filter (·.name = name)) := by
  simp [ofReferences, List.count_filter]

/-- **Counts do not depend on the other names.**  A name has the same count for all sets of names
that it is a member of. -/
theorem of_congr {names names' : NameSet} {name : String} (h : names.contains name = true)
    (h' : names'.contains name = true) (items : List Node) :
    of items names name = of items names' name := by
  rw [of, of, if_pos h, if_pos h', ofReferences_eq_filter, filter_ofItems_congr h h',
    ← ofReferences_eq_filter]

theorem isSeen_eq_false_iff (c : ReferenceCount) : c.isSeen = false ↔ c = {} := by
  obtain ⟨className, other⟩ := c
  simp [isSeen]

/-- A count is zero exactly when nothing refers to the name. -/
theorem ofReferences_eq_default_iff (name : String) (rs : List Reference) :
    ofReferences name rs = {} ↔ ∀ r ∈ rs, r.name ≠ name := by
  rw [ofReferences, ReferenceCount.mk.injEq, List.count_eq_zero, List.count_eq_zero]
  constructor
  · rintro ⟨htrue, hfalse⟩ ⟨x, mark⟩ hr rfl
    cases mark with
    | true => exact htrue hr
    | false => exact hfalse hr
  · intro h
    exact ⟨fun hr => h _ hr rfl, fun hr => h _ hr rfl⟩

end ReferenceCount

end RouteMigration
