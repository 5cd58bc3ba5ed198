import RouteMigration.Migration.Font
import RouteMigration.Proofs.Reference

/-!
# Cleaning `className` attributes

What is left of a name after `cleanClassNames`.  References are counted by one walk over the tree
and replaced by another, so the two have to agree on every form: a reference that is counted for a
`className` attribute has to be one that is replaced there.

## Main Statements

* `mentions_of_mem` — a reference that is counted for a `className` attribute is found when the
  attribute is cleaned
* `mem_of_names_blankOut` — a name that is left after `blankOut` stands where no string could take
  its place, and is never counted for a `className` attribute
* `mem_of_clean` — a name that a cleaned tree refers to was referred to elsewhere before

## Design Notes

Nested attributes are why `mem_of_clean` has two halves.  A tree in the value of a `className`
attribute keeps its references until the attribute itself is cleaned, which is after its parts;
until then only the references that were counted elsewhere can be excluded.
-/

namespace RouteMigration.Migration

open Reference

variable {names : NameSet} {x : String}

/-! ### Values of `className` attributes -/

theorem mentions_parts {f : Form} (h : roleOf f = .attr ∨ roleOf f = .inner)
    (s : Option Span) (ps : List Node) :
    mentions names (.mk f s ps) = ps.any (mentions names) := by
  rw [mentions, Node.fold_mk]
  unfold mentionsStep
  split
  · exact absurd h (by simp [roleOf])
  · exact absurd h (by simp [roleOf])
  · simp [List.any_map, Function.comp_def]

theorem mentions_ref (s : Option Span) (ps : List Node) :
    mentions names (.mk (.ref x) s ps) = names.contains x := by
  rw [mentions, Node.fold_mk]
  rfl

/-- A reference that stands in a `className` attribute is one that `mentions` finds. -/
theorem mentions_of_mem (hx : names.contains x = true) {n : Node} :
    ∀ {b : Bool}, ⟨x, true⟩ ∈ ofNode n b → mentions names n = true := by
  induction n using Node.induct with
  | mk f s ps ih =>
    intro b h
    rw [ofNode_mk] at h
    cases hf : roleOf f with
    | hidden => simp [hf] at h
    | fixed name => simp [hf] at h
    | read name =>
      obtain ⟨rfl, -⟩ : x = name ∧ b = true := by simpa [hf, eq_comm] using h
      rw [eq_ref_of_roleOf hf, mentions_ref, hx]
    | attr =>
      rw [hf] at h
      obtain ⟨p, hp, hmem⟩ := List.mem_flatMap.mp h
      rw [mentions_parts (Or.inl hf)]
      exact List.any_eq_true.mpr ⟨p, hp, ih p hp hmem⟩
    | inner =>
      rw [hf] at h
      obtain ⟨p, hp, hmem⟩ := List.mem_flatMap.mp h
      rw [mentions_parts (Or.inr hf)]
      exact List.any_eq_true.mpr ⟨p, hp, ih p hp hmem⟩

theorem isRooted_ref (s : Option Span) (ps : List Node) :
    isRooted names (.mk (.ref x) s ps) = names.contains x := by
  rw [isRooted, Shape.memberRoot?, Node.fold_mk]
  rfl

theorem not_names_str (value : String) : ¬Names x (Build.str value) := by
  rw [Build.str, names_parts (Or.inr rfl)]
  simp

/-- What `blankOut` makes of a node: a type stays, one of the names and its members go, and
everything else keeps its form over parts that are changed in the same way. -/
theorem blankOut_cases (f : Form) (s : Option Span) (ps : List Node) :
    (roleOf f = .hidden ∧ blankOut names (.mk f s ps) = .mk f s ps) ∨
      blankOut names (.mk f s ps) = Build.str "" ∨
      ((∀ y, f = .ref y → ¬names.contains y = true) ∧
        blankOut names (.mk f s ps) = .mk f s (ps.map (blankOut names))) := by
  rw [blankOut, Node.fold_mk]
  unfold blankOutStep
  rw [Node.map_fst_walk, Node.map_snd_walk]
  split
  · exact Or.inl ⟨rfl, rfl⟩
  · next y =>
    split
    · exact Or.inr (Or.inl rfl)
    · next hroot =>
      refine Or.inr (Or.inr ⟨?_, rfl⟩)
      rintro z ⟨⟩
      rwa [isRooted_ref] at hroot
  · split
    · exact Or.inr (Or.inl rfl)
    · exact Or.inr (Or.inr ⟨by simp, rfl⟩)
  · next hne _ => exact Or.inr (Or.inr ⟨fun y hy => absurd hy (hne y), rfl⟩)

/-- A name that is left after `blankOut` stands where no string could take its place, so it is
never counted for a `className` attribute. -/
theorem mem_of_names_blankOut (hx : names.contains x = true) {n : Node} :
    Names x (blankOut names n) → ∀ b, ⟨x, false⟩ ∈ ofNode n b := by
  induction n using Node.induct with
  | mk f s ps ih =>
    intro h b
    rcases blankOut_cases f s ps with ⟨hf, hkept⟩ | hblank | ⟨hread, hparts⟩
    · rw [hkept, Names, ofNode_mk, hf] at h
      exact absurd h (by simp)
    · rw [hblank] at h
      exact absurd h (not_names_str "")
    · rw [hparts] at h
      rw [ofNode_mk]
      cases hf : roleOf f with
      | hidden => simp [Names, ofNode_mk, hf] at h
      | read name =>
        -- a reference to a removed name is blanked out, so this one is to another name
        obtain rfl : x = name := by simpa [Names, ofNode_mk, hf] using h
        exact absurd hx (hread x (eq_ref_of_roleOf hf))
      | fixed name =>
        obtain rfl : x = name := by simpa [Names, ofNode_mk, hf] using h
        exact List.mem_singleton_self _
      | attr =>
        obtain ⟨p', hp', hnames⟩ := (names_parts (Or.inl hf)).mp h
        obtain ⟨p, hp, rfl⟩ := List.mem_map.mp hp'
        exact List.mem_flatMap.mpr ⟨p, hp, ih p hp hnames _⟩
      | inner =>
        obtain ⟨p', hp', hnames⟩ := (names_parts (Or.inr hf)).mp h
        obtain ⟨p, hp, rfl⟩ := List.mem_map.mp hp'
        exact List.mem_flatMap.mpr ⟨p, hp, ih p hp hnames _⟩

/-! ### Attributes -/

theorem isClassNameAttr_iff {ps : List Node} :
    isClassNameAttr ps = true ↔
      ∃ ws cs e, ps = [.word ws "className", .container cs e] := by
  unfold isClassNameAttr
  split
  · simp
  · next hne =>
    constructor
    · simp
    · rintro ⟨ws, cs, e, rfl⟩
      exact absurd rfl (hne "className" ws cs e)

theorem names_foldClassName {s cs : Option Span} {ws : Option Span} {e : Node}
    (h : Names x (foldClassName s (.word ws "className") cs e)) : Names x e := by
  have hword : ¬Names x (.word ws "className") := by
    rw [names_parts (Or.inr rfl)]
    simp
  unfold foldClassName at h
  split at h
  · rw [names_parts (Or.inl rfl)] at h
    simpa [hword, names_parts (f := .container) (Or.inr rfl)] using h
  · dsimp only at h
    split at h
    · exact absurd h (by simp [Names, ofNode_mk, roleOf])
    · rw [names_parts (Or.inl rfl)] at h
      simp [hword, not_names_str] at h

/-- What `cleanAttr` makes of an attribute: it stays unless it is a `className` that mentions the
names, and then only what `blankOut` leaves of its value is referred to. -/
theorem cleanAttr_cases (s : Option Span) (ps : List Node) :
    (cleanAttr names (.mk .attr s ps) = .mk .attr s ps ∧
        ∀ ws cs e, ps = [.word ws "className", .container cs e] → mentions names e = false) ∨
      ∃ ws cs e, ps = [.word ws "className", .container cs e] ∧
        ∀ x, Names x (cleanAttr names (.mk .attr s ps)) → Names x (blankOut names e) := by
  unfold cleanAttr
  split
  · next s' name cs e heq =>
    obtain ⟨rfl, rfl⟩ : s = s' ∧ ps = [name, .container cs e] := by simpa using heq
    split
    · next h =>
      obtain ⟨hname, -⟩ := Bool.and_eq_true_iff.mp h
      obtain ⟨ws, rfl⟩ : ∃ ws, name = .word ws "className" := by
        unfold Shape.attrName? at hname
        split at hname
        · next ws v heq' =>
          obtain rfl : _ = "className" := by simpa using hname
          have hparts := congrArg Node.parts heq'
          exact ⟨ws, (List.cons.inj hparts).1⟩
        · simp at hname
      exact Or.inr ⟨ws, cs, e, rfl, fun x hx => names_foldClassName hx⟩
    · next h =>
      refine Or.inl ⟨rfl, ?_⟩
      rintro ws cs' e' heq'
      obtain ⟨rfl, rfl, rfl⟩ : name = .word ws "className" ∧ cs = cs' ∧ e = e' := by
        simpa using heq'
      simpa [Shape.attrName?] using h
  · next hne =>
    refine Or.inl ⟨rfl, ?_⟩
    rintro ws cs e rfl
    exact absurd rfl (hne s (.word ws "className") cs e)

/-! ### Trees -/

theorem cleanClassNames_type (t : TypeForm) (s : Option Span) (ps : List Node) :
    cleanClassNames names (.mk (.type t) s ps) = .mk (.type t) s ps := by
  rw [cleanClassNames, Node.fold_mk, cleanStep, Node.map_fst_walk]

theorem cleanClassNames_attr (s : Option Span) (ps : List Node) :
    cleanClassNames names (.mk .attr s ps) =
      cleanAttr names (.mk .attr s (ps.map (cleanClassNames names))) := by
  rw [cleanClassNames, Node.fold_mk, cleanStep, Node.map_snd_walk]

/-- Apart from types, attributes and opening tags, a node keeps its form over its cleaned parts. -/
theorem cleanClassNames_mk {f : Form} (htype : ∀ t, f ≠ .type t) (hattr : f ≠ .attr)
    (hopening : ∀ b, f ≠ .opening b) (s : Option Span) (ps : List Node) :
    cleanClassNames names (.mk f s ps) = .mk f s (ps.map (cleanClassNames names)) := by
  have hstep : ∀ parts, cleanStep names f s parts = .mk f s (parts.map (·.2)) := by
    intro parts
    unfold cleanStep
    split
    · exact absurd rfl (htype _)
    · exact absurd rfl hattr
    · exact absurd rfl (hopening _)
    · rfl
  rw [cleanClassNames, Node.fold_mk, hstep, Node.map_snd_walk]

/-- An opening tag refers to nothing but what its cleaned parts refer to. -/
theorem mem_ofNode_clean_opening {isSelfClosing : Bool} {s : Option Span} {ps : List Node}
    {b : Bool} {r : Reference}
    (h : r ∈ ofNode (cleanClassNames names (.mk (.opening isSelfClosing) s ps)) b) :
    ∃ p ∈ ps, r ∈ ofNode (cleanClassNames names p) b := by
  have hstep : ∀ parts, r ∈ ofNode (cleanStep names (.opening isSelfClosing) s parts) b →
      ∃ p ∈ parts, r ∈ ofNode p.2 b := by
    intro parts hr
    unfold cleanStep at hr
    split at hr
    · contradiction
    · contradiction
    · next name _ types _ seqSpan attrs _ =>
      rw [ofNode_inner rfl] at hr
      have hsub : ∀ r, r ∈ ofNode (.mk .seq seqSpan (attrs.filter isPresent)) b →
          r ∈ ofNode (.mk .seq seqSpan attrs) b := by
        intro r
        rw [ofNode_inner rfl, ofNode_inner rfl, List.mem_flatMap, List.mem_flatMap]
        rintro ⟨p, hp, hr⟩
        exact ⟨p, List.mem_of_mem_filter hp, hr⟩
      simp only [List.flatMap_cons, List.flatMap_nil, List.append_nil, List.mem_append] at hr
      rcases hr with hr | hr | hr
      · exact ⟨_, .head _, hr⟩
      · exact ⟨_, .tail _ (.head _), hr⟩
      · exact ⟨_, .tail _ (.tail _ (.head _)), hsub r hr⟩
    · rw [ofNode_inner rfl, List.flatMap_map] at hr
      exact List.mem_flatMap.mp hr
  rw [cleanClassNames, Node.fold_mk] at h
  obtain ⟨q, hq, hr⟩ := hstep _ h
  obtain ⟨p, hp, rfl⟩ := List.mem_map.mp hq
  exact ⟨p, hp, hr⟩

/-- A node of an inner form refers to nothing but what its cleaned parts refer to. -/
theorem mem_ofNode_clean_inner {f : Form} (hf : roleOf f = .inner) {s : Option Span}
    {ps : List Node} {b : Bool} {r : Reference}
    (h : r ∈ ofNode (cleanClassNames names (.mk f s ps)) b) :
    ∃ p ∈ ps, r ∈ ofNode (cleanClassNames names p) b := by
  by_cases hopening : ∃ c, f = .opening c
  · obtain ⟨c, rfl⟩ := hopening
    exact mem_ofNode_clean_opening h
  · have htype : ∀ t, f ≠ .type t := by
      rintro t rfl
      exact absurd hf (by simp [roleOf])
    have hattr : f ≠ .attr := by
      rintro rfl
      exact absurd hf (by simp [roleOf])
    rw [cleanClassNames_mk htype hattr (fun c hc => hopening ⟨c, hc⟩), ofNode_inner hf,
      List.flatMap_map] at h
    exact List.mem_flatMap.mp h

/-- A node that names something itself, or nothing at all, refers to the same as before. -/
theorem ofNode_clean_of_ne {f : Form} (hattr : roleOf f ≠ .attr) (hinner : roleOf f ≠ .inner)
    (s : Option Span) (ps : List Node) (b : Bool) :
    ofNode (cleanClassNames names (.mk f s ps)) b = ofNode (.mk f s ps) b := by
  by_cases htype : ∃ t, f = .type t
  · obtain ⟨t, rfl⟩ := htype
    rw [cleanClassNames_type]
  · rw [cleanClassNames_mk (fun t ht => htype ⟨t, ht⟩) (fun h => hattr (h ▸ rfl))
      (fun c h => hinner (h ▸ rfl)), ofNode_mk, ofNode_mk]
    cases hf : roleOf f with
    | hidden => rfl
    | read name => rfl
    | fixed name => rfl
    | attr => exact absurd hf hattr
    | inner => exact absurd hf hinner

theorem cleanClassNames_container (s : Option Span) (e : Node) :
    cleanClassNames names (.container s e) = .container s (cleanClassNames names e) := by
  rw [cleanClassNames_mk (by simp) (by simp) (by simp), List.map_singleton]

theorem cleanClassNames_word (s : Option Span) (t : String) :
    cleanClassNames names (.word s t) = .word s t := by
  rw [cleanClassNames_mk (by simp) (by simp) (by simp), List.map_nil]

theorem ofNode_container (s : Option Span) (e : Node) (b : Bool) :
    ofNode (.container s e) b = ofNode e b := by
  rw [ofNode_inner rfl, List.flatMap_singleton]

/-- The step of `mem_of_clean` at an attribute.  A `className` was counted apart, and what it
mentions is blanked out; any other attribute was counted like everything else. -/
theorem mem_of_clean_attr (hx : names.contains x = true) {s : Option Span} {ps : List Node}
    (ih : ∀ p ∈ ps,
      (⟨x, false⟩ ∈ ofNode (cleanClassNames names p) true → ⟨x, false⟩ ∈ ofNode p true) ∧
      (Names x (cleanClassNames names p) → ⟨x, false⟩ ∈ ofNode p false))
    (h : Names x (cleanClassNames names (.mk .attr s ps))) (b : Bool) :
    ⟨x, false⟩ ∈ ofNode (.mk .attr s ps) b := by
  rw [ofNode_attr, List.mem_flatMap]
  rw [cleanClassNames_attr] at h
  rcases cleanAttr_cases s (ps.map (cleanClassNames names)) with
    ⟨hkept, hmentions⟩ | ⟨ws, cs, e, hparts, hblank⟩
  · rw [hkept, names_parts (Or.inl rfl)] at h
    obtain ⟨p', hp', hnames⟩ := h
    obtain ⟨p, hp, rfl⟩ := List.mem_map.mp hp'
    refine ⟨p, hp, ?_⟩
    cases hinside : isClassNameAttr ps with
    | false => exact (ih p hp).2 hnames
    | true =>
      -- an attribute that is kept as it is mentions no removed name
      obtain ⟨ws, cs, e, rfl⟩ := isClassNameAttr_iff.mp hinside
      have hunmentioned : mentions names (cleanClassNames names e) = false :=
        hmentions ws cs _ (by simp [cleanClassNames_container, cleanClassNames_word])
      refine (ih p hp).1 (((names_iff x _ true).mp hnames).resolve_left fun hmem => ?_)
      rcases List.mem_pair.mp hp with rfl | rfl
      · simp [cleanClassNames_word, ofNode_mk, roleOf] at hmem
      · rw [cleanClassNames_container, ofNode_container] at hmem
        rw [mentions_of_mem hx hmem] at hunmentioned
        contradiction
  · have hfixed : ∀ b, ⟨x, false⟩ ∈ ofNode (.container cs e) b := by
      intro b
      rw [ofNode_container]
      exact mem_of_names_blankOut hx (hblank x h) b
    obtain ⟨p, hp, hclean⟩ : ∃ p ∈ ps, cleanClassNames names p = .container cs e := by
      rw [← List.mem_map, hparts]
      exact List.mem_cons_of_mem _ (List.mem_singleton_self _)
    refine ⟨p, hp, ?_⟩
    rw [← hclean] at hfixed
    cases isClassNameAttr ps with
    | true => exact (ih p hp).1 (hfixed true)
    | false => exact (ih p hp).2 (names_of_mem (hfixed false))

/-- **Cleaning leaves no name that only `className` attributes refer to.**  A name that a cleaned
tree refers to was referred to outside `className` attributes before.  The first half is what the
induction needs of a tree that stands inside such an attribute: there the names are only gone once
the attribute itself is cleaned. -/
theorem mem_of_clean (hx : names.contains x = true) (n : Node) :
    (⟨x, false⟩ ∈ ofNode (cleanClassNames names n) true → ⟨x, false⟩ ∈ ofNode n true) ∧
      (Names x (cleanClassNames names n) → ⟨x, false⟩ ∈ ofNode n false) := by
  -- both halves at once: below an attribute the mark `inClassName` switches from one to the other
  induction n using Node.induct with
  | mk f s ps ih =>
    cases hf : roleOf f with
    | attr =>
      obtain rfl := eq_attr_of_roleOf hf
      exact ⟨fun h => mem_of_clean_attr hx ih (names_of_mem h) true,
        fun h => mem_of_clean_attr hx ih h false⟩
    | inner =>
      constructor
      · intro h
        obtain ⟨p, hp, hmem⟩ := mem_ofNode_clean_inner hf h
        rw [ofNode_inner hf]
        exact List.mem_flatMap.mpr ⟨p, hp, (ih p hp).1 hmem⟩
      · intro h
        obtain ⟨r, hr, rfl⟩ := List.mem_map.mp h
        obtain ⟨p, hp, hmem⟩ := mem_ofNode_clean_inner hf hr
        rw [ofNode_inner hf]
        exact List.mem_flatMap.mpr ⟨p, hp, (ih p hp).2 (names_of_mem hmem)⟩
    | hidden => simp [Names, ofNode_clean_of_ne, ofNode_mk, hf]
    | read name => simp [Names, ofNode_clean_of_ne, ofNode_mk, hf]
    | fixed name => simp [Names, ofNode_clean_of_ne, ofNode_mk, hf]

end RouteMigration.Migration
