import RouteMigration.Proofs.Bare
import RouteMigration.Proofs.Unchanged

/-!
# Normal elements

A tree is normal if no link and no image in it has to change.  Normalizing makes every tree normal
and leaves the normal ones as they are, and only those: in every other tree some attribute, some
child or some tag is not what it was.

## Main Statements

* `normalize_of_isNormal` — a normal tree is left as it is
* `isNormal_normalize` — what comes out is normal
* `isNormal_of_bare` — a tree that looks the same afterwards was normal
-/

namespace RouteMigration.Migration

variable {f : Form} {s : Option Span} {ps : List Node} {n a : Node}

/-! ### Attributes -/

theorem isAttr_iff {name : String} : isAttr name a = true ↔ Shape.attrName? a = some name := by
  rw [isAttr, beq_iff_eq]

theorem linkAttr_of_not (h : isAttr "href" a = false) : linkAttr a = a := by
  unfold linkAttr
  split
  · rw [if_neg]
    rintro rfl
    exact Bool.eq_false_iff.mp h (isAttr_iff.mpr rfl)
  · rfl

theorem isAttr_linkAttr (a : Node) : isAttr "href" (linkAttr a) = false := by
  rw [Bool.eq_false_iff, Ne, isAttr_iff]
  unfold linkAttr
  split
  · split
    · simp [Shape.attrName?]
    · next hne => simpa [Shape.attrName?] using hne
  · next hne =>
    intro h
    obtain ⟨_, _, _, rfl⟩ := attrName?_eq_some.mp h
    exact hne _ _ _ _ rfl

theorem imageAttr_of_not (h : isAttr "priority" a = false) : imageAttr a = a := by
  rw [imageAttr, h]
  rfl

theorem isAttr_imageAttr (a : Node) : isAttr "priority" (imageAttr a) = false := by
  cases h : isAttr "priority" a with
  | false => rw [imageAttr_of_not h, h]
  | true =>
    rw [imageAttr, if_pos h]
    decide

/-- An attribute that looks the same after a change that takes the name away did not have it. -/
theorem isAttr_of_bare {name : String} {a' : Node} (h : isAttr name a' = false)
    (hbare : bare a' = bare a) : isAttr name a = false := by
  rwa [isAttr, ← attrName?_eq_of_bare hbare]

/-! ### Elements -/

/-- A link or an image is an element with an opening tag. -/
theorem exists_of_known {c : KnownComponent} (h : KnownComponent.of? n = some c) :
    ∃ s os isSelfClosing name types attrs children closing,
      n = .element s (.opening os isSelfClosing name types attrs) children closing := by
  unfold KnownComponent.of? at h
  split at h
  · next htag =>
    obtain ⟨_, _, _, _, _, _, _, _, _, rfl⟩ := tag?_eq_some.mp htag
    exact ⟨_, _, _, _, _, _, _, _, rfl⟩
  · cases h

/-- An element keeps its name when its parts are normalized. -/
theorem tag?_map_normalize (f : Form) (s : Option Span) (ps : List Node) :
    Shape.tag? (.mk f s (ps.map normalize)) = Shape.tag? (.mk f s ps) := by
  refine tag?_map rebuilds_normalize (fun f hf => ?_) f s ps
  unfold isOfTag at hf
  split at hf
  case h_4 => cases hf
  all_goals rfl

/-- An element stands for the same after its parts are normalized. -/
theorem known_map (f : Form) (s : Option Span) (ps : List Node) :
    KnownComponent.of? (.mk f s (ps.map normalize)) = KnownComponent.of? (.mk f s ps) := by
  rw [KnownComponent.of?, KnownComponent.of?, tag?_map_normalize]

theorem isNormalElement_of_none (h : KnownComponent.of? n = none) : isNormalElement n = true := by
  unfold isNormalElement
  rw [h]

section Known

variable {os : Option Span} {isSelfClosing : Bool} {name types closing : Node}
  {attrs children : List Node}

theorem normalElement_link
    (h : KnownComponent.of? (.element s (.opening os isSelfClosing name types attrs) children
      closing) = some .link) :
    normalElement (.element s (.opening os isSelfClosing name types attrs) children closing) =
      .element s (.opening os isSelfClosing name types (attrs.map linkAttr)) children closing := by
  unfold normalElement
  rw [h]

theorem normalElement_image
    (h : KnownComponent.of? (.element s (.opening os isSelfClosing name types attrs) children
      closing) = some .image) :
    normalElement (.element s (.opening os isSelfClosing name types attrs) children closing) =
      if isSelfClosing && children.isEmpty then
        .element s (.opening os true name types (attrs.map imageAttr)) children closing
      else .element s (.opening os true name types (attrs.map imageAttr)) [] .absent := by
  unfold normalElement
  rw [h]

theorem isNormalElement_link
    (h : KnownComponent.of? (.element s (.opening os isSelfClosing name types attrs) children
      closing) = some .link) :
    isNormalElement (.element s (.opening os isSelfClosing name types attrs) children closing) =
      attrs.all (!isAttr "href" ·) := by
  unfold isNormalElement
  rw [h]

theorem isNormalElement_image
    (h : KnownComponent.of? (.element s (.opening os isSelfClosing name types attrs) children
      closing) = some .image) :
    isNormalElement (.element s (.opening os isSelfClosing name types attrs) children closing) =
      (attrs.all (!isAttr "priority" ·) && isSelfClosing && children.isEmpty) := by
  unfold isNormalElement
  rw [h]

end Known

/-- An element about which nothing has to change is left as it is. -/
theorem normalElement_of_isNormalElement (h : isNormalElement n = true) : normalElement n = n := by
  cases hknown : KnownComponent.of? n with
  | none => exact normalElement_of_none hknown
  | some c =>
    obtain ⟨s, os, isSelfClosing, name, types, attrs, children, closing, rfl⟩ :=
      exists_of_known hknown
    cases c with
    | link =>
      rw [isNormalElement_link hknown, List.all_eq_true] at h
      have hattrs : attrs.map linkAttr = attrs :=
        map_eq_self fun a ha => linkAttr_of_not (by simpa using h a ha)
      rw [normalElement_link hknown, hattrs]
    | image =>
      rw [isNormalElement_image hknown, Bool.and_eq_true, Bool.and_eq_true, List.all_eq_true] at h
      obtain ⟨⟨hattrs, rfl⟩, hchildren⟩ := h
      have hattrs : attrs.map imageAttr = attrs :=
        map_eq_self fun a ha => imageAttr_of_not (by simpa using hattrs a ha)
      rw [normalElement_image hknown, hchildren, hattrs]
      rfl

/-- An element keeps what it stands for when it is changed. -/
theorem known_normalElement (n : Node) :
    KnownComponent.of? (normalElement n) = KnownComponent.of? n := by
  cases hknown : KnownComponent.of? n with
  | none => rw [normalElement_of_none hknown, hknown]
  | some c =>
    obtain ⟨s, os, isSelfClosing, name, types, attrs, children, closing, rfl⟩ :=
      exists_of_known hknown
    rw [← hknown]
    obtain ⟨g, gs, gps⟩ := name
    cases c with
    | link =>
      rw [normalElement_link hknown]
      cases g <;> rfl
    | image =>
      rw [normalElement_image hknown]
      split <;> cases g <;> rfl

theorem form_normalElement (n : Node) : (normalElement n).form = n.form := by
  rcases normalElement_cases n with hsame | ⟨hform, hform'⟩
  · rw [hsame]
  · rw [hform, hform']

/-- Nothing more has to change about an element that was changed. -/
theorem isNormalElement_normalElement (n : Node) : isNormalElement (normalElement n) = true := by
  have hafter := known_normalElement n
  cases hknown : KnownComponent.of? n with
  | none =>
    rw [hknown] at hafter
    exact isNormalElement_of_none hafter
  | some c =>
    rw [hknown] at hafter
    obtain ⟨s, os, isSelfClosing, name, types, attrs, children, closing, rfl⟩ :=
      exists_of_known hknown
    cases c with
    | link =>
      rw [normalElement_link hknown] at hafter ⊢
      simp [isNormalElement_link hafter, isAttr_linkAttr]
    | image =>
      rw [normalElement_image hknown] at hafter ⊢
      split at hafter
      · next hempty =>
        rw [Bool.and_eq_true] at hempty
        simp [isNormalElement_image hafter, isAttr_imageAttr, hempty]
      · next hempty => simp [hempty, isNormalElement_image hafter, isAttr_imageAttr]

/-! ### Trees -/

theorem normalize_type (t : TypeForm) (s : Option Span) (ps : List Node) :
    normalize (.mk (.type t) s ps) = .mk (.type t) s ps := by
  rw [normalize, Node.fold_mk, normalizeStep, Node.map_fst_walk]

theorem normalize_mk (htype : ∀ t, f ≠ .type t) (s : Option Span) (ps : List Node) :
    normalize (.mk f s ps) = normalElement (.mk f s (ps.map normalize)) := by
  rw [normalize, Node.fold_mk]
  unfold normalizeStep
  split
  · exact absurd rfl (htype _)
  · rw [Node.map_snd_walk]

theorem normalize_seq (s : Option Span) (ps : List Node) :
    normalize (.mk .seq s ps) = .mk .seq s (ps.map normalize) := by
  rw [normalize_mk (by simp), normalElement_of_none rfl]

theorem normalize_opening (s : Option Span) (isSelfClosing : Bool) (name types : Node)
    (attrs : List Node) : normalize (.opening s isSelfClosing name types attrs) =
      .opening s isSelfClosing (normalize name) (normalize types) (attrs.map normalize) := by
  rw [normalize_mk (by simp), normalElement_of_none rfl, List.map_cons, List.map_cons,
    List.map_singleton, normalize_seq]

theorem normalize_element (s os : Option Span) (isSelfClosing : Bool) (name types closing : Node)
    (attrs children : List Node) :
    normalize (.element s (.opening os isSelfClosing name types attrs) children closing) =
      normalElement (.element s (.opening os isSelfClosing (normalize name) (normalize types)
        (attrs.map normalize)) (children.map normalize) (normalize closing)) := by
  rw [normalize_mk (by simp), List.map_cons, List.map_cons, List.map_singleton, normalize_opening,
    normalize_seq]

theorem isNormal_type (t : TypeForm) (s : Option Span) (ps : List Node) :
    isNormal (.mk (.type t) s ps) = true := by
  rw [isNormal, Node.fold_mk, isNormalStep]

theorem isNormal_mk (htype : ∀ t, f ≠ .type t) (s : Option Span) (ps : List Node) :
    isNormal (.mk f s ps) = true ↔
      isNormalElement (.mk f s ps) = true ∧ ∀ p ∈ ps, isNormal p = true := by
  have hstep : isNormal (.mk f s ps) = (isNormalElement (.mk f s ps) && ps.all isNormal) := by
    rw [isNormal, Node.fold_mk]
    unfold isNormalStep
    split
    · exact absurd rfl (htype _)
    · rw [Node.map_fst_walk, List.all_map]
      rfl
  rw [hstep, Bool.and_eq_true, List.all_eq_true]

/-- What is no element is normal if its parts are. -/
theorem isNormal_of_parts (hf : f ≠ .element) (h : ∀ p ∈ ps, isNormal p = true) :
    isNormal (.mk f s ps) = true := by
  by_cases htype : ∃ t, f = .type t
  · obtain ⟨t, rfl⟩ := htype
    exact isNormal_type t s ps
  · refine (isNormal_mk (not_exists.mp htype) s ps).mpr ⟨isNormalElement_of_none ?_, h⟩
    refine Option.eq_none_iff_forall_ne_some.mpr fun c hc => ?_
    obtain ⟨_, _, _, _, _, _, _, _, heq⟩ := exists_of_known hc
    exact hf (Node.mk.inj heq).1

/-- **Normal trees stay.** -/
theorem normalize_of_isNormal (h : isNormal n = true) : normalize n = n := by
  induction n using Node.induct with
  | mk f s ps ih =>
    by_cases htype : ∃ t, f = .type t
    · obtain ⟨t, rfl⟩ := htype
      exact normalize_type t s ps
    · have htype := not_exists.mp htype
      obtain ⟨hroot, hparts⟩ := (isNormal_mk htype s ps).mp h
      rw [normalize_mk htype, map_eq_self fun p hp => ih p hp (hparts p hp)]
      exact normalElement_of_isNormalElement hroot

theorem isNormal_linkAttr (h : isNormal a = true) : isNormal (linkAttr a) = true := by
  unfold linkAttr
  split
  · next as ws name value =>
    split
    · have hparts := ((isNormal_mk (by simp) as _).mp h).2
      refine isNormal_of_parts (by simp) ?_
      simpa [isNormal_of_parts] using hparts value (by simp)
    · exact h
  · exact h

theorem isNormal_imageAttr (h : isNormal a = true) : isNormal (imageAttr a) = true := by
  unfold imageAttr
  split
  · decide
  · exact h

/-- The parts of an element stay normal when the element is changed. -/
theorem isNormal_parts_normalElement (h : ∀ p ∈ n.parts, isNormal p = true) :
    ∀ p ∈ (normalElement n).parts, isNormal p = true := by
  cases hknown : KnownComponent.of? n with
  | none => rwa [normalElement_of_none hknown]
  | some c =>
    obtain ⟨s, os, isSelfClosing, name, types, attrs, children, closing, rfl⟩ :=
      exists_of_known hknown
    obtain ⟨hopening, hchildren, hclosing⟩ : isNormal (.opening os isSelfClosing name types attrs) =
        true ∧ isNormal (.seq children) = true ∧ isNormal closing = true := by
      simpa [Node.parts] using h
    obtain ⟨hname, htypes, hattrs⟩ : isNormal name = true ∧ isNormal types = true ∧
        isNormal (.seq attrs) = true := by
      simpa using ((isNormal_mk (by simp) _ _).mp hopening).2
    have hattrs := ((isNormal_mk (by simp) _ _).mp hattrs).2
    -- whatever the attributes become, the tag around them stays normal
    have hchanged : ∀ (b : Bool) (change : Node → Node),
        (∀ a, isNormal a = true → isNormal (change a) = true) →
        isNormal (.opening os b name types (attrs.map change)) = true := by
      intro b change hchange
      have hseq : isNormal (.seq (attrs.map change)) = true :=
        isNormal_of_parts (by simp) (List.forall_mem_map.mpr fun a ha => hchange a (hattrs a ha))
      exact isNormal_of_parts (by simp) (by simpa using ⟨hname, htypes, hseq⟩)
    cases c with
    | link =>
      rw [normalElement_link hknown]
      have hopening' := hchanged isSelfClosing linkAttr fun a => isNormal_linkAttr
      simpa [Node.parts] using ⟨hopening', hchildren, hclosing⟩
    | image =>
      have hopening' := hchanged true imageAttr fun a => isNormal_imageAttr
      rw [normalElement_image hknown]
      split
      · simpa [Node.parts] using ⟨hopening', hchildren, hclosing⟩
      · simpa [Node.parts] using ⟨hopening', by decide, by decide⟩

/-- **What comes out is normal.** -/
theorem isNormal_normalize (n : Node) : isNormal (normalize n) = true := by
  induction n using Node.induct with
  | mk f s ps ih =>
    by_cases htype : ∃ t, f = .type t
    · obtain ⟨t, rfl⟩ := htype
      rw [normalize_type, isNormal_type]
    · have htype := not_exists.mp htype
      have hparts : ∀ p ∈ ps.map normalize, isNormal p = true := List.forall_mem_map.mpr ih
      have hform := form_normalElement (.mk f s (ps.map normalize))
      have hroot := isNormalElement_normalElement (.mk f s (ps.map normalize))
      have hparts' := isNormal_parts_normalElement (n := .mk f s (ps.map normalize)) hparts
      rw [normalize_mk htype]
      generalize normalElement (.mk f s (ps.map normalize)) = m at hform hroot hparts'
      obtain ⟨g, gs, gps⟩ := m
      obtain rfl : g = f := hform
      exact (isNormal_mk htype gs gps).mpr ⟨hroot, hparts'⟩

/-- **Normalizing twice.** -/
theorem normalize_normalize (n : Node) : normalize (normalize n) = normalize n :=
  normalize_of_isNormal (isNormal_normalize n)

theorem attrName?_normalize (a : Node) : Shape.attrName? (normalize a) = Shape.attrName? a := by
  have hkeeps : Keeps (fun f => if isNormalized f then .nothing else .whole) normalize :=
    rebuilds_normalize.keeps fun f hf => if_pos hf
  exact attrName?_walk hkeeps rfl (fun _ => rfl) a

theorem isAttr_normalize (name : String) (a : Node) :
    isAttr name (normalize a) = isAttr name a := by
  rw [isAttr, isAttr, attrName?_normalize]

theorem bare_element {s s' os os' : Option Span} {b b' : Bool}
    {name name' types types' closing closing' : Node} {attrs attrs' children children' : List Node}
    (h : bare (.element s (.opening os b name types attrs) children closing) =
      bare (.element s' (.opening os' b' name' types' attrs') children' closing')) :
    b = b' ∧ attrs.map bare = attrs'.map bare ∧ children.map bare = children'.map bare := by
  simp only [bare_mk, List.map_cons, List.map_nil, Node.mk.injEq, List.cons.injEq,
    Form.opening.injEq] at h
  exact ⟨h.2.2.1.1, h.2.2.1.2.2.2.2.1.2.2, h.2.2.2.1.2.2⟩

/-- An element that looks the same after its parts and it itself were changed is one about which
nothing has to change, before and after the change of its parts. -/
theorem isNormalElement_of_bare
    (h : bare (normalElement (.mk f s (ps.map normalize))) = bare (.mk f s ps)) :
    isNormalElement (.mk f s ps) = true ∧ isNormalElement (.mk f s (ps.map normalize)) = true := by
  have hafter := known_map f s ps
  cases hknown : KnownComponent.of? (.mk f s ps) with
  | none =>
    rw [hknown] at hafter
    exact ⟨isNormalElement_of_none hknown, isNormalElement_of_none hafter⟩
  | some c =>
    rw [hknown] at hafter
    obtain ⟨_, os, isSelfClosing, name, types, attrs, children, closing, heq⟩ :=
      exists_of_known hknown
    obtain ⟨rfl, rfl, rfl⟩ := Node.mk.inj heq
    rw [List.map_cons, List.map_cons, List.map_singleton, normalize_opening, normalize_seq]
      at h hafter ⊢
    cases c with
    | link =>
      rw [normalElement_link hafter] at h
      obtain ⟨-, hattrs, -⟩ := bare_element h
      simp only [List.map_map, List.map_inj_left, Function.comp_apply] at hattrs
      have hnone : ∀ a ∈ attrs, isAttr "href" a = false := fun a ha =>
        isAttr_of_bare (isAttr_linkAttr _) (hattrs a ha)
      rw [isNormalElement_link hknown, isNormalElement_link hafter, List.all_map]
      exact ⟨List.all_eq_true.mpr fun a ha => by rw [hnone a ha]; rfl,
        List.all_eq_true.mpr fun a ha => by simp [isAttr_normalize, hnone a ha]⟩
    | image =>
      rw [normalElement_image hafter] at h
      -- had there been children, they would be gone; a tag that was not closed would be now
      obtain ⟨rfl, hattrs, rfl⟩ : true = isSelfClosing ∧
          ((attrs.map normalize).map imageAttr).map bare = attrs.map bare ∧ [] = children := by
        split at h
        · next hempty =>
          obtain ⟨hclosed, hattrs, -⟩ := bare_element h
          rw [Bool.and_eq_true, List.isEmpty_iff, List.map_eq_nil_iff] at hempty
          exact ⟨hclosed, hattrs, hempty.2.symm⟩
        · obtain ⟨hclosed, hattrs, hchildren⟩ := bare_element h
          exact ⟨hclosed, hattrs, (List.map_eq_nil_iff.mp hchildren.symm).symm⟩
      simp only [List.map_map, List.map_inj_left, Function.comp_apply] at hattrs
      have hnone : ∀ a ∈ attrs, isAttr "priority" a = false := fun a ha =>
        isAttr_of_bare (isAttr_imageAttr _) (hattrs a ha)
      rw [isNormalElement_image hknown, isNormalElement_image hafter, List.all_map]
      simpa [isAttr_normalize] using hnone

/-- **What looks the same was normal.**  A tree that normalizing leaves up to ranges is one in
which nothing has to change. -/
theorem isNormal_of_bare (h : bare (normalize n) = bare n) : isNormal n = true := by
  induction n using Node.induct with
  | mk f s ps ih =>
    by_cases htype : ∃ t, f = .type t
    · obtain ⟨t, rfl⟩ := htype
      exact isNormal_type t s ps
    · have htype := not_exists.mp htype
      rw [normalize_mk htype] at h
      obtain ⟨hroot, hroot'⟩ := isNormalElement_of_bare h
      rw [normalElement_of_isNormalElement hroot', bare_mk_inj, map_bare_map_iff] at h
      exact (isNormal_mk htype s ps).mpr ⟨hroot, fun p hp => ih p hp (h.2 p hp)⟩

end RouteMigration.Migration
