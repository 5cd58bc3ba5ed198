import Mathlib.Data.List.Flatten
import RouteMigration.Proofs.ShellCounts

/-!
# Elements of a normalized tree

Normalizing goes through a tree from the inside out, and on the way it throws away the children of
images and what an image gives as its `priority`.  The elements of the result are those that stand
outside of what is thrown away, each of them changed, and all of them in the order they had.

## Main Definitions

* `elements` — the elements of a tree outside of its types
* `keptParts`, `standing` — the parts of a node, and the elements of a tree, that are not thrown
  away
* `LinkAttr`, `ImageAttr` — what becomes of an attribute of a link or an image
* `Normalized` — what becomes of an element

## Main Statements

* `Within.mem_elements_or` — every element of a tree is one outside of types, or stands in a type
* `standing_sublist` — what stands in a tree are elements of it
* `elements_normalize` — the elements of a normalized tree
* `normalized_normalize` — what becomes of each of them
* `isNormalElement_iff` — when an element is normal, by what stands in its opening tag
* `elements_outside_types_are_normalized` — the elements of a module after its links and images
  changed

## Design Notes

`standing` walks into the kept parts of a node, and these are not always parts of the node itself:
of the opening tag of an image they are the attributes but `priority`.  So it recurs on the size of
the tree.  As for `nodes`, types are left out: a change of elements does not go into them, so a link
in the key of an object type stays as it is (`typedLink`).
-/

namespace RouteMigration.Migration

variable {f : Form} {s : Option Span} {ps : List Node} {n m a : Node} {name : String}

/-! ### Elements -/

/-- The elements of a tree that stand outside of its types, from the root down. -/
def elements (n : Node) : List Node := (nodes n).filter (·.form = .element)

/-- A node as an element of a tree, if it is one. -/
def asElement (n : Node) : List Node := if n.form = .element then [n] else []

/-- The members of a list of parts. -/
def seqItems : Node → List Node
  | .mk .seq _ items => items
  | _ => []

/-- The opening tag of an element. -/
def openingOf : Node → Node
  | .mk .element _ [opening, _, _] => opening
  | _ => .absent

/-- The closing tag of an element. -/
def closingOf : Node → Node
  | .mk .element _ [_, _, closing] => closing
  | _ => .absent

/-- The name in an opening tag. -/
def tagName : Node → Node
  | .mk (.opening _) _ [name, _, _] => name
  | _ => .absent

/-- The attributes in an opening tag. -/
def tagAttrs : Node → List Node
  | .mk (.opening _) _ [_, _, attrs] => seqItems attrs
  | _ => []

/-- The attributes of an element. -/
def attrsOf (n : Node) : List Node := tagAttrs (openingOf n)

/-- The element closes itself. -/
def isSelfClosing (n : Node) : Bool :=
  match (openingOf n).form with
  | .opening isSelfClosing => isSelfClosing
  | _ => false

theorem asElement_of_not (h : f ≠ .element) (s : Option Span) (ps : List Node) :
    asElement (.mk f s ps) = [] :=
  if_neg h

theorem elements_type (t : TypeForm) (s : Option Span) (ps : List Node) :
    elements (.mk (.type t) s ps) = [] := by
  rw [elements, nodes_type]
  rfl

/-- The elements of a tree are its root, if that is one, and those of its parts. -/
theorem elements_eq (htype : ∀ t, n.form ≠ .type t) :
    elements n = asElement n ++ n.parts.flatMap elements := by
  obtain ⟨f, s, ps⟩ := n
  have htype : ∀ t, f ≠ .type t := htype
  rw [elements, nodes_mk htype, ← List.singleton_append, List.filter_append, List.filter_flatMap]
  congr 1
  simp [asElement, List.filter_cons]

/-- What is no element has the elements of its parts. -/
theorem elements_parts (htype : ∀ t, f ≠ .type t) (hf : f ≠ .element) (s : Option Span)
    (ps : List Node) : elements (.mk f s ps) = ps.flatMap elements := by
  rw [elements_eq (n := .mk f s ps) htype, asElement_of_not hf, List.nil_append]
  rfl

theorem form_of_mem_elements (h : m ∈ elements n) : m.form = .element := by
  simpa using (List.mem_filter.mp h).2

/-- An element of a tree is among its elements, unless it stands in a type. -/
theorem Within.mem_elements_or (h : Within m n) (hm : m.form = .element) :
    m ∈ elements n ∨
      ∃ t s ps, Within (.mk (.type t) s ps) n ∧ Within m (.mk (.type t) s ps) := by
  induction h with
  | root =>
    rw [elements_eq (by simp [hm]), asElement, if_pos hm]
    exact Or.inl (List.mem_append_left _ (List.mem_singleton_self _))
  | @part f s ps p hp h ih =>
    by_cases htype : ∃ t, f = .type t
    · obtain ⟨t, rfl⟩ := htype
      exact Or.inr ⟨t, s, ps, .root, .part hp h⟩
    · rcases ih with hmem | ⟨t, ts, tps, htype', hin⟩
      · rw [elements_eq (n := .mk f s ps) (not_exists.mp htype)]
        exact Or.inl (List.mem_append_right _ (List.mem_flatMap.mpr ⟨p, hp, hmem⟩))
      · exact Or.inr ⟨t, ts, tps, .part hp htype', hin⟩

/-! ### Changed elements -/

theorem known_iff {c : KnownComponent} :
    KnownComponent.of? n = some c ↔ Shape.isElement c.name n = true := by
  rw [Shape.isElement, beq_iff_eq]
  unfold KnownComponent.of?
  cases htag : Shape.tag? n with
  | none => simp
  | some name => cases c <;> grind [KnownComponent.name]

theorem form_normalize (n : Node) : (normalize n).form = n.form := by
  obtain ⟨f, s, ps⟩ := n
  by_cases htype : ∃ t, f = .type t
  · obtain ⟨t, rfl⟩ := htype
    rw [normalize_type]
  · rw [normalize_mk (not_exists.mp htype), form_normalElement]
    rfl

theorem known_normalize (n : Node) : KnownComponent.of? (normalize n) = KnownComponent.of? n := by
  obtain ⟨f, s, ps⟩ := n
  by_cases htype : ∃ t, f = .type t
  · obtain ⟨t, rfl⟩ := htype
    rw [normalize_type]
  · rw [normalize_mk (not_exists.mp htype), known_normalElement, known_map]

/-- What is no link and no image is rebuilt from its parts. -/
theorem normalize_of_none (htype : ∀ t, f ≠ .type t) (h : KnownComponent.of? (.mk f s ps) = none) :
    normalize (.mk f s ps) = .mk f s (ps.map normalize) := by
  rw [normalize_mk htype, normalElement_of_none (by rw [known_map, h])]

section Known

variable {os : Option Span} {b : Bool} {tag types closing : Node} {attrs children : List Node}

theorem normalize_link
    (h : KnownComponent.of? (.element s (.opening os b tag types attrs) children closing) =
      some .link) :
    normalize (.element s (.opening os b tag types attrs) children closing) =
      .element s (.opening os b (normalize tag) (normalize types)
        (attrs.map (linkAttr ∘ normalize))) (children.map normalize) (normalize closing) := by
  rw [← known_normalize, normalize_element, known_normalElement] at h
  rw [normalize_element, normalElement_link h, List.map_map]

/-- No children are left of an image, and a closing tag only where an image that closes itself had
one. -/
theorem normalize_image
    (h : KnownComponent.of? (.element s (.opening os b tag types attrs) children closing) =
      some .image) :
    normalize (.element s (.opening os b tag types attrs) children closing) =
      .element s (.opening os true (normalize tag) (normalize types)
        (attrs.map (imageAttr ∘ normalize))) []
        (if b && children.isEmpty then normalize closing else .absent) := by
  rw [← known_normalize, normalize_element, known_normalElement] at h
  rw [normalize_element, normalElement_image h, List.map_map, List.isEmpty_map]
  split
  · next hempty =>
    rw [Bool.and_eq_true, List.isEmpty_iff] at hempty
    rw [hempty.2, List.map_nil]
  · rfl

end Known

/-! ### What is kept -/

/-- The parts of a node that are kept when it is normalized.  An image keeps its name and its
attributes but `priority`; it has a closing tag only if it closes itself. -/
def keptParts (n : Node) : List Node :=
  match KnownComponent.of? n, n with
  | some .image, .element _ (.opening _ isSelfClosing tag types attrs) children closing =>
    [tag, types] ++ attrs.filter (!isAttr "priority" ·) ++
      if isSelfClosing && children.isEmpty then [closing] else []
  | _, .mk (.type _) _ _ => []
  | _, n => n.parts

theorem keptParts_image {os : Option Span} {b : Bool} {tag types closing : Node}
    {attrs children : List Node}
    (h : KnownComponent.of? (.element s (.opening os b tag types attrs) children closing) =
      some .image) :
    keptParts (.element s (.opening os b tag types attrs) children closing) =
      [tag, types] ++ attrs.filter (!isAttr "priority" ·) ++
        if b && children.isEmpty then [closing] else [] := by
  unfold keptParts
  rw [h]

theorem keptParts_type (t : TypeForm) (s : Option Span) (ps : List Node) :
    keptParts (.mk (.type t) s ps) = [] :=
  rfl

/-- All parts are kept of what is no image. -/
theorem keptParts_eq (htype : ∀ t, f ≠ .type t)
    (h : KnownComponent.of? (.mk f s ps) ≠ some .image) : keptParts (.mk f s ps) = ps := by
  unfold keptParts
  split
  · next himage _ => exact absurd himage h
  · next heq => exact absurd (Node.mk.inj heq).1 (htype _)
  · rfl

theorem sizeOf_lt_of_mem_parts (h : m ∈ ps) : sizeOf m < sizeOf (Node.mk f s ps) := by
  have hlt := List.sizeOf_lt_of_mem h
  rw [Node.mk.sizeOf_spec]
  omega

theorem sizeOf_lt_of_mem_keptParts (h : m ∈ keptParts n) : sizeOf m < sizeOf n := by
  by_cases hknown : KnownComponent.of? n = some .image
  · obtain ⟨s, os, b, tag, types, attrs, children, closing, rfl⟩ := exists_of_known hknown
    have hopening : sizeOf (Node.opening os b tag types attrs) <
        sizeOf (Node.element s (.opening os b tag types attrs) children closing) :=
      sizeOf_lt_of_mem_parts (by simp)
    have hattrs : sizeOf (Node.seq attrs) < sizeOf (Node.opening os b tag types attrs) :=
      sizeOf_lt_of_mem_parts (by simp)
    rw [keptParts_image hknown, List.append_assoc, List.mem_append, List.mem_append] at h
    rcases h with hname | hattr | hclosing
    · have hlt : sizeOf m < sizeOf (Node.opening os b tag types attrs) :=
        sizeOf_lt_of_mem_parts (List.mem_append_left [_] hname)
      exact hlt.trans hopening
    · have hlt : sizeOf m < sizeOf (Node.seq attrs) :=
        sizeOf_lt_of_mem_parts (List.mem_of_mem_filter hattr)
      exact hlt.trans (hattrs.trans hopening)
    · split at hclosing
      · obtain rfl := List.mem_singleton.mp hclosing
        exact sizeOf_lt_of_mem_parts (by simp)
      · cases hclosing
  · obtain ⟨f, s, ps⟩ := n
    by_cases htype : ∃ t, f = .type t
    · obtain ⟨t, rfl⟩ := htype
      cases h
    · rw [keptParts_eq (not_exists.mp htype) hknown] at h
      exact sizeOf_lt_of_mem_parts h

/-- The elements of a tree that are kept when it is normalized, as they were, from the root down. -/
def standing (n : Node) : List Node :=
  asElement n ++ (keptParts n).attach.flatMap fun ⟨p, _⟩ => standing p
termination_by sizeOf n
decreasing_by exact sizeOf_lt_of_mem_keptParts ‹_›

theorem standing_eq (n : Node) : standing n = asElement n ++ (keptParts n).flatMap standing := by
  rw [standing, List.flatMap_subtype fun _ _ => rfl, List.unattach_attach]

theorem standing_type (t : TypeForm) (s : Option Span) (ps : List Node) :
    standing (.mk (.type t) s ps) = [] := by
  rw [standing_eq, keptParts_type, asElement_of_not (by simp)]
  rfl

/-- What is kept has elements of the parts, in the same order. -/
theorem flatMap_keptParts_sublist (htype : ∀ t, f ≠ .type t) (s : Option Span) (ps : List Node) :
    ((keptParts (.mk f s ps)).flatMap elements).Sublist (ps.flatMap elements) := by
  by_cases hknown : KnownComponent.of? (.mk f s ps) = some .image
  · obtain ⟨_, os, b, tag, types, attrs, children, closing, heq⟩ := exists_of_known hknown
    obtain ⟨rfl, rfl, rfl⟩ := Node.mk.inj heq
    have hattrs : ((attrs.filter (!isAttr "priority" ·)).flatMap elements).Sublist
        (attrs.flatMap elements) := List.filter_sublist.flatMap elements
    have hclosing : ((if b && children.isEmpty then [closing] else []).flatMap elements).Sublist
        (children.flatMap elements ++ elements closing) := by
      split
      · simp
      · exact List.nil_sublist _
    rw [keptParts_image hknown]
    simpa [elements_parts] using hattrs.append hclosing
  · rw [keptParts_eq htype hknown]

/-- What stands in a tree are elements of it, in the same order. -/
theorem standing_sublist (n : Node) : (standing n).Sublist (elements n) := by
  induction n using standing.induct with
  | case1 n ih =>
    obtain ⟨f, s, ps⟩ := n
    by_cases htype : ∃ t, f = .type t
    · obtain ⟨t, rfl⟩ := htype
      rw [standing_type, elements_type]
    · have htype := not_exists.mp htype
      rw [standing_eq, elements_eq (n := .mk f s ps) htype]
      have hkept := List.Sublist.flatMap_right _ ih
      exact (List.Sublist.refl _).append (hkept.trans (flatMap_keptParts_sublist htype s ps))

/-! ### The elements of the result -/

theorem elements_linkAttr (a : Node) : elements (linkAttr a) = elements a := by
  unfold linkAttr
  split
  · split
    · simp [elements_parts]
    · rfl
  · rfl

theorem elements_imageAttr (a : Node) :
    elements (imageAttr a) = if isAttr "priority" a then [] else elements a := by
  unfold imageAttr
  split
  · rfl
  · rfl

/-- The attributes that an image is left with have the elements of those that it keeps. -/
theorem flatMap_elements_imageAttr (attrs : List Node) :
    (attrs.map (imageAttr ∘ normalize)).flatMap elements =
      (attrs.filter (!isAttr "priority" ·)).flatMap (elements ∘ normalize) := by
  induction attrs with
  | nil => rfl
  | cons a attrs ih =>
    rw [List.map_cons, List.flatMap_cons, ih, Function.comp_apply, elements_imageAttr,
      isAttr_normalize]
    cases h : isAttr "priority" a with
    | true => simp [h]
    | false => simp [h]

theorem asElement_normalize (n : Node) : asElement (normalize n) = (asElement n).map normalize := by
  rw [asElement, asElement, form_normalize]
  split <;> rfl

/-- The parts that are left have the elements of those that are kept. -/
theorem flatMap_elements_parts (htype : ∀ t, f ≠ .type t) (s : Option Span) (ps : List Node) :
    (normalize (.mk f s ps)).parts.flatMap elements =
      (keptParts (.mk f s ps)).flatMap (elements ∘ normalize) := by
  cases hknown : KnownComponent.of? (.mk f s ps) with
  | none =>
    rw [normalize_of_none htype hknown, keptParts_eq htype (by simp [hknown]), Node.parts,
      List.flatMap_map]
    rfl
  | some c =>
    obtain ⟨_, os, b, tag, types, attrs, children, closing, heq⟩ := exists_of_known hknown
    obtain ⟨rfl, rfl, rfl⟩ := Node.mk.inj heq
    cases c with
    | link =>
      rw [normalize_link hknown, keptParts_eq htype (by simp [hknown])]
      simp [Node.parts, normalize_opening, normalize_seq, elements_parts, List.flatMap_map,
        elements_linkAttr]
    | image =>
      rw [normalize_image hknown, keptParts_image hknown]
      split
      · simp [Node.parts, elements_parts, flatMap_elements_imageAttr]
      · simp [Node.parts, elements_parts, flatMap_elements_imageAttr]

/-- **The elements of the result.**  They are those that stand in the tree, each changed. -/
theorem elements_normalize (n : Node) : elements (normalize n) = (standing n).map normalize := by
  induction n using standing.induct with
  | case1 n ih =>
    obtain ⟨f, s, ps⟩ := n
    by_cases htype : ∃ t, f = .type t
    · obtain ⟨t, rfl⟩ := htype
      rw [normalize_type, elements_type, standing_type]
      rfl
    · have htype := not_exists.mp htype
      have hkept : (keptParts (.mk f s ps)).flatMap (elements ∘ normalize) =
          (keptParts (.mk f s ps)).flatMap fun p => (standing p).map normalize :=
        List.flatMap_congr ih
      rw [elements_eq (by rwa [form_normalize]), asElement_normalize, flatMap_elements_parts htype,
        hkept, standing_eq, List.map_append, List.map_flatMap]

/-! ### What becomes of an element -/

/-- What becomes of an attribute of a link: an `href` is a `to` of the same value. -/
inductive LinkAttr : Node → Node → Prop
  | href (s ws : Option Span) (value : Node) : LinkAttr (.attr s (.word ws "href") value)
      (.attr s (.word none "to") (normalize value))
  | other (a : Node) (h : isAttr "href" a = false) : LinkAttr a (normalize a)

/-- What becomes of an attribute of an image: a `priority` is a `loading="lazy"`. -/
inductive ImageAttr : Node → Node → Prop
  | priority (a : Node) (h : isAttr "priority" a = true) :
      ImageAttr a (Build.stringAttr "loading" "lazy")
  | other (a : Node) (h : isAttr "priority" a = false) : ImageAttr a (normalize a)

/-- What becomes of an element.  Whether a closing tag is left of an image is a question only where
elements that close themselves have none, as `Source.isTagged_of_read` says of those that are
read. -/
inductive Normalized : Node → Node → Prop
  | link {m m' : Node} (hm : Shape.isElement "Link" m = true)
      (hm' : Shape.isElement "Link" m' = true)
      (hattrs : List.Forall₂ LinkAttr (attrsOf m) (attrsOf m'))
      (hhref : ∀ a ∈ attrsOf m', isAttr "href" a = false)
      (hchildren : childrenOf m' = (childrenOf m).map normalize) : Normalized m m'
  | image {m m' : Node} (hm : Shape.isElement "Image" m = true)
      (hm' : Shape.isElement "Image" m' = true)
      (hattrs : List.Forall₂ ImageAttr (attrsOf m) (attrsOf m'))
      (hpriority : ∀ a ∈ attrsOf m', isAttr "priority" a = false)
      (hclosed : isSelfClosing m' = true) (hchildren : childrenOf m' = [])
      (hclosing : hasTags m = true → (closingOf m').form = .absent) : Normalized m m'
  | other {m m' : Node} (hlink : Shape.isElement "Link" m = false)
      (himage : Shape.isElement "Image" m = false) (htag : Shape.tag? m' = Shape.tag? m)
      (hname : elements (tagName (openingOf m)) = [] →
        tagName (openingOf m') = tagName (openingOf m))
      (hattrs : attrsOf m' = (attrsOf m).map normalize)
      (hnames : (attrsOf m').map Shape.attrName? = (attrsOf m).map Shape.attrName?)
      (hchildren : childrenOf m' = (childrenOf m).map normalize) : Normalized m m'

theorem linkAttr_normalize (a : Node) : LinkAttr a (linkAttr (normalize a)) := by
  cases h : isAttr "href" a with
  | true =>
    obtain ⟨s, ws, value, rfl⟩ := attrName?_eq_some.mp (isAttr_iff.mp h)
    have hword : normalize (.word ws "href") = .word ws "href" := rebuilds_normalize.plain ws [] rfl
    rw [rebuilds_normalize.plain s _ rfl, List.map_cons, List.map_singleton, hword]
    exact .href s ws value
  | false =>
    rw [linkAttr_of_not (by rwa [isAttr_normalize])]
    exact .other a h

theorem imageAttr_normalize (a : Node) : ImageAttr a (imageAttr (normalize a)) := by
  cases h : isAttr "priority" a with
  | true =>
    rw [imageAttr, isAttr_normalize, h]
    exact .priority a h
  | false =>
    rw [imageAttr_of_not (by rwa [isAttr_normalize])]
    exact .other a h

theorem forall₂_map_self {R : Node → Node → Prop} {change : Node → Node} (h : ∀ a, R a (change a))
    (attrs : List Node) : List.Forall₂ R attrs (attrs.map change) := by
  rw [List.forall₂_map_right_iff]
  exact List.forall₂_same.mpr fun a _ => h a

/-! ### Elements without a change of their own -/

theorem seqItems_of_ne (h : n.form ≠ .seq) : seqItems n = [] := by
  unfold seqItems
  split
  · exact absurd rfl h
  · rfl

theorem seqItems_normalize (n : Node) : seqItems (normalize n) = (seqItems n).map normalize := by
  by_cases hn : n.form = .seq
  · obtain ⟨f, s, ps⟩ := n
    obtain rfl : f = .seq := hn
    rw [normalize_seq]
    rfl
  · rw [seqItems_of_ne hn, seqItems_of_ne (by rwa [form_normalize]), List.map_nil]

theorem tag_of_ne (h : ∀ b, n.form ≠ .opening b) : tagName n = .absent ∧ tagAttrs n = [] := by
  unfold tagName tagAttrs
  constructor <;> split
  · exact absurd rfl (h _)
  · rfl
  · exact absurd rfl (h _)
  · rfl

theorem tag_normalize (n : Node) : tagName (normalize n) = normalize (tagName n) ∧
    tagAttrs (normalize n) = (tagAttrs n).map normalize := by
  by_cases hn : ∃ b, n.form = .opening b
  · obtain ⟨f, s, ps⟩ := n
    obtain ⟨b, rfl⟩ : ∃ b, f = .opening b := hn
    rw [rebuilds_normalize.plain s ps rfl]
    rcases ps with _ | ⟨name, _ | ⟨types, _ | ⟨attrs, _ | ⟨_, _⟩⟩⟩⟩
    case cons.cons.cons.nil => exact ⟨rfl, seqItems_normalize attrs⟩
    all_goals exact ⟨rfl, rfl⟩
  · obtain ⟨hname, hattrs⟩ := tag_of_ne (not_exists.mp hn)
    obtain ⟨hname', hattrs'⟩ := tag_of_ne (n := normalize n) (by rwa [form_normalize, ← not_exists])
    rw [hname, hattrs, hname', hattrs']
    exact ⟨rfl, rfl⟩

theorem openingOf_map (s : Option Span) (ps : List Node) :
    openingOf (.mk .element s (ps.map normalize)) = normalize (openingOf (.mk .element s ps)) := by
  rcases ps with _ | ⟨_, _ | ⟨_, _ | ⟨_, _ | ⟨_, _⟩⟩⟩⟩ <;> rfl

theorem childrenOf_element (s : Option Span) (opening children closing : Node) :
    childrenOf (.mk .element s [opening, children, closing]) = seqItems children := by
  obtain ⟨f, cs, ps⟩ := children
  by_cases hf : f = .seq
  · obtain rfl := hf
    rfl
  · rw [seqItems_of_ne (n := .mk f cs ps) hf]
    unfold childrenOf
    split
    · next heq => cases heq
    · next heq =>
      cases heq
      exact absurd rfl hf
    · rfl

theorem childrenOf_of_length (h : ps.length ≠ 3) (s : Option Span) :
    childrenOf (.mk .element s ps) = [] := by
  unfold childrenOf
  split
  · next heq => cases heq
  · next heq =>
    cases heq
    exact absurd rfl h
  · rfl

theorem childrenOf_map (s : Option Span) (ps : List Node) :
    childrenOf (.mk .element s (ps.map normalize)) =
      (childrenOf (.mk .element s ps)).map normalize := by
  by_cases h : ps.length = 3
  · obtain ⟨opening, children, closing, rfl⟩ := List.length_eq_three.mp h
    rw [List.map_cons, List.map_cons, List.map_singleton, childrenOf_element, childrenOf_element,
      seqItems_normalize]
  · rw [childrenOf_of_length h, childrenOf_of_length (by rwa [List.length_map]), List.map_nil]

/-- What has no elements stays as it is. -/
theorem normalize_of_elements_nil (h : elements n = []) : normalize n = n := by
  refine normalize_of_isNormal ?_
  induction n using Node.induct with
  | mk f s ps ih =>
    by_cases htype : ∃ t, f = .type t
    · obtain ⟨t, rfl⟩ := htype
      exact isNormal_type t s ps
    · rw [elements_eq (n := .mk f s ps) (not_exists.mp htype), List.append_eq_nil_iff,
        List.flatMap_eq_nil_iff] at h
      have hf : f ≠ .element := by
        rintro rfl
        cases h.1
      exact isNormal_of_parts hf fun p hp => ih p hp (h.2 p hp)

/-! ### Every element -/

/-- **Every element.**  An element of a tree becomes what it should. -/
theorem normalized_normalize (hm : m.form = .element) : Normalized m (normalize m) := by
  cases hknown : KnownComponent.of? m with
  | none =>
    obtain ⟨f, s, ps⟩ := m
    obtain rfl : f = .element := hm
    have hnot : ∀ c : KnownComponent, Shape.isElement c.name (.mk .element s ps) = false := by
      intro c
      rw [Bool.eq_false_iff, Ne, ← known_iff, hknown]
      simp
    obtain ⟨hname, hattrs⟩ := tag_normalize (openingOf (.mk .element s ps))
    rw [← openingOf_map] at hname hattrs
    rw [normalize_of_none (by simp) hknown]
    refine .other (hnot .link) (hnot .image) (tag?_map_normalize _ s ps)
      (fun h => by rw [hname, normalize_of_elements_nil h]) hattrs ?_ (childrenOf_map s ps)
    rw [attrsOf, hattrs, List.map_map]
    exact List.map_congr_left fun a _ => attrName?_normalize a
  | some c =>
    have hbefore := known_iff.mp hknown
    have hafter := known_iff.mp ((known_normalize m).trans hknown)
    obtain ⟨s, os, b, tag, types, attrs, children, closing, rfl⟩ := exists_of_known hknown
    cases c with
    | link =>
      rw [normalize_link hknown] at hafter ⊢
      refine .link hbefore hafter (forall₂_map_self linkAttr_normalize attrs) ?_ rfl
      exact List.forall_mem_map.mpr fun a _ => isAttr_linkAttr _
    | image =>
      rw [normalize_image hknown] at hafter ⊢
      refine .image hbefore hafter (forall₂_map_self imageAttr_normalize attrs) ?_ rfl rfl ?_
      · exact List.forall_mem_map.mpr fun a _ => isAttr_imageAttr _
      · -- a closing tag is kept only where there was none
        intro htags
        obtain ⟨_, _, _, _, _, _, _, _, heq, hclosing⟩ := exists_of_hasTags hbefore htags
        cases heq
        rw [closingOf]
        split
        · next hempty =>
          obtain ⟨cspan, rfl⟩ := hclosing (Bool.and_eq_true_iff.mp hempty).1
          exact form_normalize _
        · rfl

/-! ### Normal elements -/

/-- An element is normal by what stands in its opening tag: a link has no `href`; an image has no
`priority` and no children, and closes itself. -/
theorem isNormalElement_iff : isNormalElement n = true ↔
    ∀ s os b name ts tps types attrs children closing,
      n = .element s (.opening os b (.mk (.tag name) ts tps) types attrs) children closing →
        (name = "Link" → ∀ a ∈ attrs, isAttr "href" a = false) ∧
          (name = "Image" →
            b = true ∧ children = [] ∧ ∀ a ∈ attrs, isAttr "priority" a = false) := by
  constructor
  · rintro h s os b name ts tps types attrs children closing rfl
    constructor
    · rintro rfl
      rw [isNormalElement_link rfl] at h
      simpa using h
    · rintro rfl
      rw [isNormalElement_image rfl, Bool.and_eq_true, Bool.and_eq_true, List.all_eq_true] at h
      obtain ⟨⟨hattrs, hclosed⟩, hchildren⟩ := h
      exact ⟨hclosed, List.isEmpty_iff.mp hchildren, fun a ha => by simpa using hattrs a ha⟩
  · intro h
    cases hknown : KnownComponent.of? n with
    | none => exact isNormalElement_of_none hknown
    | some c =>
      obtain ⟨s, os, b, ts, tps, types, attrs, children, closing, rfl⟩ :=
        isElement_iff.mp (known_iff.mp hknown)
      obtain ⟨hlink, himage⟩ := h _ _ _ _ _ _ _ _ _ _ rfl
      cases c with
      | link =>
        rw [isNormalElement_link hknown, List.all_eq_true]
        exact fun a ha => by simpa using hlink rfl a ha
      | image =>
        obtain ⟨rfl, rfl, hattrs⟩ := himage rfl
        rw [isNormalElement_image hknown]
        simpa using hattrs

/-- The elements of a normal tree are normal. -/
theorem isNormalElement_of_mem {m : Node} (h : isNormal n = true) (hm : m ∈ elements n) :
    isNormalElement m = true := by
  induction n using Node.induct with
  | mk f s ps ih =>
    by_cases htype : ∃ t, f = .type t
    · obtain ⟨t, rfl⟩ := htype
      rw [elements_type] at hm
      cases hm
    · have htype := not_exists.mp htype
      obtain ⟨hroot, hparts⟩ := (isNormal_mk htype s ps).mp h
      rw [elements_eq (n := .mk f s ps) htype, List.mem_append, List.mem_flatMap] at hm
      rcases hm with hm | ⟨p, hp, hm⟩
      · unfold asElement at hm
        split at hm
        · rwa [List.mem_singleton.mp hm]
        · cases hm
      · exact ih p hp (hparts p hp) hm

/-- A link about which nothing has to change. -/
theorem link_of_isNormalElement (h : isNormalElement n = true)
    (hn : Shape.isElement "Link" n = true) : ∀ a ∈ attrsOf n, isAttr "href" a = false := by
  obtain ⟨_, _, _, _, _, _, _, _, _, rfl⟩ := isElement_iff.mp hn
  exact (isNormalElement_iff.mp h _ _ _ _ _ _ _ _ _ _ rfl).1 rfl

/-- An image about which nothing has to change. -/
theorem image_of_isNormalElement (h : isNormalElement n = true)
    (hn : Shape.isElement "Image" n = true) : isSelfClosing n = true ∧ childrenOf n = [] ∧
      ∀ a ∈ attrsOf n, isAttr "priority" a = false := by
  obtain ⟨_, _, _, _, _, _, _, _, _, rfl⟩ := isElement_iff.mp hn
  exact (isNormalElement_iff.mp h _ _ _ _ _ _ _ _ _ _ rfl).2 rfl

/-- **Links and images.**  Outside of types, the elements of a module after its links and images
changed are, in order, those that stood outside of what images throw away, and each of them became
what it should: a link goes `to` where it had an `href`, an image closes itself, holds no children
and is loaded lazily where it had a `priority`, and every other element stays what it was.  So no
`href` is left of a link, and no `priority` and no child of an image, wherever else they stand. -/
theorem elements_outside_types_are_normalized (items : List Node) (s : State) :
    List.Forall₂ Normalized (items.flatMap standing)
        ((normalizeElements items s).items.flatMap elements) ∧
      (∀ m ∈ (normalizeElements items s).items.flatMap elements,
        Shape.isElement "Link" m = true → ∀ a ∈ attrsOf m, isAttr "href" a = false) ∧
      ∀ m ∈ (normalizeElements items s).items.flatMap elements,
        Shape.isElement "Image" m = true → isSelfClosing m = true ∧ childrenOf m = [] ∧
          ∀ a ∈ attrsOf m, isAttr "priority" a = false := by
  have heq : (normalizeElements items s).items.flatMap elements =
      (items.flatMap standing).map normalize := by
    rw [normalizeElements, List.flatMap_map, List.map_flatMap]
    exact List.flatMap_congr fun item _ => elements_normalize item
  have hstanding : ∀ m ∈ items.flatMap standing, Normalized m (normalize m) := by
    intro m hm
    obtain ⟨item, -, hm⟩ := List.mem_flatMap.mp hm
    exact normalized_normalize (form_of_mem_elements ((standing_sublist item).subset hm))
  have hnormal : ∀ m ∈ (normalizeElements items s).items.flatMap elements,
      isNormalElement m = true := by
    intro m hm
    obtain ⟨item, hitem, hm⟩ := List.mem_flatMap.mp hm
    obtain ⟨item, -, rfl⟩ := List.mem_map.mp hitem
    exact isNormalElement_of_mem (isNormal_normalize item) hm
  refine ⟨?_, fun m hm => link_of_isNormalElement (hnormal m hm),
    fun m hm => image_of_isNormalElement (hnormal m hm)⟩
  rw [heq, List.forall₂_map_right_iff]
  exact List.forall₂_same.mpr hstanding

/-- `<name key="value"/>` -/
def attributed (name key value : String) : Node :=
  .element none (.opening none true (Build.tag name) .absent [Build.stringAttr key value]) []
    .absent

/-- `type Linked = { [<Link href="/a"/>]: string };` -/
def typedLink : Node :=
  .mk (.type (.synonym false)) none [.ident none "Linked", .absent, .mk (.type .object) none
    [.mk (.type (.property false true false)) none
      [.mk .computedName none [attributed "Link" "href" "/a"],
        .mk (.type .ascription) none [.mk (.type (.keyword "string")) none []]]]]

/-- The link in the type keeps its `href`. -/
theorem typedLink_keeps_href :
    ∃ item ∈ (normalizeElements [typedLink] { options := {} }).items, ∃ m, Within m item ∧
      Shape.isElement "Link" m = true ∧ ∃ a ∈ attrsOf m, isAttr "href" a = true := by
  have hitems : (normalizeElements [typedLink] { options := {} }).items = [typedLink] := by
    rw [normalizeElements, List.map_singleton, typedLink, normalize_type]
  have hkey : Within (attributed "Link" "href" "/a")
      (.mk .computedName none [attributed "Link" "href" "/a"]) := .part (.head _) .root
  rw [hitems]
  refine ⟨typedLink, .head _, attributed "Link" "href" "/a", ?_, by decide, _, .head _, by decide⟩
  exact .part (.tail _ (.tail _ (.head _))) (.part (.head _) (.part (.head _) hkey))

end RouteMigration.Migration
