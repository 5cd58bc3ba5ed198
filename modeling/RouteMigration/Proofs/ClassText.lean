import RouteMigration.Proofs.ClassNames
import RouteMigration.Proofs.Path

/-!
# The text of a `className`

A `className` is often put together from strings, templates and references.  Given a text for each
reference, such an expression has a text, and the words of this text are the classes it gives.
Cleaning an attribute takes the references to removed names for empty texts.  It never changes the
words: an attribute that is not constant afterwards keeps its text, and one that is constant keeps
only the words of it.

## Main Definitions

* `IsClassText` — an expression made of strings, templates, `+`, parentheses and references
* `IsConstantText` — an expression made of strings, templates, `+` and parentheses alone
* `references` — the references in such an expression
* `textOf` — its text, from those of its references
* `silence` — texts of references where those to removed names stand for nothing
* `attrText` — the text that an attribute gives to its element

## Main Statements

* `Text.words_collapse` — collapsing a text keeps its words
* `constantText?_isSome_iff` — which expressions stand for a text
* `textOf_blankOut` — `blankOut` keeps the text
* `className_keeps_words` — what cleaning does to a `className`

## Design Notes

A reference is given its text as a node, so one name may stand for different texts at different
places; nothing here depends on more.  Words are those of `Text.words`, which cuts a text at every
character with the property White_Space.
-/

namespace RouteMigration

/-! ### Words -/

namespace Text

variable {cs : List Char}

/-- A word has no blank in it. -/
theorem isBlank_of_mem_words {w : List Char} (hw : w ∈ words cs) : ∀ c ∈ w, isBlank c = false :=
  not_cut_of_mem_splitAt (List.mem_filter.mp hw).1

theorem ne_nil_of_mem_words {w : List Char} (hw : w ∈ words cs) : w ≠ [] := by
  simpa using (List.mem_filter.mp hw).2

/-- Words joined by spaces are cut into these words. -/
theorem splitAt_joinWith_space {ws : List (List Char)} (hne : ws ≠ [])
    (h : ∀ w ∈ ws, ∀ c ∈ w, isBlank c = false) :
    splitAt isBlank (joinWith " " (ws.map String.ofList)).toList = ws := by
  have hplain : ∀ n ∈ ws.map String.ofList, ∀ c ∈ n.toList, isBlank c = false := by
    intro n hn
    obtain ⟨w, hw, rfl⟩ := List.mem_map.mp hn
    rw [String.toList_ofList]
    exact h w hw
  have hpieces : pieces isBlank (joinWith " " (ws.map String.ofList)) = ws.map String.ofList :=
    pieces_joinWith " " rfl rfl (by rwa [Ne, List.map_eq_nil_iff]) hplain
  exact List.map_injective_iff.mpr (fun _ _ => String.ofList_inj.mp) hpieces

/-- **Collapsing keeps the words.** -/
theorem words_collapse (s : String) : words (collapse s).toList = words s.toList := by
  by_cases hnone : words s.toList = []
  · rw [collapse, hnone]
    rfl
  · have hsplit : splitAt isBlank (collapse s).toList = words s.toList :=
      splitAt_joinWith_space hnone fun w hw => isBlank_of_mem_words hw
    rw [words, hsplit, List.filter_eq_self]
    intro w hw
    simpa using ne_nil_of_mem_words hw

theorem collapse_eq_empty_iff {s : String} : collapse s = "" ↔ words s.toList = [] := by
  rw [← words_collapse]
  constructor
  · intro hempty
    rw [hempty]
    rfl
  · intro hnone
    rw [words_collapse] at hnone
    rw [collapse, hnone]
    rfl

end Text

namespace Migration

variable {removed : NameSet} {ρ : Node → String} {e n : Node}

/-! ### Expressions -/

/-- A key that is written after a dot. -/
def IsDotKey (key : Node) : Prop :=
  ∃ s name, key = .word s name ∨ key = .mk (.privateName name) s []

/-- A name, or a member of such a reference by a key after a dot. -/
inductive IsReference : Node → Prop
  | ref (s : Option Span) (name : String) : IsReference (.ref s name)
  | member (s : Option Span) {object key : Node} (h : IsReference object) (hkey : IsDotKey key) :
    IsReference (.member s object key)

/-- A form over parts that puts their texts together. -/
inductive Joins : Form → List Node → Prop
  | template (parts : List Node) : Joins .template parts
  | plus (left right : Node) : Joins (.binary "+") [left, right]
  | paren (e : Node) : Joins .paren [e]

/-- An expression made of strings, templates, `+`, parentheses and references.  The stretches of a
template count as such expressions, too. -/
inductive IsClassText : Node → Prop
  | str (s : Option Span) (value : String) (raw : Option String) : IsClassText (.str s value raw)
  | stretch (s : Option Span) (cooked : Option String) (raw : String) :
    IsClassText (.mk (.quasi cooked raw) s [])
  | joined (s : Option Span) {f : Form} {ps : List Node} (hf : Joins f ps)
    (h : ∀ p ∈ ps, IsClassText p) : IsClassText (.mk f s ps)
  | reference {e : Node} (h : IsReference e) : IsClassText e

/-- One step of `references`. -/
def referencesStep (form : Form) (span : Option Span) (parts : List (Node × List Node)) :
    List Node :=
  match form with
  | .ref _ | .member => [.mk form span (parts.map (·.1))]
  | _ => parts.flatMap (·.2)

/-- The references in an expression, each with all its members. -/
def references : Node → List Node := Node.fold referencesStep

/-- One step of `textOf`. -/
def textStep (ρ : Node → String) (form : Form) (span : Option Span)
    (parts : List (Node × String)) : String :=
  match form with
  | .str value _ => value
  | .quasi cooked raw => cooked.getD raw
  | .ref _ | .member => ρ (.mk form span (parts.map (·.1)))
  | _ => String.join (parts.map (·.2))

/-- The text of an expression, where `ρ` gives the texts of its references.  Templates, `+` and
parentheses put the texts of their parts together. -/
def textOf (ρ : Node → String) : Node → String := Node.fold (textStep ρ)

/-- Texts of references, where those to removed names stand for nothing. -/
def silence (removed : NameSet) (ρ : Node → String) (r : Node) : String :=
  if isRooted removed r then "" else ρ r

/-- The text that an attribute gives to its element: that of its value, and none if it is absent. -/
def attrText (ρ : Node → String) : Node → String
  | .attr _ _ (.container _ e) => textOf ρ e
  | .attr _ _ (.str _ value _) => value
  | _ => ""

/-- The attributes that an opening tag keeps of some. -/
def keptAttrs (removed : NameSet) (attrs : List Node) : List Node :=
  (attrs.map (cleanClassNames removed)).filter isPresent

/-! ### References -/

theorem isRooted_member (s : Option Span) (object key : Node) :
    isRooted removed (.member s object key) = isRooted removed object := by
  simp only [isRooted, Shape.memberRoot?, Node.fold_mk]
  rfl

theorem blankOut_member (s : Option Span) (object key : Node) :
    blankOut removed (.member s object key) =
      if isRooted removed object then Build.str ""
      else .member s (blankOut removed object) (blankOut removed key) := by
  rw [← isRooted_member s object key, blankOut, Node.fold_mk]
  rfl

theorem blankOut_key {key : Node} (h : IsDotKey key) : blankOut removed key = key := by
  obtain ⟨s, name, rfl | rfl⟩ := h <;> rw [blankOut, Node.fold_mk] <;> rfl

/-- A reference is blanked out as a whole or not at all. -/
theorem blankOut_reference (h : IsReference e) :
    blankOut removed e = if isRooted removed e then Build.str "" else e := by
  induction h with
  | ref s name =>
    rw [blankOut, Node.fold_mk]
    rfl
  | @member s object key h hkey ih =>
    rw [blankOut_member, isRooted_member, ih, blankOut_key hkey]
    split <;> rfl

theorem mentions_reference (h : IsReference e) : mentions removed e = isRooted removed e := by
  induction h with
  | ref s name => rw [mentions_ref, isRooted_ref]
  | @member s object key h hkey ih =>
    have hnone : mentions removed key = false := by
      obtain ⟨s, name, rfl | rfl⟩ := hkey <;> rw [mentions_parts (Or.inr rfl)] <;> rfl
    rw [mentions_parts (Or.inr rfl), isRooted_member, ← ih]
    simp [hnone]

theorem references_reference (h : IsReference e) : references e = [e] := by
  cases h <;> rw [references, Node.fold_mk] <;> rfl

theorem textOf_reference (h : IsReference e) : textOf ρ e = ρ e := by
  cases h <;> rw [textOf, Node.fold_mk] <;> rfl

theorem cleanClassNames_reference (h : IsReference e) : cleanClassNames removed e = e := by
  induction h with
  | ref s name => rw [cleanClassNames_mk (by simp) (by simp) (by simp), List.map_nil]
  | @member s object key h hkey ih =>
    have hsame : cleanClassNames removed key = key := by
      obtain ⟨s, name, rfl | rfl⟩ := hkey <;>
        rw [cleanClassNames_mk (by simp) (by simp) (by simp), List.map_nil]
    rw [cleanClassNames_mk (by simp) (by simp) (by simp)]
    simp [ih, hsame]

/-! ### Texts of expressions -/

theorem Joins.map {f : Form} {ps : List Node} (hf : Joins f ps) (g : Node → Node) :
    Joins f (ps.map g) := by
  cases hf with
  | template ps => exact .template _
  | plus left right => exact .plus _ _
  | paren e => exact .paren _

section Joined

variable {f : Form} {ps : List Node} (hf : Joins f ps) (s : Option Span)
include hf

theorem references_joined : references (.mk f s ps) = ps.flatMap references := by
  have hstep : references (.mk f s ps) = (ps.map fun p => (p, references p)).flatMap (·.2) := by
    rw [references, Node.fold_mk]
    cases hf <;> rfl
  rw [hstep, List.flatMap_map]

theorem textOf_joined :
    textOf ρ (.mk f s ps) = String.join (ps.map (textOf ρ)) := by
  have hstep : textOf ρ (.mk f s ps) =
      String.join ((ps.map fun p => (p, textOf ρ p)).map (·.2)) := by
    rw [textOf, Node.fold_mk]
    cases hf <;> rfl
  rw [hstep, Node.map_snd_walk]

theorem blankOut_joined :
    blankOut removed (.mk f s ps) = .mk f s (ps.map (blankOut removed)) := by
  have hstep : blankOut removed (.mk f s ps) =
      .mk f s ((ps.map fun p => (p, blankOut removed p)).map (·.2)) := by
    rw [blankOut, Node.fold_mk]
    cases hf <;> rfl
  rw [hstep, Node.map_snd_walk]

theorem mentions_joined : mentions removed (.mk f s ps) = ps.any (mentions removed) :=
  mentions_parts (Or.inr (by cases hf <;> rfl)) s ps

theorem cleanClassNames_joined :
    cleanClassNames removed (.mk f s ps) = .mk f s (ps.map (cleanClassNames removed)) := by
  refine cleanClassNames_mk ?_ ?_ ?_ s ps <;> cases hf <;> simp

theorem constantText?_joined :
    constantText? (.mk f s ps) = (ps.mapM constantText?).map String.join := by
  have hstep : constantText? (.mk f s ps) =
      constantStep f s (ps.map fun p => (p, constantText? p)) := Node.fold_mk ..
  rw [hstep]
  cases hf with
  | template ps => exact congrArg (Option.map String.join) (List.mapM_map ..)
  | plus left right =>
    rw [List.mapM_cons, List.mapM_cons, List.mapM_nil]
    cases hleft : constantText? left <;> cases hright : constantText? right <;>
      simp [constantStep, hleft, hright, String.join]
  | paren e =>
    rw [List.mapM_cons, List.mapM_nil]
    cases he : constantText? e <;> simp [constantStep, he, String.join]

end Joined

theorem mapM_eq_some {α β : Type} {xs : List α} {g : α → Option β} {t : α → β}
    (h : ∀ x ∈ xs, g x = some (t x)) : xs.mapM g = some (xs.map t) := by
  induction xs with
  | nil => rfl
  | cons x xs ih =>
    rw [List.mapM_cons, h x (List.mem_cons_self ..), ih fun y hy => h y (List.mem_cons_of_mem x hy)]
    rfl

theorem mapM_eq_none {α β : Type} {xs : List α} {g : α → Option β} {x : α} (hx : x ∈ xs)
    (h : g x = none) : xs.mapM g = none := by
  induction xs with
  | nil => cases hx
  | cons y ys ih =>
    rw [List.mapM_cons]
    rcases List.mem_cons.mp hx with rfl | hx
    · rw [h]
      rfl
    · rw [ih hx]
      cases g y <;> rfl

/-- An expression made of strings, templates, `+` and parentheses.  Strings and stretches have no
parts, and none would be looked at. -/
inductive IsConstantText : Node → Prop
  | str (s : Option Span) (value : String) (raw : Option String) (ps : List Node) :
    IsConstantText (.mk (.str value raw) s ps)
  | stretch (s : Option Span) (cooked : Option String) (raw : String) (ps : List Node) :
    IsConstantText (.mk (.quasi cooked raw) s ps)
  | joined (s : Option Span) {f : Form} {ps : List Node} (hf : Joins f ps)
    (h : ∀ p ∈ ps, IsConstantText p) : IsConstantText (.mk f s ps)

/-- A constant expression stands for its text, whatever the texts of references. -/
theorem constantText?_of_constant (h : IsConstantText n) (ρ : Node → String) :
    constantText? n = some (textOf ρ n) := by
  induction h with
  | str s value raw ps | stretch s cooked raw ps =>
    rw [constantText?, textOf, Node.fold_mk, Node.fold_mk]
    rfl
  | joined s hf h ih =>
    rw [constantText?_joined hf, textOf_joined hf, mapM_eq_some ih]
    rfl

/-- Any form that is not looked into stands for no text. -/
theorem joins_of_constantText?_isSome {f : Form} {s : Option Span} {ps : List Node}
    (hstr : ∀ value raw, f ≠ .str value raw) (hquasi : ∀ cooked raw, f ≠ .quasi cooked raw)
    (h : (constantText? (.mk f s ps)).isSome = true) : Joins f ps := by
  rw [constantText?, Node.fold_mk] at h
  unfold constantStep at h
  split at h
  · exact absurd rfl (hstr _ _)
  · exact absurd rfl (hquasi _ _)
  · exact .template ps
  · next op a left b right hparts =>
    obtain ⟨p, q, rfl⟩ : ∃ p q, ps = [p, q] := by
      match ps, hparts with
      | [p, q], _ => exact ⟨p, q, rfl⟩
    split at h
    · next hop =>
      rw [hop]
      exact .plus p q
    · contradiction
  · next a e hparts =>
    obtain ⟨p, rfl⟩ : ∃ p, ps = [p] := by
      match ps, hparts with
      | [p], _ => exact ⟨p, rfl⟩
    exact .paren p
  · contradiction

/-- **Constant texts.**  Exactly the expressions made of strings, templates, `+` and parentheses
stand for a text. -/
theorem constantText?_isSome_iff : (constantText? n).isSome = true ↔ IsConstantText n := by
  constructor
  · induction n using Node.induct with
    | mk f s ps ih =>
      intro h
      by_cases hstr : ∃ value raw, f = .str value raw
      · obtain ⟨value, raw, rfl⟩ := hstr
        exact .str s value raw ps
      by_cases hquasi : ∃ cooked raw, f = .quasi cooked raw
      · obtain ⟨cooked, raw, rfl⟩ := hquasi
        exact .stretch s cooked raw ps
      have hf : Joins f ps := joins_of_constantText?_isSome
        (fun value raw hf => hstr ⟨value, raw, hf⟩)
        (fun cooked raw hf => hquasi ⟨cooked, raw, hf⟩) h
      refine .joined s hf fun p hp => ih p hp (Option.isSome_iff_ne_none.mpr fun hnone => ?_)
      rw [constantText?_joined hf, mapM_eq_none hp hnone] at h
      contradiction
  · intro h
    rw [constantText?_of_constant h fun _ => ""]
    rfl

/-- A text that an expression stands for is its text, whatever the texts of references. -/
theorem textOf_of_constantText? {text : String} (h : constantText? n = some text)
    (ρ : Node → String) : textOf ρ n = text := by
  have hconstant : IsConstantText n := constantText?_isSome_iff.mp (by rw [h]; rfl)
  exact Option.some.inj ((constantText?_of_constant hconstant ρ).symm.trans h)

/-- The text of an expression depends on the texts of its references only. -/
theorem textOf_congr (he : IsClassText e) {ρ ρ' : Node → String}
    (h : ∀ r ∈ references e, ρ r = ρ' r) : textOf ρ e = textOf ρ' e := by
  induction he with
  | str s value raw | stretch s cooked raw => rfl
  | @joined s f ps hf _ ih =>
    rw [references_joined hf] at h
    rw [textOf_joined hf, textOf_joined hf]
    exact congrArg String.join (List.map_congr_left fun p hp =>
      ih p hp fun r hr => h r (List.mem_flatMap.mpr ⟨p, hp, hr⟩))
  | @reference e he =>
    rw [textOf_reference he, textOf_reference he]
    exact h e (by simp [references_reference he])

/-- **`blankOut` takes removed names for nothing**, and keeps all other references. -/
theorem textOf_blankOut (he : IsClassText e) :
    IsClassText (blankOut removed e) ∧
      textOf ρ (blankOut removed e) = textOf (silence removed ρ) e ∧
      references (blankOut removed e) = (references e).filter (!isRooted removed ·) := by
  induction he with
  | str s value raw =>
    have hsame : blankOut removed (.str s value raw) = .str s value raw := by
      rw [blankOut, Node.fold_mk]
      rfl
    rw [hsame]
    exact ⟨.str s value raw, rfl, rfl⟩
  | stretch s cooked raw =>
    have hsame :
        blankOut removed (.mk (.quasi cooked raw) s []) = .mk (.quasi cooked raw) s [] := by
      rw [blankOut, Node.fold_mk]
      rfl
    rw [hsame]
    exact ⟨.stretch s cooked raw, rfl, rfl⟩
  | @joined s f ps hf h ih =>
    have hf' := hf.map (blankOut removed)
    rw [blankOut_joined hf, textOf_joined hf', textOf_joined hf, references_joined hf',
      references_joined hf, List.map_map, List.flatMap_map, List.filter_flatMap]
    refine ⟨.joined s hf' ?_, ?_, ?_⟩
    · intro p' hp'
      obtain ⟨p, hp, rfl⟩ := List.mem_map.mp hp'
      exact (ih p hp).1
    · exact congrArg String.join (List.map_congr_left fun p hp => (ih p hp).2.1)
    · exact List.flatMap_congr fun p hp => (ih p hp).2.2
  | @reference e h =>
    rw [blankOut_reference h, references_reference h, textOf_reference h, silence]
    split
    · next hrooted => exact ⟨.str none "" none, rfl, by simp [hrooted]; rfl⟩
    · next hrooted =>
      rw [textOf_reference h, references_reference h]
      exact ⟨.reference h, rfl, by simp [hrooted]⟩

theorem mentions_of_class (he : IsClassText e) :
    mentions removed e = (references e).any (isRooted removed) := by
  induction he with
  | str s value raw | stretch s cooked raw =>
    rw [mentions_parts (Or.inr rfl)]
    rfl
  | @joined s f ps hf h ih =>
    rw [mentions_joined hf, references_joined hf, List.any_flatMap, Bool.eq_iff_iff,
      List.any_eq_true, List.any_eq_true]
    exact exists_congr fun p => and_congr_right fun hp => by rw [ih p hp]
  | reference h =>
    rw [references_reference h, mentions_reference h]
    simp

theorem cleanClassNames_of_class (he : IsClassText e) : cleanClassNames removed e = e := by
  induction he with
  | str s value raw | stretch s cooked raw =>
    rw [cleanClassNames_mk (by simp) (by simp) (by simp), List.map_nil]
  | @joined s f ps hf h ih =>
    rw [cleanClassNames_joined hf, List.map_congr_left ih, List.map_id']
  | reference h => exact cleanClassNames_reference h

/-! ### Attributes -/

/-- An attribute that refers to none of the names stays, and any other one becomes what
`foldClassName` makes of it. -/
theorem cleanClassNames_className (removed : NameSet) (he : IsClassText e) (s ws cs : Option Span) :
    cleanClassNames removed (.attr s (.word ws "className") (.container cs e)) =
      if (references e).any (isRooted removed) then
        foldClassName s (.word ws "className") cs (blankOut removed e)
      else .attr s (.word ws "className") (.container cs e) := by
  rw [cleanClassNames_attr, List.map_cons, List.map_cons, List.map_nil, cleanClassNames_word,
    cleanClassNames_container, cleanClassNames_of_class he, ← mentions_of_class he]
  cases hmentions : mentions removed e <;> simp [cleanAttr, Shape.attrName?, hmentions]

/-- An attribute of which `foldClassName` leaves nothing but a text has the words of that text. -/
theorem foldClassName_of_constant {text : String} (hconstant : constantText? e = some text)
    (s ws cs : Option Span) :
    foldClassName s (.word ws "className") cs e =
      if Text.words text.toList = [] then .absent
      else .attr s (.word ws "className") (Build.str (Text.collapse text)) := by
  unfold foldClassName
  rw [hconstant]
  dsimp only
  simp only [Text.collapse_eq_empty_iff]

/-- Folding keeps the words of an attribute. -/
theorem words_foldClassName (e : Node) (ρ : Node → String) (s ws cs : Option Span) :
    Text.words (attrText ρ (foldClassName s (.word ws "className") cs e)).toList =
      Text.words (textOf ρ e).toList := by
  cases hconstant : constantText? e with
  | none =>
    rw [foldClassName, hconstant]
    rfl
  | some text =>
    rw [foldClassName_of_constant hconstant, textOf_of_constantText? hconstant]
    split
    · next hblank =>
      rw [hblank]
      rfl
    · exact Text.words_collapse text

/-- What an opening tag keeps of a constant `className` with some words: the words joined by single
spaces, or nothing where there are none. -/
def classOfWords (s ws : Option Span) : List (List Char) → List Node
  | [] => []
  | w :: more =>
    [.attr s (.word ws "className")
      (Build.str (Text.joinWith " " ((w :: more).map String.ofList)))]

theorem keptAttrs_append (before after : List Node) :
    keptAttrs removed (before ++ after) = keptAttrs removed before ++ keptAttrs removed after := by
  simp [keptAttrs]

/-- What is kept of an attribute that has been folded to a text. -/
theorem filter_foldClassName {text : String} (hconstant : constantText? e = some text)
    (s ws cs : Option Span) :
    [foldClassName s (.word ws "className") cs e].filter isPresent =
      classOfWords s ws (Text.words text.toList) := by
  rw [foldClassName_of_constant hconstant, Text.collapse]
  cases Text.words text.toList <;> rfl

/-- An opening tag keeps its form over cleaned parts, without the attributes that have gone. -/
theorem cleanClassNames_opening (isSelfClosing : Bool) (s q : Option Span) (name types : Node)
    (attrs : List Node) :
    cleanClassNames removed (.mk (.opening isSelfClosing) s [name, types, .mk .seq q attrs]) =
      .mk (.opening isSelfClosing) s
        [cleanClassNames removed name, cleanClassNames removed types,
          .mk .seq q (keptAttrs removed attrs)] := by
  have hseq : cleanClassNames removed (.mk .seq q attrs) =
      .mk .seq q (attrs.map (cleanClassNames removed)) :=
    cleanClassNames_mk (by simp) (by simp) (by simp) q attrs
  rw [cleanClassNames, Node.fold_mk]
  simp only [List.map_cons, List.map_nil]
  rw [← cleanClassNames, hseq]
  rfl

/-- **Cleaning a `className` keeps its words.**  Whatever texts its references have, the attribute
afterwards has the words of its text, where references to removed names stand for nothing.  An
attribute without such references stays as it is.  One that is constant once they are blanked out
holds the words joined by single spaces, and its opening tag loses it where there are none.  Here
the constant expressions are those made of strings, templates, `+` and parentheses, and they stand
for their text. -/
theorem className_keeps_words (removed : NameSet) (he : IsClassText e) (s ws cs : Option Span) :
    (∀ ρ, Text.words (attrText ρ (cleanClassNames removed
        (.attr s (.word ws "className") (.container cs e)))).toList =
      Text.words (textOf (silence removed ρ) e).toList) ∧
    ((∀ r ∈ references e, isRooted removed r = false) →
      cleanClassNames removed (.attr s (.word ws "className") (.container cs e)) =
        .attr s (.word ws "className") (.container cs e)) ∧
    ((∃ r ∈ references e, isRooted removed r = true) →
      (constantText? (blankOut removed e)).isSome = true →
      ∀ ρ isSelfClosing os name types q before after,
        cleanClassNames removed (.mk (.opening isSelfClosing) os [name, types, .mk .seq q
          (before ++ .attr s (.word ws "className") (.container cs e) :: after)]) =
        .mk (.opening isSelfClosing) os
          [cleanClassNames removed name, cleanClassNames removed types, .mk .seq q
            (keptAttrs removed before ++
              classOfWords s ws (Text.words (textOf (silence removed ρ) e).toList) ++
              keptAttrs removed after)]) ∧
    ∀ n, ((constantText? n).isSome = true ↔ IsConstantText n) ∧
      ∀ text ρ, constantText? n = some text → textOf ρ n = text := by
  have hclean := cleanClassNames_className removed he s ws cs
  refine ⟨fun ρ => ?_, fun hnone => ?_, ?_, fun n =>
    ⟨constantText?_isSome_iff, fun text ρ h => textOf_of_constantText? h ρ⟩⟩
  · rw [hclean]
    split
    · rw [words_foldClassName, (textOf_blankOut he).2.1]
    · next hnone =>
      have hkept : ∀ r ∈ references e, silence removed ρ r = ρ r := by
        intro r hr
        rw [silence, if_neg fun hrooted => hnone (List.any_eq_true.mpr ⟨r, hr, hrooted⟩)]
      rw [attrText, textOf_congr he hkept]
  · rw [hclean, if_neg]
    rw [List.any_eq_true]
    rintro ⟨r, hr, hrooted⟩
    rw [hnone r hr] at hrooted
    contradiction
  · rintro ⟨r, hr, hrooted⟩ hconstant ρ isSelfClosing os name types q before after
    obtain ⟨text, htext⟩ := Option.isSome_iff_exists.mp hconstant
    have hfolded : keptAttrs removed [.attr s (.word ws "className") (.container cs e)] =
        classOfWords s ws (Text.words text.toList) := by
      rw [keptAttrs, List.map_singleton, hclean, if_pos (List.any_eq_true.mpr ⟨r, hr, hrooted⟩),
        filter_foldClassName htext]
    rw [cleanClassNames_opening, List.append_cons, keptAttrs_append, keptAttrs_append, hfolded,
      ← (textOf_blankOut he).2.1, textOf_of_constantText? htext]

/-- `${inter.className}  flex  ` -/
def flexWithFont : Node :=
  .mk .template none
    [.mk (.quasi (some "") "") none [], .member none (.ref none "inter") (.word none "className"),
      .mk (.quasi (some "  flex  ") "  flex  ") none []]

theorem isClassText_flexWithFont : IsClassText flexWithFont := by
  refine .joined none (.template _) fun p hp => ?_
  simp only [List.mem_cons, List.not_mem_nil, or_false] at hp
  rcases hp with rfl | rfl | rfl
  · exact .stretch ..
  · exact .reference (.member none (.ref none "inter") ⟨none, "className", Or.inl rfl⟩)
  · exact .stretch ..

/-- Without the font, `flex` is the one word of the attribute, and the opening tag keeps it. -/
theorem flexWithFont_keeps_flex :
    IsClassText flexWithFont ∧
      (∀ ρ, Text.words (attrText ρ (cleanClassNames (NameSet.ofList ["inter"])
        (.attr none (.word none "className") (.container none flexWithFont)))).toList =
          ["flex".toList]) ∧
      cleanClassNames (NameSet.ofList ["inter"]) (.opening none false (Build.tag "body") .absent
        [.attr none (.word none "className") (.container none flexWithFont)]) =
      .opening none false (Build.tag "body") .absent [Build.stringAttr "className" "flex"] := by
  have htext : ∀ ρ, textOf (silence (NameSet.ofList ["inter"]) ρ) flexWithFont = "  flex  " :=
    fun _ => rfl
  have hwords : Text.words "  flex  ".toList = ["flex".toList] := by decide
  have hrooted : ∃ r ∈ references flexWithFont, isRooted (NameSet.ofList ["inter"]) r = true :=
    ⟨.member none (.ref none "inter") (.word none "className"), List.mem_singleton_self _, rfl⟩
  obtain ⟨hkeeps, -, hopening, -⟩ := className_keeps_words (NameSet.ofList ["inter"])
    isClassText_flexWithFont none none none
  refine ⟨isClassText_flexWithFont, fun ρ => ?_, ?_⟩
  · rw [hkeeps, htext, hwords]
  · have hkept :=
      hopening hrooted rfl (fun _ => "") false none (Build.tag "body") .absent none [] []
    rw [htext, hwords] at hkept
    exact hkept.trans rfl

end Migration

end RouteMigration
