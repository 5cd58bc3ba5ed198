import RouteMigration.Proofs.LayoutParameters
import RouteMigration.Proofs.Nodes
import RouteMigration.Proofs.ShellPlaces

/-!
# What the shell of a layout adds

A layout gets an outlet for each `{children}`; the top layout also gets the contents of the head
and the scripts, once for each place.  The elements of the new body are counted here, from the body
as it was before: nothing is put in twice, and no place is missed, however the places are nested.

## Main Definitions

* `placeholderCount` — how many children are `{children}`
* `hasHeadPlace`, `hasScriptsPlace` — the elements of the top layout that get something
* `hasTags` — the tags of an element are as its form has them
* `IsFitting` — the weights of nodes with which the walk can be followed

## Main Statements

* `total_shell` — the weight of a changed body
* `mem_nodes_shell` — each element of the body is there afterwards, changed
* `scripts_of_shell` — where the scripts stand
* `layout_shell_is_exact` — all that the step does to a layout outside of its types
* `typed_children_stay` — what it does not do in a type

## Design Notes

The walk puts things in while it goes on below them, so neither the elements nor the placeholders
can be counted at one node.  Both are instances of `total_shell`, for a weight that is their number
at each node.

A `Node` may have parts that no source has.  Of the trees that are read, `hasTags` is all that is
needed: a self-closing `head` has no closing tag which its new one could replace, and the name that
the new one repeats has nothing in it.  `Source.isTagged_of_read` says that they have it, and
`Implementation.hasTags_of_find?` that the bodies of their components do.
-/

namespace RouteMigration.Migration

variable {isTop : Bool} {f : Form} {s ss : Option Span} {ps cs : List Node}
  {n m c opening closing : Node} {name : String} {w : Node → Nat}

/-- How many children in a tree are `{children}`. -/
def placeholderCount (n : Node) : Nat := ((nodes n).flatMap childrenOf).countP Shape.isPlaceholder

/-- An `html` element with room for the contents of the head: it has a `head` or a `body`. -/
def hasHeadPlace (n : Node) : Bool :=
  Shape.isElement "html" n &&
    (childrenOf n).any fun c => Shape.isElement "head" c || Shape.isElement "body" c

/-- A `body` element with room for the scripts: a child of it shows the route. -/
def hasScriptsPlace (n : Node) : Bool :=
  Shape.isElement "body" n && (childrenOf n).any showsRoute

/-- The tags of an element are as its form has them: its name has no parts, and a self-closing one
has no closing tag. -/
def hasTags : Node → Bool
  | .element _ (.opening _ isSelfClosing (.mk (.tag _) _ ps) _ _) _ closing =>
    ps.isEmpty && (!isSelfClosing || (closing.form == .absent && closing.parts.isEmpty))
  | _ => true

/-! ### The counts of a body -/

namespace ShellCount

theorem own_eq (n : Node) : own n = ⟨(childrenOf n).countP Shape.isPlaceholder,
    if hasHeadPlace n then 1 else 0, if hasScriptsPlace n then 1 else 0⟩ := by
  unfold own
  split
  · rfl
  · rfl
  · next hfragment helement =>
    have hnone : childrenOf n = [] := by
      unfold childrenOf
      split
      · exact absurd rfl (hfragment _ _)
      · exact absurd rfl (helement _ _ _ _ _)
      · rfl
    simp [hasHeadPlace, hasScriptsPlace, hnone]

theorem foldl_add (counts : List ShellCount) (a : ShellCount) :
    counts.foldl add a = ⟨a.outlets + (counts.map (·.outlets)).sum,
      a.heads + (counts.map (·.heads)).sum, a.scripts + (counts.map (·.scripts)).sum⟩ := by
  induction counts generalizing a with
  | nil => rfl
  | cons b counts ih => simp [ih, add, Nat.add_assoc]

/-- The counts of a body are those of its nodes, together. -/
theorem of_eq_total (n : Node) : of n = ⟨total (own · |>.outlets) n, total (own · |>.heads) n,
    total (own · |>.scripts) n⟩ := by
  induction n using Node.induct with
  | mk f s ps ih =>
    by_cases htype : ∃ t, f = .type t
    · obtain ⟨t, rfl⟩ := htype
      simp only [of_type, total_type]
    · have htype : ∀ t, f ≠ .type t := fun t ht => htype ⟨t, ht⟩
      have hstep : of (.mk f s ps) = (ps.map of).foldl add (own (.mk f s ps)) := by
        rw [of, Node.fold_mk]
        unfold step
        split
        · exact absurd rfl (htype _)
        · rw [Node.map_fst_walk, Node.map_snd_walk]
      rw [hstep, List.map_congr_left ih, foldl_add, total_mk htype, total_mk htype, total_mk htype]
      simp only [List.map_map]
      rfl

/-- How many places of each sort a body has. -/
theorem of_eq (n : Node) : of n =
    ⟨placeholderCount n, (nodes n).countP hasHeadPlace, (nodes n).countP hasScriptsPlace⟩ := by
  rw [of_eq_total, placeholderCount, List.countP_flatMap, countP_eq_total, countP_eq_total]
  simp only [own_eq]
  rfl

end ShellCount

/-! ### Changed children -/

/-- A child of an element or fragment, changed. -/
def changedChild (isTop : Bool) (c : Node) : Node := outletChild (shell isTop c)

theorem isPlaceholder_changedChild (isTop : Bool) (c : Node) :
    Shape.isPlaceholder (changedChild isTop c) = false := by
  rw [changedChild, outletChild]
  split
  · rfl
  · next hc => simpa using hc

theorem isElement_changedChild (hname : name ≠ "Outlet") (isTop : Bool) (c : Node) :
    Shape.isElement name (changedChild isTop c) = Shape.isElement name c := by
  rw [changedChild, isElement_outletChild hname, isElement_shell]

theorem showsRoute_changedChild (isTop : Bool) (c : Node) :
    showsRoute (changedChild isTop c) = showsRoute c := by
  rw [changedChild, showsRoute_outletChild, showsRoute_shell]

/-- A child that is an element is changed by the walk alone. -/
theorem changedChild_of_isElement (isTop : Bool) (hname : Shape.isElement name c = true) :
    changedChild isTop c = shell isTop c := by
  have hplace := not_isPlaceholder_of_isElement hname
  rw [changedChild, outletChild_of_not (by rw [isPlaceholder_shell, hplace])]

/-- An element over its changed parts, before anything is put into it. -/
def overChanged (isTop : Bool) (s : Option Span) (opening : Node) (ss : Option Span)
    (cs : List Node) (closing : Node) : Node :=
  .mk .element s [shell isTop opening, .mk .seq ss (cs.map (changedChild isTop)),
    shell isTop closing]

theorem shell_element_eq (isTop : Bool) (s : Option Span) (opening : Node) (ss : Option Span)
    (cs : List Node) (closing : Node) :
    shell isTop (.mk .element s [opening, .mk .seq ss cs, closing]) =
      .mk .element s [shell isTop opening, .mk .seq ss (fitChildren isTop
        (overChanged isTop s opening ss cs closing) (cs.map (changedChild isTop))),
        shell isTop closing] :=
  shell_element isTop s opening ss cs _ closing (List.map_map ..).symm

theorem shell_fragment_eq (isTop : Bool) (s : Option Span) (ps : List Node) :
    shell isTop (.mk .fragment s ps) = .mk .fragment s (ps.map (changedChild isTop)) := by
  rw [shell_fragment, List.map_map]
  rfl

theorem childrenOf_overChanged :
    childrenOf (overChanged isTop s opening ss cs closing) = cs.map (changedChild isTop) :=
  rfl

theorem hasHeadPlace_overChanged (isTop : Bool) :
    hasHeadPlace (overChanged isTop s opening ss cs closing) =
      hasHeadPlace (.mk .element s [opening, .mk .seq ss cs, closing]) := by
  have hchild : ∀ c, (Shape.isElement "head" (changedChild isTop c) ||
      Shape.isElement "body" (changedChild isTop c)) =
        (Shape.isElement "head" c || Shape.isElement "body" c) := fun c => by
    rw [isElement_changedChild (by decide), isElement_changedChild (by decide)]
  rw [hasHeadPlace, hasHeadPlace, overChanged, isElement_rebuilt _ isTop s opening ss cs]
  simp only [childrenOf, List.any_map, Function.comp_def, hchild]

theorem hasScriptsPlace_overChanged (isTop : Bool) :
    hasScriptsPlace (overChanged isTop s opening ss cs closing) =
      hasScriptsPlace (.mk .element s [opening, .mk .seq ss cs, closing]) := by
  rw [hasScriptsPlace, hasScriptsPlace, overChanged, isElement_rebuilt _ isTop s opening ss cs]
  simp only [childrenOf, List.any_map, Function.comp_def, showsRoute_changedChild]

/-- What the tags of a head are made of. -/
theorem exists_of_hasTags (hname : Shape.isElement name n = true) (htags : hasTags n = true) :
    ∃ s os isSelfClosing ts types attrs cs closing,
      n = .element s (.opening os isSelfClosing (.mk (.tag name) ts []) types attrs) cs closing ∧
      (isSelfClosing = true → ∃ cspan, closing = .mk .absent cspan []) := by
  obtain ⟨s, os, isSelfClosing, ts, tps, types, attrs, cs, ⟨f, cspan, cps⟩, rfl⟩ :=
    isElement_iff.mp hname
  simp only [hasTags, Node.form, Node.parts, Bool.and_eq_true, Bool.or_eq_true, List.isEmpty_iff,
    beq_iff_eq] at htags
  obtain ⟨rfl, hclosing⟩ := htags
  refine ⟨s, os, isSelfClosing, ts, types, attrs, cs, _, rfl, ?_⟩
  rintro rfl
  obtain ⟨rfl, rfl⟩ := hclosing.resolve_left (by simp)
  exact ⟨cspan, rfl⟩

theorem hasTags_shell (isTop : Bool) (hname : Shape.isElement name n = true)
    (htags : hasTags n = true) : hasTags (shell isTop n) = true := by
  obtain ⟨s, os, isSelfClosing, ts, types, attrs, cs, closing, rfl, hclosing⟩ :=
    exists_of_hasTags hname htags
  have htag : shell isTop (.mk (.tag name) ts []) = .mk (.tag name) ts [] :=
    (rebuilds_shell isTop).plain ts [] rfl
  rw [shell_element_eq, shell_opening, htag]
  cases isSelfClosing with
  | false => rfl
  | true =>
    obtain ⟨cspan, rfl⟩ := hclosing rfl
    rw [(rebuilds_shell isTop).plain cspan [] (f := .absent) rfl]
    rfl

/-- The heads among the changed children of an element have their tags. -/
theorem hasTags_changed (isTop : Bool) (htags : ∀ c ∈ cs, ∀ m ∈ nodes c, hasTags m = true) :
    ∀ c ∈ cs.map (changedChild isTop), Shape.isElement "head" c = true → hasTags c = true := by
  intro c' hc' hhead
  obtain ⟨c, hc, rfl⟩ := List.mem_map.mp hc'
  rw [isElement_changedChild (by decide)] at hhead
  rw [changedChild_of_isElement isTop hhead]
  exact hasTags_shell isTop hhead (htags c hc c (mem_nodes_self hhead))

/-! ### Weights -/

/-- A weight of elements and fragments, which a new head does not have and a head does not get with
its contents. -/
structure IsFitting (w : Node → Nat) : Prop where
  other : ∀ f s ps, f ≠ .element → f ≠ .fragment → w (.mk f s ps) = 0
  filled : ∀ head, Shape.isElement "head" head = true → w (fillHead head) = w head
  made : w headElement = 0

namespace IsFitting

variable (hw : IsFitting w)
include hw

theorem total_placeholder (hn : Shape.isPlaceholder n = true) : total w n = 0 := by
  obtain ⟨s, rs, rfl⟩ := isPlaceholder_iff.mp hn
  simp [total_mk, hw.other]

theorem total_text (raw : String) : total w (Build.text raw) = 0 := by
  simp [Build.text, total_mk, hw.other]

theorem total_headElement :
    total w headElement = total w RouterSymbol.headContent.element := by
  have hmade := hw.made
  dsimp only [headElement, Build.element, Build.tag, Node.element, Node.opening, Node.seq,
    Node.absent] at hmade ⊢
  rw [total_mk (by simp), hmade]
  simp [total_mk (f := .seq), total_mk (f := .opening false), total_mk (f := .closing),
    total_mk (f := .tag "head"), total_mk (f := .absent), hw.other]

/-- An outlet has taken the place of each `{children}`. -/
theorem sum_changedChild (isTop : Bool) (cs : List Node) :
    ((cs.map (changedChild isTop)).map (total w)).sum =
      (cs.map fun c => total w (shell isTop c)).sum +
        cs.countP Shape.isPlaceholder * total w RouterSymbol.outlet.element := by
  induction cs with
  | nil => simp
  | cons c cs ih =>
    simp only [List.map_cons, List.sum_cons, ih, List.countP_cons]
    have hshell := isPlaceholder_shell isTop c
    cases hc : Shape.isPlaceholder c with
    | true =>
      rw [hc] at hshell
      rw [changedChild, outletChild, hshell, if_pos rfl, hw.total_placeholder hshell, if_pos rfl,
        Nat.add_mul]
      omega
    | false =>
      rw [changedChild, outletChild_of_not (hshell.trans hc), if_neg (by simp), Nat.add_zero]
      omega

/-- A head with its contents has the weight of the contents besides its own. -/
theorem total_fillHead (hhead : Shape.isElement "head" n = true) (htags : hasTags n = true) :
    total w (fillHead n) = total w n + total w RouterSymbol.headContent.element := by
  have hfilled := hw.filled n hhead
  obtain ⟨s, os, isSelfClosing, ts, types, attrs, cs, closing, rfl, hclosing⟩ :=
    exists_of_hasTags hhead htags
  have hkept :
      total w (if isSelfClosing then .mk .closing os [.mk (.tag "head") ts []] else closing) =
      total w closing := by
    cases isSelfClosing with
    | false => rfl
    | true =>
      obtain ⟨cspan, rfl⟩ := hclosing rfl
      simp [total_mk, hw.other]
  dsimp only [fillHead, Node.element, Node.opening, Node.seq] at hfilled ⊢
  rw [total_mk (by simp), total_mk (by simp), hfilled]
  simp only [List.map_cons, List.map_nil, List.sum_cons, List.sum_nil, hkept]
  simp only [total_mk, ne_eq, reduceCtorEq, not_false_eq_true, implies_true, hw.other,
    List.map_cons, List.sum_cons]
  omega

/-- What is put among the children of an element of the top layout. -/
theorem sum_addShell (element : Node) (hcs : childrenOf element = cs)
    (htags : ∀ c ∈ cs, Shape.isElement "head" c = true → hasTags c = true) :
    ((addShell element cs).map (total w)).sum = (cs.map (total w)).sum +
      ((if hasHeadPlace element then 1 else 0) * total w RouterSymbol.headContent.element +
        (if hasScriptsPlace element then 1 else 0) * total w RouterSymbol.scripts.element) := by
  rw [hasHeadPlace, hasScriptsPlace, hcs]
  have hadds := adds_addShell element cs
  generalize addShell element cs = cs' at hadds ⊢
  cases hadds with
  | nothing hroomless =>
    have hhead : (Shape.isElement "html" element &&
        cs.any fun c => Shape.isElement "head" c || Shape.isElement "body" c) = false := by
      simpa using hroomless.html
    have hscripts : (Shape.isElement "body" element && cs.any showsRoute) = false := by
      simpa using hroomless.body
    simp [hhead, hscripts]
  | contents helement hcs hhead =>
    have hbody := isElement_eq_false (show "html" ≠ "body" by decide) helement
    have hfilled := hw.total_fillHead hhead (htags _ (by simp [hcs]) hhead)
    simp [hcs, helement, hbody, hhead, hfilled]
    omega
  | head helement hcs hbody =>
    have hscripts := isElement_eq_false (show "html" ≠ "body" by decide) helement
    simp [hcs, helement, hscripts, hbody, hw.total_text, hw.total_headElement]
    omega
  | scripts helement hcs hlast hafter =>
    have hhead := isElement_eq_false (show "body" ≠ "html" by decide) helement
    simp [hcs, helement, hhead, hlast, hw.total_text]
    omega

end IsFitting

/-! ### The weight of a body -/

/-- What the places of a node itself add to the weight of a body. -/
def growth (w : Node → Nat) (isTop : Bool) (n : Node) : Nat :=
  (ShellCount.own n).outlets * total w RouterSymbol.outlet.element +
    if isTop then (ShellCount.own n).heads * total w RouterSymbol.headContent.element +
      (ShellCount.own n).scripts * total w RouterSymbol.scripts.element
    else 0

/-- The children that an element gets have the weights of the changed ones, and of what was put at
its places. -/
theorem sum_fitChildren (hw : IsFitting w)
    (htags : ∀ c ∈ cs, ∀ m ∈ nodes c, hasTags m = true) :
    ((fitChildren isTop (overChanged isTop s opening ss cs closing)
      (cs.map (changedChild isTop))).map (total w)).sum =
      (cs.map fun c => total w (shell isTop c)).sum +
        growth w isTop (.mk .element s [opening, .mk .seq ss cs, closing]) := by
  have hsum := hw.sum_changedChild isTop cs
  rw [fitChildren, growth, ShellCount.own_eq]
  cases isTop with
  | false => exact hsum
  | true =>
    rw [if_pos rfl, if_pos rfl,
      hw.sum_addShell _ childrenOf_overChanged (hasTags_changed true htags), hsum,
      hasHeadPlace_overChanged, hasScriptsPlace_overChanged, Nat.add_assoc]
    rfl

theorem growth_fragment (isTop : Bool) (s : Option Span) (ps : List Node) :
    growth w isTop (.mk .fragment s ps) =
      ps.countP Shape.isPlaceholder * total w RouterSymbol.outlet.element := by
  simp [growth, ShellCount.own]

/-- **What the walk adds.**  The weight of a changed body is that of its changed nodes, and that of
what was put at its places. -/
theorem total_shell_nodes (hw : IsFitting w) (htags : ∀ m ∈ nodes n, hasTags m = true) :
    total w (shell isTop n) = total (fun m => w (shell isTop m) + growth w isTop m) n := by
  induction n using Node.induct with
  | mk f s ps ih =>
    have hsum (htype : ∀ t, f ≠ .type t) : (ps.map fun p => total w (shell isTop p)).sum =
        (ps.map (total fun m => w (shell isTop m) + growth w isTop m)).sum :=
      congrArg List.sum (List.map_congr_left fun p hp =>
        ih p hp (forall_nodes_part htype htags p hp))
    cases shell_cases isTop f s ps with
    | type t ps => rw [shell_type, total_type, total_type]
    | fragment ps =>
      rw [total_mk (by simp), ← hsum (by simp), growth_fragment, shell_fragment_eq,
        total_mk (by simp), hw.sum_changedChild]
      omega
    | element opening ss cs closing =>
      have hchildren := forall_nodes_part (by simp)
        (forall_nodes_part (by simp) htags (.mk .seq ss cs) (by simp))
      rw [total_mk (by simp), ← hsum (by simp), shell_element_eq, total_mk (by simp)]
      simp only [List.map_cons, List.map_nil, List.sum_cons, List.sum_nil, shell_seq]
      rw [total_mk (by simp), total_mk (by simp), sum_fitChildren hw hchildren,
        hw.other .seq _ _ (by simp) (by simp), hw.other .seq _ _ (by simp) (by simp)]
      simp only [List.map_map, Function.comp_def]
      omega
    | plain f ps htype hshell hown =>
      rw [total_mk htype, ← hsum htype, hshell, total_mk htype, growth, hown]
      simp [Function.comp_def]

/-- The weight of a changed body, from the counts of its places. -/
theorem total_shell (hw : IsFitting w) (htags : ∀ m ∈ nodes n, hasTags m = true) :
    total w (shell isTop n) = total (fun m => w (shell isTop m)) n +
      ((ShellCount.of n).outlets * total w RouterSymbol.outlet.element +
        if isTop then (ShellCount.of n).heads * total w RouterSymbol.headContent.element +
          (ShellCount.of n).scripts * total w RouterSymbol.scripts.element
        else 0) := by
  rw [total_shell_nodes hw htags, total_add, ShellCount.of_eq_total]
  congr 1
  show total (fun m => growth w isTop m) n = _
  unfold growth
  rw [total_add, total_mul]
  cases isTop with
  | false => simp only [Bool.false_eq_true, if_false, total_zero]
  | true => simp only [if_true, total_add, total_mul]

/-! ### Elements -/

theorem isFitting_isElement (hname : name ≠ "head") :
    IsFitting fun m => if Shape.isElement name m then 1 else 0 where
  other f s ps hf hf' := by
    have hnone : Shape.isElement name (.mk f s ps) = false := by
      by_contra hname
      obtain ⟨_, _, _, _, _, _, _, _, _, heq⟩ := isElement_iff.mp (by simpa using hname)
      exact hf (Node.mk.inj heq).1
    simp [hnone]
  filled head hhead := by
    obtain ⟨s, os, b, ts, tps, types, attrs, cs, closing, rfl⟩ := isElement_iff.mp hhead
    rfl
  made := by
    have hnone : Shape.isElement name headElement = false := isElement_eq_false hname.symm rfl
    simp [hnone]

theorem elementCount_symbol (name : String) (symbol : RouterSymbol) :
    elementCount name symbol.element = if symbol.name = name then 1 else 0 := by
  simp [elementCount, nodes_mk, RouterSymbol.element, Build.emptyElement, Build.tag,
    List.countP_cons, Shape.isElement, Shape.tag?]

/-- **Elements of a changed body.**  Of any name but that of a head, there are those from before,
and those put at places. -/
theorem elementCount_shell (hname : name ≠ "head") (htags : ∀ m ∈ nodes n, hasTags m = true) :
    elementCount name (shell isTop n) = elementCount name n +
      ((ShellCount.of n).outlets * elementCount name RouterSymbol.outlet.element +
        if isTop then (ShellCount.of n).heads * elementCount name RouterSymbol.headContent.element +
          (ShellCount.of n).scripts * elementCount name RouterSymbol.scripts.element
        else 0) := by
  simp only [elementCount, countP_eq_total]
  rw [total_shell (isFitting_isElement hname) htags]
  simp only [isElement_shell]

theorem mem_nodes_changedChild (hname : Shape.isElement name m = true)
    (hm : m ∈ nodes (shell isTop c)) : m ∈ nodes (changedChild isTop c) := by
  cases hc : Shape.isPlaceholder (shell isTop c) with
  | false => rwa [changedChild, outletChild_of_not hc]
  | true =>
    obtain ⟨s, rs, hshell⟩ := isPlaceholder_iff.mp hc
    rw [hshell] at hm
    simp [mem_nodes_parts hname] at hm

theorem mem_nodes_fillHead (hhead : Shape.isElement "head" c = true) (htags : hasTags c = true)
    (hname : Shape.isElement name m = true) (hne : name ≠ "head") (hm : m ∈ nodes c) :
    m ∈ nodes (fillHead c) := by
  have hroot : m ≠ c := by
    rintro rfl
    rw [isElement_eq_false hne.symm hhead] at hname
    cases hname
  obtain ⟨s, os, isSelfClosing, ts, types, attrs, cs, closing, rfl, hclosed⟩ :=
    exists_of_hasTags hhead htags
  rw [mem_nodes_mk (by simp), or_iff_right hroot] at hm
  simp only [fillHead]
  refine (mem_nodes_mk (by simp)).mpr (Or.inr ?_)
  simp only [List.mem_cons, List.not_mem_nil, or_false, exists_eq_or_imp, exists_eq_left] at hm ⊢
  refine hm.imp (fun hopening => ?_) (Or.imp (fun hchildren => ?_) fun hclosing => ?_)
  · rw [mem_nodes_parts hname (by simp) (by simp)] at hopening ⊢
    exact hopening
  · rw [mem_nodes_parts hname (by simp) (by simp)] at hchildren ⊢
    obtain ⟨c, hc, hm⟩ := hchildren
    exact ⟨c, List.mem_cons_of_mem _ hc, hm⟩
  · cases isSelfClosing with
    | false => exact hclosing
    | true =>
      obtain ⟨cspan, rfl⟩ := hclosed rfl
      simp [mem_nodes_parts hname] at hclosing

theorem mem_nodes_addShell (element : Node) (hne : name ≠ "head")
    (hname : Shape.isElement name m = true)
    (htags : ∀ c ∈ cs, Shape.isElement "head" c = true → hasTags c = true) (hc : c ∈ cs)
    (hm : m ∈ nodes c) : ∃ c ∈ addShell element cs, m ∈ nodes c := by
  have hadds := adds_addShell element cs
  generalize addShell element cs = cs' at hadds ⊢
  cases hadds with
  | nothing => exact ⟨c, hc, hm⟩
  | @contents before after head helement hcs hhead =>
    rw [hcs, List.mem_append, List.mem_cons] at hc
    rcases hc with hc | rfl | hc
    · exact ⟨c, by simp [hc], hm⟩
    · exact ⟨fillHead c, by simp,
        mem_nodes_fillHead hhead (htags c (by simp [hcs]) hhead) hname hne hm⟩
    · exact ⟨c, by simp [hc], hm⟩
  | head helement hcs hbody =>
    refine ⟨c, ?_, hm⟩
    rw [hcs] at hc
    simp only [List.mem_append, List.mem_cons] at hc ⊢
    tauto
  | scripts helement hcs hlast hafter =>
    refine ⟨c, ?_, hm⟩
    rw [hcs] at hc
    simp only [List.mem_append, List.mem_cons] at hc ⊢
    tauto

/-- **Elements stay.**  Each element of a body but a head is there afterwards, changed. -/
theorem mem_nodes_shell (hne : name ≠ "head") (hname : Shape.isElement name m = true)
    (htags : ∀ m ∈ nodes n, hasTags m = true) (hm : m ∈ nodes n) :
    shell isTop m ∈ nodes (shell isTop n) := by
  have hnew : Shape.isElement name (shell isTop m) = true := by rw [isElement_shell, hname]
  induction n using Node.induct with
  | mk f s ps ih =>
    by_cases hroot : m = .mk f s ps
    · rw [← hroot]
      exact mem_nodes_self hnew
    have hpart (htype : ∀ t, f ≠ .type t) : ∃ p ∈ ps, shell isTop m ∈ nodes (shell isTop p) := by
      obtain ⟨p, hp, hm⟩ := ((mem_nodes_mk htype).mp hm).resolve_left hroot
      exact ⟨p, hp, ih p hp (forall_nodes_part htype htags p hp) hm⟩
    cases shell_cases isTop f s ps with
    | type t ps =>
      rw [nodes_type] at hm
      cases hm
    | fragment ps =>
      obtain ⟨p, hp, hthere⟩ := hpart (by simp)
      rw [shell_fragment_eq, mem_nodes_mk (by simp)]
      exact Or.inr ⟨_, List.mem_map_of_mem hp, mem_nodes_changedChild hnew hthere⟩
    | element opening ss cs closing =>
      obtain ⟨p, hp, hthere⟩ := hpart (by simp)
      rw [shell_element_eq, mem_nodes_mk (by simp)]
      right
      simp only [List.mem_cons, List.not_mem_nil, or_false, exists_eq_or_imp, exists_eq_left]
        at hp ⊢
      rcases hp with rfl | rfl | rfl
      · exact Or.inl hthere
      · rw [shell_seq, mem_nodes_parts hnew (by simp) (by simp)] at hthere
        obtain ⟨c', hc', hthere⟩ := hthere
        obtain ⟨c, hc, rfl⟩ := List.mem_map.mp hc'
        have hchild := List.mem_map_of_mem (f := changedChild isTop) hc
        have hheads := hasTags_changed isTop (forall_nodes_part (by simp)
          (forall_nodes_part (by simp) htags (.mk .seq ss cs) (by simp)))
        rw [mem_nodes_parts hnew (by simp) (by simp), fitChildren]
        refine Or.inr (Or.inl ?_)
        split
        · exact mem_nodes_addShell _ hne hnew hheads hchild (mem_nodes_changedChild hnew hthere)
        · exact ⟨_, hchild, mem_nodes_changedChild hnew hthere⟩
      · exact Or.inr (Or.inr hthere)
    | plain f ps htype hshell hown =>
      obtain ⟨p, hp, hthere⟩ := hpart htype
      rw [hshell, mem_nodes_mk htype]
      exact Or.inr ⟨_, List.mem_map_of_mem hp, hthere⟩

/-! ### Placeholders -/

theorem isFitting_placeholders :
    IsFitting fun m => (childrenOf m).countP Shape.isPlaceholder where
  other f s ps hf hf' := by
    have hnone : childrenOf (.mk f s ps) = [] := by
      unfold childrenOf
      split
      · next heq => exact absurd (Node.mk.inj heq).1 hf'
      · next heq => exact absurd (Node.mk.inj heq).1 hf
      · rfl
    rw [hnone]
    rfl
  filled head hhead := by
    obtain ⟨s, os, b, ts, tps, types, attrs, cs, closing, rfl⟩ := isElement_iff.mp hhead
    exact List.countP_cons_of_neg (by decide)
  made := by decide

/-- What is put among the children of an element is no placeholder. -/
theorem not_isPlaceholder_addShell (element : Node)
    (hcs : ∀ c ∈ cs, Shape.isPlaceholder c = false) :
    ∀ c ∈ addShell element cs, Shape.isPlaceholder c = false := by
  have htext : Shape.isPlaceholder (Build.text "\n") = false := rfl
  have hhead : Shape.isPlaceholder headElement = false := rfl
  have hscripts : Shape.isPlaceholder RouterSymbol.scripts.element = false := rfl
  have hadds := adds_addShell element cs
  generalize addShell element cs = cs' at hadds ⊢
  cases hadds with
  | nothing => exact hcs
  | contents _ heq hhead =>
    obtain ⟨s, os, b, ts, tps, types, attrs, children, closing, rfl⟩ := isElement_iff.mp hhead
    simp only [heq, List.forall_mem_append, List.forall_mem_cons] at hcs ⊢
    exact ⟨hcs.1, rfl, hcs.2.2⟩
  | head _ heq _ =>
    simp only [heq, List.forall_mem_append, List.forall_mem_cons] at hcs ⊢
    exact ⟨hcs.1, htext, hhead, hcs.2⟩
  | scripts _ heq _ _ =>
    simp only [heq, List.forall_mem_append, List.forall_mem_cons] at hcs ⊢
    exact ⟨hcs.1, hcs.2.1, htext, hscripts, hcs.2.2⟩

theorem exists_of_mem_childrenOf_map {s : Option Span} {ps : List Node}
    (hc : c ∈ childrenOf (.mk f s (ps.map (shell isTop)))) :
    ∃ c' ∈ childrenOf (.mk f s ps), shell isTop c' = c := by
  unfold childrenOf at hc
  split at hc
  · next heq =>
    obtain ⟨rfl, rfl, rfl⟩ := Node.mk.inj heq
    exact List.mem_map.mp hc
  · next heq =>
    obtain ⟨rfl, rfl, hps⟩ := Node.mk.inj heq
    obtain ⟨opening, rest, rfl, -, hrest⟩ := List.map_eq_cons_iff.mp hps
    obtain ⟨seq, rest, rfl, hseq, hrest⟩ := List.map_eq_cons_iff.mp hrest
    obtain ⟨closing, rfl, -⟩ := List.map_eq_singleton_iff.mp hrest
    obtain ⟨cs, rfl, rfl⟩ := (rebuilds_shell isTop).of_eq rfl hseq
    exact List.mem_map.mp hc
  · cases hc

theorem not_isPlaceholder_of_mem_childrenOf (isTop : Bool) (n : Node) :
    ∀ c ∈ childrenOf (shell isTop n), Shape.isPlaceholder c = false := by
  have hchanged : ∀ (cs : List Node), ∀ c ∈ cs.map (changedChild isTop),
      Shape.isPlaceholder c = false := by
    intro cs c hc
    obtain ⟨c, -, rfl⟩ := List.mem_map.mp hc
    exact isPlaceholder_changedChild isTop c
  obtain ⟨f, s, ps⟩ := n
  cases shell_cases isTop f s ps with
  | type t ps =>
    rw [shell_type]
    simp [childrenOf]
  | fragment ps =>
    rw [shell_fragment_eq]
    exact hchanged ps
  | element opening ss cs closing =>
    rw [shell_element_eq, childrenOf, fitChildren]
    split
    · exact not_isPlaceholder_addShell _ (hchanged cs)
    · exact hchanged cs
  | plain f ps htype hshell hown =>
    have hnone : (childrenOf (.mk f s ps)).countP Shape.isPlaceholder = 0 := by
      rw [ShellCount.own_eq] at hown
      exact congrArg ShellCount.outlets hown
    intro c hc
    rw [hshell] at hc
    obtain ⟨c, hc', rfl⟩ := exists_of_mem_childrenOf_map hc
    rw [isPlaceholder_shell]
    simpa using List.countP_eq_zero.mp hnone c hc'

/-- **No placeholders.**  A changed body has none left. -/
theorem placeholderCount_shell (htags : ∀ m ∈ nodes n, hasTags m = true) :
    placeholderCount (shell isTop n) = 0 := by
  have hnone : ∀ m, (childrenOf (shell isTop m)).countP Shape.isPlaceholder = 0 := fun m =>
    List.countP_eq_zero.mpr fun c hc => by
      simp [not_isPlaceholder_of_mem_childrenOf isTop m c hc]
  have hnew : ∀ symbol : RouterSymbol,
      total (fun m => (childrenOf m).countP Shape.isPlaceholder) symbol.element = 0 := fun symbol =>
    rfl
  rw [placeholderCount, List.countP_flatMap]
  refine (total_shell isFitting_placeholders htags).trans ?_
  simp only [hnone, hnew, total_zero, Nat.mul_zero, ite_self, Nat.add_zero]

/-! ### The scripts -/

/-- **The scripts.**  In a `body` element they stand after the last child that shows the route. -/
theorem scripts_of_shell (hplace : hasScriptsPlace n = true) :
    ∃ before last after, childrenOf n = before ++ last :: after ∧ showsRoute last = true ∧
      (∀ c ∈ after, showsRoute c = false) ∧
      childrenOf (shell true n) = before.map (changedChild true) ++ changedChild true last ::
        Build.text "\n" :: RouterSymbol.scripts.element :: after.map (changedChild true) := by
  have hbody := (Bool.and_eq_true_iff.mp hplace).1
  obtain ⟨s, os, b, ts, tps, types, attrs, cs, closing, rfl⟩ := isElement_iff.mp hbody
  rw [← hasScriptsPlace_overChanged true] at hplace
  rw [shell_element_eq, fitChildren, if_pos rfl]
  generalize helement : overChanged true s _ none cs closing = element at hplace ⊢
  obtain ⟨hbody, hany⟩ := Bool.and_eq_true_iff.mp hplace
  have hchildren : childrenOf element = cs.map (changedChild true) := by
    rw [← helement, childrenOf_overChanged]
  have hadds := adds_addShell element (cs.map (changedChild true))
  generalize addShell element (cs.map (changedChild true)) = cs' at hadds ⊢
  cases hadds with
  | nothing hroomless =>
    rw [hchildren] at hany
    obtain ⟨c, hc, hroute⟩ := List.any_eq_true.mp hany
    rw [hroomless.body hbody c hc] at hroute
    cases hroute
  | contents hhtml =>
    rw [isElement_eq_false (by decide) hhtml] at hbody
    cases hbody
  | head hhtml =>
    rw [isElement_eq_false (by decide) hhtml] at hbody
    cases hbody
  | scripts _ hcs hlast hafter =>
    obtain ⟨before, rest, rfl, rfl, hrest⟩ := List.map_eq_append_iff.mp hcs
    obtain ⟨last, after, rfl, rfl, rfl⟩ := List.map_eq_cons_iff.mp hrest
    rw [showsRoute_changedChild] at hlast
    refine ⟨before, last, after, rfl, hlast, ?_, rfl⟩
    simpa [showsRoute_changedChild] using hafter

/-! ### The layout -/

/-- The warnings of the step that tell of a missing place. -/
theorem codes_fitShell {items before after : List Node} {s : State} {c : Component}
    (hfind : Component.find? s.component items = some (before, c, after)) :
    (fitShell items s).warnings.map Warning.code =
      (if s.options.kind = .rootLayout ∧ (ShellCount.of c.body).heads = 0 then ["W-SHELL-001"]
        else []) ++
      (if s.options.kind = .rootLayout ∧ (ShellCount.of c.body).scripts = 0 then ["W-SHELL-003"]
        else []) ++
      (if c.hasParams && ShellCount.mentionsChildren (shell (s.options.kind = .rootLayout) c.body)
        then ["W-SHELL-004"] else []) := by
  unfold fitShell
  simp only [hfind, List.map_append, apply_ite (List.map Warning.code), List.map_cons, List.map_nil,
    Warning.code, Bool.and_eq_true, decide_eq_true_eq]

/-- **The shell of a layout is exact.**  Where the component of a layout is found, only the item
that declares it changes.  Afterwards it has no parameters, and its body, outside of types, no
`{children}` but one outlet more for each.  In the top layout the contents of the head are there
once more for each place of the head, and the scripts for each place of the scripts, after the last
child that shows the route; the warnings tell that there was no place.  No other layout gets any of
these. -/
theorem layout_shell_is_exact (items : List Node) (s : State) (params : List Node) (body : Node)
    (hfound : Implementation.find? s.component items = some ⟨params, body⟩)
    (htags : ∀ n ∈ nodes body, hasTags n = true) :
    let newBody := shell (s.options.kind = .rootLayout) body
    let codes := (fitShell items s).warnings.map Warning.code
    (∃ before item newItem after, items = before ++ item :: after ∧
      (fitShell items s).items = before ++ newItem :: after ∧
      (∀ i ∈ before, Implementation.ofItem? s.component i = none) ∧
      Implementation.ofItem? s.component item = some ⟨params, body⟩ ∧
      Implementation.ofItem? s.component newItem = some ⟨[], newBody⟩) ∧
    placeholderCount newBody = 0 ∧
    elementCount "Outlet" newBody = elementCount "Outlet" body + placeholderCount body ∧
    (s.options.kind = .rootLayout →
      elementCount "HeadContent" newBody =
        elementCount "HeadContent" body + (nodes body).countP hasHeadPlace ∧
      elementCount "Scripts" newBody =
        elementCount "Scripts" body + (nodes body).countP hasScriptsPlace ∧
      (∀ n ∈ nodes body, hasScriptsPlace n = true →
        shell true n ∈ nodes newBody ∧
        ∃ before last after, childrenOf n = before ++ last :: after ∧ showsRoute last = true ∧
          (∀ c ∈ after, showsRoute c = false) ∧
          childrenOf (shell true n) = before.map (changedChild true) ++ changedChild true last ::
            Build.text "\n" :: RouterSymbol.scripts.element :: after.map (changedChild true)) ∧
      ("W-SHELL-001" ∈ codes ↔ (nodes body).countP hasHeadPlace = 0) ∧
      ("W-SHELL-003" ∈ codes ↔ (nodes body).countP hasScriptsPlace = 0)) ∧
    (s.options.kind ≠ .rootLayout →
      elementCount "HeadContent" newBody = elementCount "HeadContent" body ∧
      elementCount "Scripts" newBody = elementCount "Scripts" body ∧
      "W-SHELL-001" ∉ codes ∧ "W-SHELL-003" ∉ codes) := by
  intro newBody codes
  obtain ⟨before, item, after, c, hitems, hbefore, hitem, hfind, rfl, -, hbody⟩ :=
    exists_component hfound
  have hcodes : codes = _ := codes_fitShell hfind
  have hcount : ∀ name ≠ "head", elementCount name newBody = _ := fun name hname =>
    elementCount_shell hname htags
  rw [ShellCount.of_eq] at hcodes hcount
  simp only [elementCount_symbol] at hcount
  have houtlets := hcount "Outlet" (by decide)
  have hheads := hcount "HeadContent" (by decide)
  have hscripts := hcount "Scripts" (by decide)
  refine ⟨⟨before, item, _, after, hitems, items_fitShell hfind, hbefore, hitem, hbody newBody⟩,
    placeholderCount_shell htags, ?_, fun hkind => ?_, fun hkind => ?_⟩
  · simpa [RouterSymbol.name] using houtlets
  · have hstays : ∀ n ∈ nodes c.body, hasScriptsPlace n = true → shell true n ∈ nodes newBody := by
      intro n hn hplace
      have hthere : shell true n ∈ nodes (shell true c.body) :=
        mem_nodes_shell (by decide) (Bool.and_eq_true_iff.mp hplace).1 htags hn
      simpa [newBody, hkind] using hthere
    refine ⟨?_, ?_, fun n hn hplace => ⟨hstays n hn hplace, scripts_of_shell hplace⟩, ?_, ?_⟩
    · simpa [RouterSymbol.name, hkind] using hheads
    · simpa [RouterSymbol.name, hkind] using hscripts
    · simp [hcodes, hkind]
    · simp [hcodes, hkind]
  · refine ⟨?_, ?_, ?_, ?_⟩
    · simpa [RouterSymbol.name, hkind] using hheads
    · simpa [RouterSymbol.name, hkind] using hscripts
    · simp [hcodes, hkind]
    · simp [hcodes, hkind]

/-- `<html><head/><body><main>{children}</main>{children}<Footer/></body></html>` -/
def document : Node :=
  let children := .container none (.ref none "children")
  Build.element "html" []
    [Build.emptyElement "head",
      Build.element "body" []
        [Build.element "main" [] [children], children, Build.emptyElement "Footer"]]

/-- `function Layout({ children }) { return <html>...</html>; }`, with that document. -/
def documentLayout : List Node :=
  [.functionDecl none false (.ident none "Layout")
    (.function none false false .absent [propertyParam "children"] .absent
      (.mk .block none [.mk .returnStmt none [document]]))]

/-- The state in which a top layout with that component is changed. -/
def documentState : State := { options := { kind := .rootLayout }, component? := some "Layout" }

/-- The document gets two outlets, its head the contents and its body the scripts. -/
theorem document_gets_its_shell :
    let codes := (fitShell documentLayout documentState).warnings.map Warning.code
    ∃ body, Implementation.find? "Layout" documentLayout = some ⟨[propertyParam "children"], body⟩ ∧
      placeholderCount (shell true body) = 0 ∧ elementCount "Outlet" (shell true body) = 2 ∧
      elementCount "HeadContent" (shell true body) = 1 ∧
      elementCount "Scripts" (shell true body) = 1 ∧
      "W-SHELL-001" ∉ codes ∧ "W-SHELL-003" ∉ codes := by
  intro codes
  obtain ⟨-, hplaceholders, houtlets, htop, -⟩ := layout_shell_is_exact documentLayout documentState
    [propertyParam "children"] (.mk .block none [.mk .returnStmt none [document]]) rfl (by decide)
  obtain ⟨hheads, hscripts, -, hnohead, hnoscripts⟩ := htop rfl
  refine ⟨_, rfl, hplaceholders, houtlets.trans (by decide), hheads.trans (by decide),
    hscripts.trans (by decide), ?_, ?_⟩
  · rw [hnohead]
    decide
  · rw [hnoscripts]
    decide

/-- `type Shown = { [<p>{children}</p>]: string };` -/
def typedParagraph : Node :=
  .mk (.type (.synonym false)) none [.ident none "Shown", .absent, .mk (.type .object) none
    [.mk (.type (.property false true false)) none
      [.mk .computedName none
        [Build.element "p" [] [.container none (.ref none "children")]],
        .mk (.type .ascription) none [.mk (.type (.keyword "string")) none []]]]]

/-- `function Layout({ children }) { type Shown = ...; return null; }` -/
def typedLayout : List Node :=
  [.functionDecl none false (.ident none "Layout")
    (.function none false false .absent [propertyParam "children"] .absent
      (.mk .block none [typedParagraph, .mk .returnStmt none [.mk .null none []]]))]

/-- The parameter of that layout is removed without a warning, but the `{children}` in its type
stays. -/
theorem typed_children_stay :
    ∃ body newBody,
      Implementation.find? "Layout" typedLayout = some ⟨[propertyParam "children"], body⟩ ∧
      Implementation.find? "Layout" (fitShell typedLayout layoutState).items =
        some ⟨[], newBody⟩ ∧
      (fitShell typedLayout layoutState).warnings = [] ∧
      ∃ m, Within m newBody ∧ ∃ c ∈ childrenOf m, Shape.isPlaceholder c = true := by
  refine ⟨_, _, rfl, rfl, by decide, Build.element "p" [] [.container none (.ref none "children")],
    .part (p := typedParagraph) (.head _) ?_, _, .head _, by decide⟩
  exact .part (.tail _ (.tail _ (.head _)))
    (.part (.head _) (.part (.head _) (.part (.head _) .root)))

end RouteMigration.Migration
