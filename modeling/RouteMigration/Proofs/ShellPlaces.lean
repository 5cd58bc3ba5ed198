import RouteMigration.Proofs.NormalElements

/-!
# Places of a layout

A layout is changed where its body has places: `{children}` to show the route, an `html` element
with room for the head, a `body` element with room for the scripts.  A body without places stays
as it is, and one that looks the same afterwards had none.

## Main Definitions

* `ShellCount.isPlaced` — some place was counted
* `ShellCases` — all that the walk does to a node, with the places of the node
* `Adds` — all that happens to the children of an element of the top layout

## Main Statements

* `shell_of_not_isPlaced` — a body without places is left as it is
* `not_isPlaced_of_bare` — a body that looks the same afterwards has no places
* `Component.withBody_spec` — a component looks the same if it had no parameters and its body does
-/

namespace RouteMigration.Migration

variable {isTop : Bool} {f : Form} {s : Option Span} {ps cs before after : List Node} {n c : Node}
  {name : String}

/-! ### Counting places -/

namespace ShellCount

/-- Some place was counted; those of the head and the scripts only count in the top layout. -/
def isPlaced (isTop : Bool) (count : ShellCount) : Bool :=
  count.outlets > 0 || (isTop && count.heads + count.scripts > 0)

@[simp] theorem isPlaced_none : isPlaced isTop {} = false := by
  cases isTop <;> rfl

theorem isPlaced_add (a b : ShellCount) :
    (add a b).isPlaced isTop = (a.isPlaced isTop || b.isPlaced isTop) := by
  rw [Bool.eq_iff_iff]
  simp only [isPlaced, Bool.or_eq_true, Bool.and_eq_true, decide_eq_true_eq]
  simp only [add]
  cases isTop with
  | false =>
    simp only [Bool.false_eq_true, false_and, or_false]
    omega
  | true =>
    simp only [true_and]
    omega

theorem isPlaced_foldl (counts : List ShellCount) (a : ShellCount) :
    (counts.foldl add a).isPlaced isTop = (a.isPlaced isTop || counts.any (isPlaced isTop)) := by
  induction counts generalizing a with
  | nil => simp
  | cons b counts ih => rw [List.foldl_cons, ih, isPlaced_add, List.any_cons, Bool.or_assoc]

theorem of_type (t : TypeForm) (s : Option Span) (ps : List Node) :
    of (.mk (.type t) s ps) = {} := by
  rw [of, Node.fold_mk, step]

/-- A node has places if it is one or one of its parts has some. -/
theorem isPlaced_of (htype : ∀ t, f ≠ .type t) (s : Option Span) (ps : List Node) :
    (of (.mk f s ps)).isPlaced isTop = ((own (.mk f s ps)).isPlaced isTop ||
      ps.any fun p => (of p).isPlaced isTop) := by
  rw [of, Node.fold_mk]
  unfold step
  split
  · exact absurd rfl (htype _)
  · rw [Node.map_fst_walk, Node.map_snd_walk, isPlaced_foldl, List.any_map]
    rfl

theorem isPlaced_of_eq_false (htype : ∀ t, f ≠ .type t) (s : Option Span) (ps : List Node) :
    (of (.mk f s ps)).isPlaced isTop = false ↔
      (own (.mk f s ps)).isPlaced isTop = false ∧ ∀ p ∈ ps, (of p).isPlaced isTop = false := by
  simp [isPlaced_of htype]

end ShellCount

/-! ### The walk -/

/-- The children of an element, changed. -/
def fitChildren (isTop : Bool) (element : Node) (children : List Node) : List Node :=
  if isTop then addShell element children else children

theorem form_shell (isTop : Bool) (n : Node) : (shell isTop n).form = n.form := by
  obtain ⟨f, s, ps⟩ := n
  rw [shell, Node.fold_mk]
  unfold shellStep
  split <;> rfl

theorem shell_type (isTop : Bool) (t : TypeForm) (s : Option Span) (ps : List Node) :
    shell isTop (.mk (.type t) s ps) = .mk (.type t) s ps := by
  rw [shell, Node.fold_mk, shellStep, Node.map_fst_walk]

theorem shell_seq (isTop : Bool) (ss : Option Span) (cs : List Node) :
    shell isTop (.mk .seq ss cs) = .mk .seq ss (cs.map (shell isTop)) := by
  rw [shell, Node.fold_mk]
  exact congrArg (Node.mk .seq ss) (Node.map_snd_walk _ cs)

/-- A fragment shows the route. -/
theorem shell_fragment (isTop : Bool) (s : Option Span) (ps : List Node) :
    shell isTop (.mk .fragment s ps) =
      .mk .fragment s ((ps.map (shell isTop)).map outletChild) := by
  rw [shell, Node.fold_mk, shellStep, List.map_map, List.map_map]
  rfl

/-- An element shows the route, and may be the place of the head or the scripts. -/
theorem shell_element (isTop : Bool) (s : Option Span) (opening : Node) (ss : Option Span)
    (cs cs' : List Node) (closing : Node) (hcs : cs' = (cs.map (shell isTop)).map outletChild) :
    shell isTop (.mk .element s [opening, .mk .seq ss cs, closing]) =
      .mk .element s [shell isTop opening, .mk .seq ss (fitChildren isTop
        (.mk .element s [shell isTop opening, .mk .seq ss cs', shell isTop closing]) cs'),
        shell isTop closing] := by
  subst hcs
  rw [shell, Node.fold_mk]
  show shellStep isTop .element s [(opening, shell isTop opening),
    (.mk .seq ss cs, shell isTop (.mk .seq ss cs)), (closing, shell isTop closing)] = _
  rw [shell_seq]
  rfl

/-- The nodes that the walk tells apart.  What is no type, no fragment and no element is rebuilt
from its parts, and is no place itself. -/
inductive ShellCases (isTop : Bool) (s : Option Span) : Form → List Node → Prop
  | type (t : TypeForm) (ps : List Node) : ShellCases isTop s (.type t) ps
  | fragment (ps : List Node) : ShellCases isTop s .fragment ps
  | element (opening : Node) (ss : Option Span) (cs : List Node) (closing : Node) :
    ShellCases isTop s .element [opening, .mk .seq ss cs, closing]
  | plain (f : Form) (ps : List Node) (htype : ∀ t, f ≠ .type t)
    (hshell : shell isTop (.mk f s ps) = .mk f s (ps.map (shell isTop)))
    (hown : ShellCount.own (.mk f s ps) = {}) :
    ShellCases isTop s f ps

theorem shell_cases (isTop : Bool) (f : Form) (s : Option Span) (ps : List Node) :
    ShellCases isTop s f ps := by
  have hshell : shell isTop (.mk f s ps) =
      shellStep isTop f s (ps.map fun p => (p, shell isTop p)) := by
    rw [shell, Node.fold_mk]
  unfold shellStep at hshell
  split at hshell
  · exact .type _ ps
  · exact .fragment ps
  · next o' opening m' ss cs' c' closing heq =>
    obtain ⟨o, rest, rfl, -, hrest⟩ := List.map_eq_cons_iff.mp heq
    obtain ⟨⟨g, ms, cs⟩, rest, rfl, hm, hrest⟩ := List.map_eq_cons_iff.mp hrest
    obtain ⟨c, rfl, -⟩ := List.map_eq_singleton_iff.mp hrest
    have hform := form_shell isTop (.mk g ms cs)
    rw [(Prod.mk.inj hm).2] at hform
    obtain rfl : Form.seq = g := hform
    exact .element o ms cs c
  · next htype hfragment helement =>
    rw [Node.map_snd_walk] at hshell
    refine .plain _ ps (fun t => ?_) hshell ?_
    · rintro rfl
      exact htype t rfl
    · unfold ShellCount.own
      split
      · next heq =>
        obtain ⟨rfl, rfl, rfl⟩ := Node.mk.inj heq
        exact absurd rfl hfragment
      · next heq =>
        obtain ⟨rfl, rfl, rfl⟩ := Node.mk.inj heq
        simp only [List.map_cons, List.map_nil, shell_seq] at helement
        exact (helement _ _ _ _ _ _ _ trivial rfl).elim
      · rfl

/-- The forms that the walk looks into. -/
def isFitted : Form → Bool
  | .type _ | .fragment | .element => true
  | _ => false

theorem rebuilds_shell (isTop : Bool) : Rebuilds isFitted (shell isTop) where
  plain := by
    intro f s ps hf
    cases shell_cases isTop f s ps with
    | type => cases hf
    | fragment => cases hf
    | element => cases hf
    | plain _ _ _ hshell => exact hshell
  special := by
    intro f s ps hf
    rw [form_shell]
    exact hf

/-! ### Children -/

theorem isPlaceholder_iff :
    Shape.isPlaceholder n = true ↔ ∃ s rs, n = .container s (.ref rs "children") := by
  constructor
  · intro h
    unfold Shape.isPlaceholder at h
    split at h
    · obtain rfl := beq_iff_eq.mp h
      exact ⟨_, _, rfl⟩
    · cases h
  · rintro ⟨s, rs, rfl⟩
    rfl

theorem isPlaceholder_shell (isTop : Bool) (n : Node) :
    Shape.isPlaceholder (shell isTop n) = Shape.isPlaceholder n := by
  rw [Bool.eq_iff_iff, isPlaceholder_iff, isPlaceholder_iff]
  constructor
  · rintro ⟨s, rs, heq⟩
    obtain ⟨r, rfl, hr⟩ := (rebuilds_shell isTop).of_eq_single rfl heq
    obtain ⟨qs, rfl, hqs⟩ := (rebuilds_shell isTop).of_eq rfl hr
    obtain rfl := List.map_eq_nil_iff.mp hqs
    exact ⟨s, rs, rfl⟩
  · rintro ⟨s, rs, rfl⟩
    exact ⟨s, rs, rfl⟩

theorem tag?_of_isPlaceholder (h : Shape.isPlaceholder n = true) : Shape.tag? n = none := by
  obtain ⟨s, rs, rfl⟩ := isPlaceholder_iff.mp h
  rfl

/-- An element is no placeholder. -/
theorem not_isPlaceholder_of_isElement (h : Shape.isElement name n = true) :
    Shape.isPlaceholder n = false := by
  obtain ⟨_, _, _, _, _, _, _, _, _, rfl⟩ := isElement_iff.mp h
  rfl

theorem outletChild_of_not (h : Shape.isPlaceholder n = false) : outletChild n = n := by
  rw [outletChild, h]
  rfl

/-- Children that look the same after the walk, with the outlet in place, did not show the route. -/
theorem of_bare_outletChild (h : ((cs.map (shell isTop)).map outletChild).map bare = cs.map bare) :
    ∀ c ∈ cs, Shape.isPlaceholder c = false ∧ bare (shell isTop c) = bare c := by
  intro c hmem
  simp only [List.map_map, List.map_inj_left, Function.comp_apply] at h
  have hbare := h c hmem
  cases hc : Shape.isPlaceholder c with
  | false =>
    rw [outletChild_of_not (by rw [isPlaceholder_shell, hc])] at hbare
    exact ⟨rfl, hbare⟩
  | true =>
    rw [outletChild, isPlaceholder_shell, hc] at hbare
    obtain ⟨s, rs, rfl⟩ := isPlaceholder_iff.mp hc
    cases form_eq_of_bare hbare

/-- The name of an element has nothing to do with its children. -/
theorem tag?_children (s : Option Span) (opening : Node) (ss : Option Span) (cs cs' : List Node)
    (closing : Node) : Shape.tag? (.mk .element s [opening, .mk .seq ss cs, closing]) =
      Shape.tag? (.mk .element s [opening, .mk .seq ss cs', closing]) := by
  refine Option.ext fun name => ?_
  rw [tag?_eq_some, tag?_eq_some]
  constructor
  · rintro ⟨s, os, b, ts, tps, types, attrs, children, closing, heq⟩
    cases heq
    exact ⟨_, _, _, _, _, _, _, _, _, rfl⟩
  · rintro ⟨s, os, b, ts, tps, types, attrs, children, closing, heq⟩
    cases heq
    exact ⟨_, _, _, _, _, _, _, _, _, rfl⟩

theorem tag?_shell_map (isTop : Bool) (f : Form) (s : Option Span) (ps : List Node) :
    Shape.tag? (.mk f s (ps.map (shell isTop))) = Shape.tag? (.mk f s ps) := by
  refine tag?_map (rebuilds_shell isTop) (fun f hf => ?_) f s ps
  unfold isOfTag at hf
  split at hf
  case h_4 => cases hf
  all_goals rfl

/-- An element keeps its name whatever its children become. -/
theorem isElement_rebuilt (name : String) (isTop : Bool) (s : Option Span) (opening : Node)
    (ss : Option Span) (cs cs' : List Node) (closing : Node) :
    Shape.isElement name
        (.mk .element s [shell isTop opening, .mk .seq ss cs', shell isTop closing]) =
      Shape.isElement name (.mk .element s [opening, .mk .seq ss cs, closing]) := by
  rw [Shape.isElement, Shape.isElement,
    ← tag?_shell_map isTop .element s [opening, .mk .seq ss cs, closing]]
  simp only [List.map_cons, List.map_nil, shell_seq]
  rw [tag?_children]

theorem isElement_shell (name : String) (isTop : Bool) (n : Node) :
    Shape.isElement name (shell isTop n) = Shape.isElement name n := by
  obtain ⟨f, s, ps⟩ := n
  cases shell_cases isTop f s ps with
  | type t ps => rw [shell_type]
  | fragment ps =>
    rw [shell_fragment]
    rfl
  | element opening ss cs closing =>
    rw [shell_element isTop s opening ss cs _ closing rfl, isElement_rebuilt]
  | plain f ps htype hshell => rw [hshell, Shape.isElement, tag?_shell_map, Shape.isElement]

theorem isElement_outletChild (hname : name ≠ "Outlet") (c : Node) :
    Shape.isElement name (outletChild c) = Shape.isElement name c := by
  rw [outletChild]
  split
  · next hc =>
    rw [Shape.isElement, Shape.isElement, tag?_of_isPlaceholder hc]
    show (some "Outlet" == some name) = false
    simpa using hname.symm
  · rfl

theorem showsRoute_outletChild (c : Node) : showsRoute (outletChild c) = showsRoute c := by
  rw [outletChild]
  split
  · next hc =>
    rw [showsRoute, showsRoute, hc]
    rfl
  · rfl

theorem showsRoute_shell (isTop : Bool) (c : Node) :
    showsRoute (shell isTop c) = showsRoute c := by
  rw [showsRoute, showsRoute, isPlaceholder_shell, isElement_shell]

/-! ### The head and the scripts -/

theorem splitAfterLast_eq_none {p : Node → Bool} :
    splitAfterLast p cs = none ↔ ∀ c ∈ cs, p c = false := by
  induction cs with
  | nil => simp [splitAfterLast]
  | cons c cs ih =>
    rw [List.forall_mem_cons, ← ih, splitAfterLast]
    cases splitAfterLast p cs with
    | none => cases p c <;> simp
    | some split => simp

/-- The list is cut after the last element that satisfies `p`. -/
theorem splitAfterLast_eq_some {p : Node → Bool}
    (h : splitAfterLast p cs = some (before, after)) :
    ∃ start last, before = start ++ [last] ∧ cs = start ++ last :: after ∧ p last = true ∧
      ∀ c ∈ after, p c = false := by
  induction cs generalizing before with
  | nil => cases h
  | cons c cs ih =>
    rw [splitAfterLast] at h
    cases hsplit : splitAfterLast p cs with
    | none =>
      rw [hsplit] at h
      cases hc : p c with
      | false => simp [hc] at h
      | true =>
        simp only [hc, if_true, Option.some.injEq, Prod.mk.injEq] at h
        obtain ⟨rfl, rfl⟩ := h
        exact ⟨[], c, rfl, rfl, hc, splitAfterLast_eq_none.mp hsplit⟩
    | some split =>
      obtain ⟨before', after'⟩ := split
      rw [hsplit] at h
      cases h
      obtain ⟨start, last, rfl, rfl, hlast, hafter⟩ := ih hsplit
      exact ⟨c :: start, last, rfl, rfl, hlast, hafter⟩

/-- There is no place for the head or the scripts among the children of an element. -/
structure IsRoomless (element : Node) (children : List Node) : Prop where
  html : Shape.isElement "html" element = true → ∀ c ∈ children,
    Shape.isElement "head" c = false ∧ Shape.isElement "body" c = false
  body : Shape.isElement "body" element = true → ∀ c ∈ children, showsRoute c = false

/-- What `addShell` makes of the children of an element: it leaves them, puts the contents of the
head into a `head` or into a new one before a `body`, or puts the scripts after the last child that
shows the route. -/
inductive Adds (element : Node) (cs : List Node) : List Node → Prop
  | nothing (hroomless : IsRoomless element cs) : Adds element cs cs
  | contents {before after : List Node} {head : Node}
    (helement : Shape.isElement "html" element = true) (hcs : cs = before ++ head :: after)
    (hhead : Shape.isElement "head" head = true) :
    Adds element cs (before ++ fillHead head :: after)
  | head {before after : List Node} {body : Node}
    (helement : Shape.isElement "html" element = true) (hcs : cs = before ++ body :: after)
    (hbody : Shape.isElement "body" body = true) :
    Adds element cs (before ++ Build.text "\n" :: headElement :: body :: after)
  | scripts {before after : List Node} {last : Node}
    (helement : Shape.isElement "body" element = true) (hcs : cs = before ++ last :: after)
    (hlast : showsRoute last = true) (hafter : ∀ c ∈ after, showsRoute c = false) :
    Adds element cs
      (before ++ last :: Build.text "\n" :: RouterSymbol.scripts.element :: after)

theorem adds_addHead (helement : Shape.isElement "html" n = true) (cs : List Node) :
    Adds n cs (addHead cs) := by
  unfold addHead
  split
  · next i hfind =>
    obtain ⟨hi, hhead, -⟩ := List.findIdx?_eq_some_iff_getElem.mp hfind
    rw [List.modify_eq_take_cons_drop hi]
    refine .contents helement ?_ hhead
    rw [List.getElem_cons_drop hi, List.take_append_drop]
  · next hhead =>
    have hhead := List.findIdx?_eq_none_iff.mp hhead
    split
    · next i hfind =>
      obtain ⟨hi, hbody, -⟩ := List.findIdx?_eq_some_iff_getElem.mp hfind
      rw [← List.getElem_cons_drop hi]
      refine .head helement ?_ hbody
      rw [List.getElem_cons_drop hi, List.take_append_drop]
    · next hbody =>
      have hbody := List.findIdx?_eq_none_iff.mp hbody
      refine .nothing ⟨fun _ c hc => ⟨hhead c hc, hbody c hc⟩, fun h => ?_⟩
      rw [isElement_eq_false (by decide) helement] at h
      cases h

theorem adds_addScripts (helement : Shape.isElement "body" n = true) (cs : List Node) :
    Adds n cs (addScripts cs) := by
  unfold addScripts
  split
  · next before after hsplit =>
    obtain ⟨start, last, rfl, hcs, hlast, hafter⟩ := splitAfterLast_eq_some hsplit
    rw [List.append_assoc, List.singleton_append]
    exact .scripts helement hcs hlast hafter
  · next hsplit =>
    refine .nothing ⟨fun h => ?_, fun _ => splitAfterLast_eq_none.mp hsplit⟩
    rw [isElement_eq_false (by decide) helement] at h
    cases h

theorem adds_addShell (n : Node) (cs : List Node) : Adds n cs (addShell n cs) := by
  unfold addShell
  split
  · next hhtml => exact adds_addHead hhtml cs
  · next hhtml =>
    split
    · next hbody => exact adds_addScripts hbody cs
    · next hbody => exact .nothing ⟨fun h => absurd h hhtml, fun h => absurd h hbody⟩

theorem addShell_of_roomless (h : IsRoomless n cs) : addShell n cs = cs := by
  have hadds := adds_addShell n cs
  generalize addShell n cs = cs' at hadds ⊢
  cases hadds with
  | nothing => rfl
  | @contents before after head helement hcs hhead =>
    have hnone := (h.html helement head (by simp [hcs])).1
    rw [hhead] at hnone
    cases hnone
  | @head before after body helement hcs hbody =>
    have hnone := (h.html helement body (by simp [hcs])).2
    rw [hbody] at hnone
    cases hnone
  | @scripts before after last helement hcs hlast hafter =>
    have hnone := h.body helement last (by simp [hcs])
    rw [hlast] at hnone
    cases hnone

/-- The contents of the head go into a head, or two more children are there, if there is a place. -/
theorem addShell_cases (n : Node) (cs : List Node) :
    IsRoomless n cs ∨ (addShell n cs).length = cs.length + 2 ∨
      ∃ before head after, cs = before ++ head :: after ∧ Shape.isElement "head" head = true ∧
        addShell n cs = before ++ fillHead head :: after := by
  have hadds := adds_addShell n cs
  generalize addShell n cs = cs' at hadds ⊢
  cases hadds with
  | nothing hroomless => exact Or.inl hroomless
  | contents helement hcs hhead => exact Or.inr (Or.inr ⟨_, _, _, hcs, hhead, rfl⟩)
  | head helement hcs hbody =>
    refine Or.inr (Or.inl ?_)
    simp only [hcs, List.length_append, List.length_cons]
    omega
  | scripts helement hcs hlast hafter =>
    refine Or.inr (Or.inl ?_)
    simp only [hcs, List.length_append, List.length_cons]
    omega

/-- Whether there is a place can be told before and after the walk. -/
theorem isRoomless_map (isTop : Bool) (s : Option Span) (opening : Node) (ss : Option Span)
    (cs cs' : List Node) (closing : Node) (hcs : cs' = (cs.map (shell isTop)).map outletChild) :
    IsRoomless (.mk .element s [shell isTop opening, .mk .seq ss cs', shell isTop closing]) cs' ↔
      IsRoomless (.mk .element s [opening, .mk .seq ss cs, closing]) cs := by
  subst hcs
  have hhead : ∀ c : Node, Shape.isElement "head" (outletChild (shell isTop c)) =
      Shape.isElement "head" c := fun c => by
    rw [isElement_outletChild (by decide), isElement_shell]
  have hbody : ∀ c : Node, Shape.isElement "body" (outletChild (shell isTop c)) =
      Shape.isElement "body" c := fun c => by
    rw [isElement_outletChild (by decide), isElement_shell]
  have hroute : ∀ c : Node, showsRoute (outletChild (shell isTop c)) = showsRoute c := fun c => by
    rw [showsRoute_outletChild, showsRoute_shell]
  constructor
  · rintro ⟨hhtml, hscripts⟩
    simp only [isElement_rebuilt _ isTop s opening ss cs, List.forall_mem_map, hhead, hbody, hroute]
      at hhtml hscripts
    exact ⟨hhtml, hscripts⟩
  · rintro ⟨hhtml, hscripts⟩
    constructor
    · simpa only [isElement_rebuilt _ isTop s opening ss cs, List.forall_mem_map, hhead, hbody]
        using hhtml
    · simpa only [isElement_rebuilt _ isTop s opening ss cs, List.forall_mem_map, hroute]
        using hscripts

/-- The places of an element itself. -/
theorem isPlaced_own_element {opening closing : Node} {ss : Option Span} :
    (ShellCount.own (.mk .element s [opening, .mk .seq ss cs, closing])).isPlaced isTop = false ↔
      (∀ c ∈ cs, Shape.isPlaceholder c = false) ∧
        (isTop = true → IsRoomless (.mk .element s [opening, .mk .seq ss cs, closing]) cs) := by
  have houtlets : cs.countP Shape.isPlaceholder > 0 ↔
      ¬∀ c ∈ cs, Shape.isPlaceholder c = false := by
    simp
  rw [ShellCount.own, ShellCount.isPlaced]
  generalize Node.mk .element s [opening, .mk .seq ss cs, closing] = n
  dsimp only
  generalize hheads : (if Shape.isElement "html" n && cs.any (fun c => Shape.isElement "head" c ||
    Shape.isElement "body" c) then 1 else 0) = heads
  generalize hscripts : (if Shape.isElement "body" n && cs.any showsRoute then 1 else 0) = scripts
  have hroom : heads + scripts > 0 ↔ ¬IsRoomless n cs := by
    have hheads : heads = 0 ↔ (Shape.isElement "html" n = true → ∀ c ∈ cs,
        Shape.isElement "head" c = false ∧ Shape.isElement "body" c = false) := by
      simp [← hheads]
    have hscripts : scripts = 0 ↔
        (Shape.isElement "body" n = true → ∀ c ∈ cs, showsRoute c = false) := by
      simp [← hscripts]
    rw [gt_iff_lt, Nat.pos_iff_ne_zero, Ne, Nat.add_eq_zero_iff, hheads, hscripts]
    exact not_congr ⟨fun h => ⟨h.1, h.2⟩, fun h => ⟨h.html, h.body⟩⟩
  simp only [houtlets, hroom, Bool.or_eq_false_iff, Bool.and_eq_false_iff, decide_eq_false_iff_not,
    not_not]
  cases isTop <;> simp

/-! ### The body -/

/-- **No places.**  A body without places is left as it is. -/
theorem shell_of_not_isPlaced (h : (ShellCount.of n).isPlaced isTop = false) :
    shell isTop n = n := by
  induction n using Node.induct with
  | mk f s ps ih =>
    cases shell_cases isTop f s ps with
    | type t ps => exact shell_type isTop t s ps
    | fragment ps =>
      obtain ⟨hroot, hparts⟩ := (ShellCount.isPlaced_of_eq_false (by simp) s ps).mp h
      have hsame : ps.map (shell isTop) = ps := map_eq_self fun p hp => ih p hp (hparts p hp)
      have hplaces : ∀ p ∈ ps, Shape.isPlaceholder p = false := by
        simpa [ShellCount.own, ShellCount.isPlaced] using hroot
      rw [shell_fragment, hsame, map_eq_self fun p hp => outletChild_of_not (hplaces p hp)]
    | element opening ss cs closing =>
      obtain ⟨hroot, hparts⟩ := (ShellCount.isPlaced_of_eq_false (by simp) s _).mp h
      have hsame := fun p hp => ih p hp (hparts p hp)
      simp only [List.forall_mem_cons, List.not_mem_nil, IsEmpty.forall_iff, implies_true, and_true,
        shell_seq, Node.mk.injEq, true_and] at hsame
      obtain ⟨hopening, hcs, hclosing⟩ := hsame
      obtain ⟨hplaces, hroom⟩ := isPlaced_own_element.mp hroot
      have houtlets : (cs.map (shell isTop)).map outletChild = cs := by
        rw [hcs]
        exact map_eq_self fun c hc => outletChild_of_not (hplaces c hc)
      rw [shell_element isTop s opening ss cs cs closing houtlets.symm, hopening, hclosing,
        fitChildren]
      split
      · next htop => rw [addShell_of_roomless (hroom htop)]
      · rfl
    | plain f ps htype hshell hown =>
      obtain ⟨-, hparts⟩ := (ShellCount.isPlaced_of_eq_false htype s ps).mp h
      rw [hshell, map_eq_self fun p hp => ih p hp (hparts p hp)]

/-- A head has no place for anything but the contents of the head itself. -/
theorem isRoomless_of_head (h : Shape.isElement "head" n = true) (cs : List Node) :
    IsRoomless n cs := by
  constructor
  · intro hhtml
    rw [isElement_eq_false (by decide) h] at hhtml
    cases hhtml
  · intro hbody
    rw [isElement_eq_false (by decide) h] at hbody
    cases hbody

theorem shell_opening (isTop : Bool) (os : Option Span) (b : Bool) (name types : Node)
    (attrs : List Node) : shell isTop (.opening os b name types attrs) =
      .opening os b (shell isTop name) (shell isTop types) (attrs.map (shell isTop)) := by
  rw [(rebuilds_shell isTop).plain os _ (f := .opening b) rfl]
  simp only [List.map_cons, List.map_nil, shell_seq]

/-- A head looks different when it has got its contents: there is one more child. -/
theorem bare_fillHead_ne (hhead : Shape.isElement "head" c = true) :
    bare (fillHead (shell isTop c)) ≠ bare c := by
  intro h
  obtain ⟨s, os, b, ts, tps, types, attrs, cs, closing, rfl⟩ :=
    tag?_eq_some.mp (beq_iff_eq.mp hhead)
  have hfit : ∀ element cs', Shape.isElement "head" element = true →
      fitChildren isTop element cs' = cs' := by
    intro element cs' helement
    rw [fitChildren, addShell_of_roomless (isRoomless_of_head helement cs'), ite_self]
  rw [shell_element isTop s _ none cs _ closing rfl,
    hfit _ _ ((isElement_rebuilt ..).trans hhead), shell_opening] at h
  have hlength := length_eq_of_bare (bare_element h).2.2
  simp at hlength

/-- Children that look the same afterwards have room for nothing. -/
theorem fitChildren_of_bare {opening closing : Node} {ss : Option Span} {cs' : List Node}
    (hcs : cs' = (cs.map (shell isTop)).map outletChild)
    (h : (fitChildren isTop (.mk .element s [shell isTop opening, .mk .seq ss cs',
      shell isTop closing]) cs').map bare = cs.map bare) :
    (isTop = true → IsRoomless (.mk .element s [opening, .mk .seq ss cs, closing]) cs) ∧
      cs'.map bare = cs.map bare := by
  unfold fitChildren at h
  split at h
  · next htop =>
    have hroom := isRoomless_map isTop s opening ss cs cs' closing hcs
    rcases addShell_cases (.mk .element s [shell isTop opening, .mk .seq ss cs',
      shell isTop closing]) cs' with hnone | hlength | ⟨before, head, after, hcs', hhead, hadd⟩
    · rw [addShell_of_roomless hnone] at h
      exact ⟨fun _ => hroom.mp hnone, h⟩
    · have := length_eq_of_bare h
      rw [hlength, hcs, List.length_map, List.length_map] at this
      omega
    · exfalso
      rw [hadd] at h
      rw [hcs', List.map_map] at hcs
      obtain ⟨before', rest, rfl, rfl, hrest⟩ := List.map_eq_append_iff.mp hcs.symm
      obtain ⟨c, after', rfl, rfl, rfl⟩ := List.map_eq_cons_iff.mp hrest
      have hchild : Shape.isElement "head" c = true := by
        rwa [Function.comp_apply, isElement_outletChild (by decide), isElement_shell] at hhead
      have hplace := not_isPlaceholder_of_isElement hchild
      rw [List.map_append, List.map_append] at h
      obtain ⟨-, h⟩ := List.append_inj h (by simp)
      rw [List.map_cons, List.map_cons, Function.comp_apply,
        outletChild_of_not (by rw [isPlaceholder_shell, hplace])] at h
      exact bare_fillHead_ne hchild (List.cons.inj h).1
  · next htop => exact ⟨fun h => absurd h htop, h⟩

/-- **What looks the same has no places.**  A body that the walk leaves up to ranges is one in which
there is nothing to fill. -/
theorem not_isPlaced_of_bare (h : bare (shell isTop n) = bare n) :
    (ShellCount.of n).isPlaced isTop = false := by
  induction n using Node.induct with
  | mk f s ps ih =>
    cases shell_cases isTop f s ps with
    | type t ps => rw [ShellCount.of_type, ShellCount.isPlaced_none]
    | fragment ps =>
      rw [shell_fragment, bare_mk_inj] at h
      have hparts := of_bare_outletChild h.2
      refine (ShellCount.isPlaced_of_eq_false (by simp) s ps).mpr
        ⟨?_, fun p hp => ih p hp (hparts p hp).2⟩
      simpa [ShellCount.own, ShellCount.isPlaced] using fun p hp => (hparts p hp).1
    | element opening ss cs closing =>
      obtain ⟨cs', hcs⟩ : ∃ cs', cs' = (cs.map (shell isTop)).map outletChild := ⟨_, rfl⟩
      rw [shell_element isTop s opening ss cs cs' closing hcs, bare_mk_inj] at h
      simp only [List.map_cons, List.map_nil, List.cons.injEq, and_true, true_and, bare_mk_inj] at h
      obtain ⟨hopening, hchildren, hclosing⟩ := h
      obtain ⟨hroom, hsame⟩ := fitChildren_of_bare hcs hchildren
      rw [hcs] at hsame
      have hparts := of_bare_outletChild hsame
      have hseq : bare (shell isTop (.mk .seq ss cs)) = bare (.mk .seq ss cs) := by
        rw [shell_seq, bare_mk_inj, map_bare_map_iff]
        exact ⟨rfl, fun c hc => (hparts c hc).2⟩
      refine (ShellCount.isPlaced_of_eq_false (by simp) s _).mpr
        ⟨isPlaced_own_element.mpr ⟨fun c hc => (hparts c hc).1, hroom⟩, ?_⟩
      simp only [List.forall_mem_cons, List.not_mem_nil, IsEmpty.forall_iff, implies_true, and_true]
      exact ⟨ih _ (by simp) hopening, ih _ (by simp) hseq, ih _ (by simp) hclosing⟩
    | plain f ps htype hshell hown =>
      rw [hshell, bare_mk_inj, map_bare_map_iff] at h
      refine (ShellCount.isPlaced_of_eq_false htype s ps).mpr
        ⟨?_, fun p hp => ih p hp (h.2 p hp)⟩
      rw [hown, ShellCount.isPlaced_none]

/-! ### The component -/

/-- A component that was found in something can be put back, and with another body it looks the
same only if it had no parameters and the bodies look the same.  `look` takes the ranges from what
the component was found in. -/
inductive Restores {ν μ : Type} (look : ν → μ) (around : ν → Node) (n : ν) :
    Option Component → Prop
  | none : Restores look around n .none
  | some {c : Component} (hback : c.hasParams = false → c.withBody c.body = around n)
    (hlook : ∀ body, ∃ n', c.withBody body = around n' ∧
      (look n' = look n → c.hasParams = false ∧ bare body = bare c.body)) :
    Restores look around n (.some c)

namespace Restores

/-- What can be put back inside of something can be put back in the whole. -/
theorem lift {ν ν' μ μ' : Type} {look : ν → μ} {look' : ν' → μ'} (wrap : ν → ν')
    {around : ν' → Node} {n : ν} {found : Option Component}
    (hwrap : ∀ n', look' (wrap n') = look' (wrap n) → look n' = look n)
    (h : Restores look (fun n => around (wrap n)) n found) :
    Restores look' around (wrap n) found := by
  cases h with
  | none => exact .none
  | some hback hlook =>
    refine .some hback fun body => ?_
    obtain ⟨n', hwith, hn'⟩ := hlook body
    exact ⟨wrap n', hwith, fun h => hn' (hwrap n' h)⟩

/-- Of functions that look the same but for one that has no parameters, none has any. -/
theorem bare_signature {f : Form} {s : Option Span} {types result body body' : Node}
    {params : List Node} (h : bare (.mk f s [types, .seq [], result, body']) =
      bare (.mk f s [types, .seq params, result, body])) :
    params = [] ∧ bare body' = bare body := by
  simp only [bare_mk, List.map_cons, List.map_nil, Node.mk.injEq, List.cons.injEq, true_and,
    and_true] at h
  obtain ⟨hparams, hbody⟩ := h
  exact ⟨List.map_eq_nil_iff.mp hparams.symm, hbody⟩

theorem ofFunction? (around : Node → Node) (f : Node) :
    Restores bare around f (Component.ofFunction? around f) := by
  unfold Component.ofFunction?
  split
  · next isAsync isGenerator s types params result body =>
    refine .some (fun h => ?_) fun body' => ⟨_, rfl, fun h => ?_⟩
    · obtain rfl : params = [] := by simpa using h
      rfl
    · obtain ⟨rfl, hbody⟩ := bare_signature h
      exact ⟨rfl, hbody⟩
  · exact .none

theorem ofArrow? (around : Node → Node) (e : Node) :
    Restores bare around e (Component.ofArrow? around e) := by
  unfold Component.ofArrow?
  split
  · next isAsync s types params result body =>
    refine .some (fun h => ?_) fun body' => ⟨_, rfl, fun h => ?_⟩
    · obtain rfl : params = [] := by simpa using h
      rfl
    · obtain ⟨rfl, hbody⟩ := bare_signature h
      exact ⟨rfl, hbody⟩
  · exact .none

theorem ofValue? (around : Node → Node) (v : Node) :
    Restores bare around v (Component.ofValue? around v) := by
  unfold Component.ofValue?
  split
  · next s name f =>
    refine lift (fun f => Node.functionExpr s name f) (fun f' h => ?_) (ofFunction? _ f)
    simpa [bare_mk] using h
  · next s e =>
    refine lift (fun e => Node.paren s e) (fun e' h => ?_) (ofArrow? _ e)
    simpa [bare_mk] using h
  · exact ofArrow? around v

theorem ofDeclarators? (name : String) (ds : List Node) : ∀ around : List Node → Node,
    Restores (List.map bare) around ds (Component.ofDeclarators? name around ds) := by
  induction ds with
  | nil => exact fun around => .none
  | cons d ds ih =>
    intro around
    unfold Component.ofDeclarators?
    split
    · next hname =>
      split
      · next isDefinite s pattern value =>
        refine lift (fun v => Node.declarator s isDefinite pattern v :: ds) (fun v h => ?_)
          (ofValue? _ value)
        simpa [bare_mk] using h
      · exact .none
    · exact lift (fun ds => d :: ds) (fun ds' h => (List.cons.inj h).2) (ih _)

theorem ofDeclaration? (name : String) (around : Node → Node) (d : Node) :
    Restores bare around d (Component.ofDeclaration? name around d) := by
  unfold Component.ofDeclaration?
  split
  · next isDeclare s n ns f =>
    split
    · refine lift (fun f => Node.functionDecl s isDeclare (.ident ns n) f) (fun f' h => ?_)
        (ofFunction? _ f)
      simpa [bare_mk] using h
    · exact .none
  · next kind isDeclare s ds =>
    split
    · exact lift (fun ds => Node.varDecl s kind isDeclare ds) (fun ds' h => (bare_mk_inj.mp h).2)
        (ofDeclarators? name ds _)
    · exact .none
  · exact .none

theorem ofItem? (name : String) (item : Node) :
    Restores bare id item (Component.ofItem? name item) := by
  unfold Component.ofItem?
  split
  · next s d =>
    refine lift (fun d => Node.exportDecl s d) (fun d' h => ?_) (ofDeclaration? name _ d)
    simpa [bare_mk] using h
  · exact ofDeclaration? name id item

end Restores

/-- **The component of an item.**  Without parameters and with its own body it is the item, and it
looks like the item only if it had no parameters and its body looks the same. -/
theorem Component.withBody_spec {name : String} {item : Node} {c : Component}
    (h : Component.ofItem? name item = some c) :
    (c.hasParams = false → c.withBody c.body = item) ∧
      ∀ body, bare (c.withBody body) = bare item →
        c.hasParams = false ∧ bare body = bare c.body := by
  have hitem := Restores.ofItem? name item
  rw [h] at hitem
  cases hitem with
  | some hback hlook =>
    refine ⟨hback, fun body hbare => ?_⟩
    obtain ⟨n', hwith, hn'⟩ := hlook body
    rw [hwith] at hbare
    exact hn' hbare

end RouteMigration.Migration
