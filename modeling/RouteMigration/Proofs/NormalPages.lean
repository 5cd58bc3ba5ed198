import RouteMigration.Proofs.ClassText
import RouteMigration.Proofs.HookRenames
import RouteMigration.Proofs.NormalizedElements
import RouteMigration.Proofs.RegistrationPlace

/-!
# Pages are normal

Once links and images are changed, a page goes through steps that change elements for other reasons:
a layout gets its shell, the metadata moves into the registration, and `className` attributes lose
their fonts.  None of them brings back what has been changed, so the elements of a migrated page are
still normal.

## Main Definitions

* `KeepsElements` — a walk that takes neither names nor attributes from elsewhere

## Main Statements

* `isNormal_shell`, `isNormal_cleanClassNames` — the walks of the later steps keep trees normal
* `isNormal_migrate` — the items of a migrated page are normal
-/

namespace RouteMigration.Migration

variable {f : Form} {s : Option Span} {ps items : List Node} {n : Node} {name : String}

/-! ### Normal trees -/

/-- What is neither a type nor an element is normal if its parts are, and only then. -/
theorem isNormal_iff_parts (htype : ∀ t, f ≠ .type t) (hf : f ≠ .element) :
    isNormal (.mk f s ps) = true ↔ ∀ p ∈ ps, isNormal p = true :=
  ⟨fun h => ((isNormal_mk htype s ps).mp h).2, isNormal_of_parts hf⟩

theorem isNormal_pair_iff (htype : ∀ t, f ≠ .type t) (hf : f ≠ .element) {a b : Node} :
    isNormal (.mk f s [a, b]) = true ↔ isNormal a = true ∧ isNormal b = true := by
  rw [isNormal_iff_parts htype hf, List.forall_mem_cons, List.forall_mem_singleton]

/-! ### Walks over elements -/

/-- A walk that rebuilds lists of parts, and gives an opening tag no name and no attribute that it
did not have. -/
structure KeepsElements (walk : Node → Node) : Prop where
  seq : ∀ {n s cs'}, walk n = .mk .seq s cs' → ∃ cs, n = .mk .seq s cs ∧ cs.map walk = cs'
  opening : ∀ {n os b name ts tps' types' attrs'},
    walk n = .opening os b (.mk (.tag name) ts tps') types' attrs' →
      ∃ tps types attrs, n = .opening os b (.mk (.tag name) ts tps) types attrs ∧
        ∀ a' ∈ attrs', ∃ a ∈ attrs, a' = walk a
  attr : ∀ {name a}, isAttr name (walk a) = true → isAttr name a = true

namespace KeepsElements

variable {walk : Node → Node}

theorem not_isAttr (h : KeepsElements walk) {attrs attrs' : List Node}
    (hattrs : ∀ a' ∈ attrs', ∃ a ∈ attrs, a' = walk a)
    (hnone : ∀ a ∈ attrs, isAttr name a = false) : ∀ a' ∈ attrs', isAttr name a' = false := by
  intro a' ha'
  obtain ⟨a, ha, rfl⟩ := hattrs a' ha'
  rw [Bool.eq_false_iff]
  exact fun hname => Bool.eq_false_iff.mp (hnone a ha) (h.attr hname)

/-- Nothing more has to change about an element with other children, as long as there are none where
there were none. -/
theorem isNormalElement_rebuilt (h : KeepsElements walk) {opening : Node} {ss : Option Span}
    {cs cs' : List Node} {closing closing' : Node}
    (hnormal : isNormalElement (.mk .element s [opening, .mk .seq ss cs, closing]) = true)
    (hcs : cs = [] → cs' = []) :
    isNormalElement (.mk .element s [walk opening, .mk .seq ss cs', closing']) = true := by
  rw [isNormalElement_iff] at hnormal ⊢
  intro s' os b name ts tps' types' attrs' children closing'' heq
  simp only [Node.mk.injEq, List.cons.injEq, true_and, and_true] at heq
  obtain ⟨rfl, hopening, ⟨rfl, rfl⟩, rfl⟩ := heq
  obtain ⟨tps, types, attrs, rfl, hattrs⟩ := h.opening hopening
  obtain ⟨hlink, himage'⟩ := hnormal _ _ _ _ _ _ _ _ _ _ rfl
  refine ⟨fun hname => h.not_isAttr hattrs (hlink hname), ?_⟩
  rintro rfl
  obtain ⟨hclosed, hchildren, hpriority⟩ := himage' rfl
  exact ⟨hclosed, hcs hchildren, h.not_isAttr hattrs hpriority⟩

/-- Nothing more has to change about an element when its parts are walked over. -/
theorem isNormalElement_map (h : KeepsElements walk)
    (hnormal : isNormalElement (.mk .element s ps) = true) :
    isNormalElement (.mk .element s (ps.map walk)) = true := by
  cases hknown : KnownComponent.of? (.mk .element s (ps.map walk)) with
  | none => exact isNormalElement_of_none hknown
  | some c =>
    obtain ⟨_, _, _, _, _, _, _, _, heq⟩ := exists_of_known hknown
    obtain ⟨-, -, hps⟩ := Node.mk.inj heq
    obtain ⟨opening, rest, rfl, -, hrest⟩ := List.map_eq_cons_iff.mp hps
    obtain ⟨children, rest, rfl, hseq, hrest⟩ := List.map_eq_cons_iff.mp hrest
    obtain ⟨closing, rfl, -⟩ := List.map_eq_singleton_iff.mp hrest
    obtain ⟨cs, rfl, hcs⟩ := h.seq hseq
    rw [List.map_cons, List.map_cons, List.map_singleton, hseq, ← hcs]
    exact h.isNormalElement_rebuilt hnormal fun hnil => by rw [hnil, List.map_nil]

/-- A node over changed parts is normal if it was and they are. -/
theorem isNormal_map (h : KeepsElements walk) (hnormal : isNormal (.mk f s ps) = true)
    (hparts : ∀ p ∈ ps, isNormal p = true → isNormal (walk p) = true) :
    isNormal (.mk f s (ps.map walk)) = true := by
  by_cases htype : ∃ t, f = .type t
  · obtain ⟨t, rfl⟩ := htype
    exact isNormal_type t s _
  · obtain ⟨hroot, hps⟩ := (isNormal_mk (not_exists.mp htype) s ps).mp hnormal
    have hchanged : ∀ p ∈ ps.map walk, isNormal p = true :=
      List.forall_mem_map.mpr fun p hp => hparts p hp (hps p hp)
    by_cases hf : f = .element
    · obtain rfl := hf
      exact (isNormal_mk (by simp) s _).mpr ⟨h.isNormalElement_map hroot, hchanged⟩
    · exact isNormal_of_parts hf hchanged

end KeepsElements

/-- The parts of an opening tag before a walk that rebuilds names and lists. -/
theorem exists_tag_parts {special : Form → Bool} {walk : Node → Node}
    (hwalk : Rebuilds special walk) (hseq : special .seq = false)
    (htag : ∀ name, special (.tag name) = false) {ts : Option Span} {tps' attrs' : List Node}
    {types' : Node}
    (h : ps.map walk = [.mk (.tag name) ts tps', types', .seq attrs']) :
    ∃ tps types attrs, ps = [.mk (.tag name) ts tps, types, .seq attrs] ∧
      attrs.map walk = attrs' := by
  obtain ⟨tag, rest, rfl, htagged, hrest⟩ := List.map_eq_cons_iff.mp h
  obtain ⟨types, rest, rfl, -, hrest⟩ := List.map_eq_cons_iff.mp hrest
  obtain ⟨attrs, rfl, hattrs⟩ := List.map_eq_singleton_iff.mp hrest
  obtain ⟨tps, rfl, -⟩ := hwalk.of_eq (htag _) htagged
  obtain ⟨attrs, rfl, hmap⟩ := hwalk.of_eq hseq hattrs
  exact ⟨tps, types, attrs, rfl, hmap⟩

/-- A walk that only rebuilds lists of parts, tags and attributes takes nothing from elsewhere. -/
theorem KeepsElements.of_rebuilds {special : Form → Bool} {walk : Node → Node}
    (hwalk : Rebuilds special walk) (hseq : special .seq = false)
    (hopening : ∀ b, special (.opening b) = false) (htag : ∀ name, special (.tag name) = false)
    (hattr : special .attr = false) (hword : ∀ name, special (.word name) = false) :
    KeepsElements walk where
  seq heq := hwalk.of_eq hseq heq
  opening heq := by
    obtain ⟨parts, rfl, hparts⟩ := hwalk.of_eq (hopening _) heq
    obtain ⟨tps, types, attrs, rfl, rfl⟩ := exists_tag_parts hwalk hseq htag hparts
    refine ⟨tps, types, attrs, rfl, fun a' ha' => ?_⟩
    obtain ⟨a, ha, rfl⟩ := List.mem_map.mp ha'
    exact ⟨a, ha, rfl⟩
  attr := by
    intro name a h
    have hkeeps : Keeps (fun f => if special f then .nothing else .whole) walk :=
      hwalk.keeps fun f hf => if_pos hf
    rwa [isAttr, attrName?_walk hkeeps (by simp [hattr]) (by simp [hword]), ← isAttr] at h

/-! ### The shell of a layout -/

theorem keepsElements_shell (isTop : Bool) : KeepsElements (shell isTop) :=
  .of_rebuilds (rebuilds_shell isTop) rfl (fun _ => rfl) (fun _ => rfl) rfl fun _ => rfl

theorem isNormal_outletChild (h : isNormal n = true) : isNormal (outletChild n) = true := by
  rw [outletChild]
  split
  · decide
  · exact h

theorem isNormal_fillHead (hhead : Shape.isElement "head" n = true) (h : isNormal n = true) :
    isNormal (fillHead n) = true := by
  obtain ⟨s, os, b, ts, tps, types, attrs, cs, closing, rfl⟩ := isElement_iff.mp hhead
  have hparts := ((isNormal_mk (by simp) s _).mp h).2
  simp only [List.forall_mem_cons] at hparts
  obtain ⟨hopening, hcs, hclosing, -⟩ := hparts
  rw [isNormal_iff_parts (by simp) (by simp)] at hopening hcs
  refine (isNormal_mk (by simp) s _).mpr ⟨isNormalElement_of_none rfl, ?_⟩
  simp only [List.forall_mem_cons]
  refine ⟨isNormal_of_parts (by simp) hopening, isNormal_of_parts (by simp) ?_, ?_,
    List.forall_mem_nil _⟩
  · exact List.forall_mem_cons.mpr ⟨by decide, hcs⟩
  · split
    · exact isNormal_of_parts (by simp) (by simpa using hopening _ (.head _))
    · exact hclosing

/-- What `addShell` puts among the children of an element is normal. -/
theorem isNormal_addShell {cs : List Node} (h : ∀ c ∈ cs, isNormal c = true) :
    ∀ c ∈ addShell n cs, isNormal c = true := by
  have hadds := adds_addShell n cs
  generalize addShell n cs = cs' at hadds ⊢
  have htext : isNormal (Build.text "\n") = true := by decide
  have hhead : isNormal headElement = true := by decide
  have hscripts : isNormal RouterSymbol.scripts.element = true := by decide
  cases hadds with
  | nothing => exact h
  | contents helement hcs hhead =>
    subst hcs
    simp only [List.forall_mem_append, List.forall_mem_cons] at h ⊢
    exact ⟨h.1, isNormal_fillHead hhead h.2.1, h.2.2⟩
  | head helement hcs =>
    subst hcs
    simp only [List.forall_mem_append, List.forall_mem_cons] at h ⊢
    exact ⟨h.1, htext, hhead, h.2⟩
  | scripts helement hcs =>
    subst hcs
    simp only [List.forall_mem_append, List.forall_mem_cons] at h ⊢
    exact ⟨h.1, h.2.1, htext, hscripts, h.2.2⟩

theorem isNormal_fitChildren (isTop : Bool) {cs : List Node} (h : ∀ c ∈ cs, isNormal c = true) :
    ∀ c ∈ fitChildren isTop n cs, isNormal c = true := by
  unfold fitChildren
  split
  · exact isNormal_addShell h
  · exact h

/-- Where there are no children, none are put in. -/
theorem fitChildren_nil (isTop : Bool) (n : Node) : fitChildren isTop n [] = [] := by
  have hroomless : IsRoomless n [] := ⟨fun _ => by simp, fun _ => by simp⟩
  rw [fitChildren, addShell_of_roomless hroomless, ite_self]

/-- **The shell.**  A normal body is normal with its shell. -/
theorem isNormal_shell (isTop : Bool) (h : isNormal n = true) :
    isNormal (shell isTop n) = true := by
  induction n using Node.induct with
  | mk f s ps ih =>
    cases shell_cases isTop f s ps with
    | type t ps => rwa [shell_type]
    | fragment ps =>
      rw [isNormal_iff_parts (by simp) (by simp)] at h
      rw [shell_fragment]
      refine isNormal_of_parts (by simp) ?_
      simp only [List.forall_mem_map]
      exact fun p hp => isNormal_outletChild (ih p hp (h p hp))
    | element opening ss cs closing =>
      obtain ⟨cs', hcs'⟩ : ∃ cs', cs' = (cs.map (shell isTop)).map outletChild := ⟨_, rfl⟩
      obtain ⟨hroot, hparts⟩ := (isNormal_mk (by simp) s _).mp h
      simp only [List.forall_mem_cons] at ih hparts
      obtain ⟨hopening, hcs, hclosing, -⟩ := hparts
      rw [shell_element isTop s opening ss cs cs' closing hcs']
      have hchanged : ∀ c ∈ cs', isNormal c = true := by
        have hseq := ih.2.1 hcs
        rw [shell_seq, isNormal_iff_parts (by simp) (by simp)] at hseq
        rw [hcs']
        exact List.forall_mem_map.mpr fun c hc => isNormal_outletChild (hseq c hc)
      refine (isNormal_mk (by simp) s _).mpr
        ⟨(keepsElements_shell isTop).isNormalElement_rebuilt hroot ?_, ?_⟩
      · rintro rfl
        rw [show cs' = [] from hcs', fitChildren_nil]
      · simp only [List.forall_mem_cons]
        exact ⟨ih.1 hopening, isNormal_of_parts (by simp) (isNormal_fitChildren isTop hchanged),
          ih.2.2.1 hclosing, List.forall_mem_nil _⟩
    | plain f ps htype hshell =>
      rw [hshell]
      exact (keepsElements_shell isTop).isNormal_map h ih

/-! ### Fonts -/

section Fonts

variable {names removed dropped : NameSet}

/-- The forms of what `blankOut` changes, and of what comes of it. -/
def isBlanked : Form → Bool
  | .type _ | .ref _ | .member | .str _ _ => true
  | _ => false

theorem rebuilds_blankOut (names : NameSet) : Rebuilds isBlanked (blankOut names) := by
  refine Rebuilds.fold (fun f s parts hf => ?_) fun f s parts hf => ?_
  · unfold blankOutStep
    split
    · cases hf
    · cases hf
    · cases hf
    · rfl
  · unfold blankOutStep
    split
    · rfl
    · split <;> rfl
    · split <;> rfl
    · exact hf

theorem keepsElements_blankOut (names : NameSet) : KeepsElements (blankOut names) :=
  .of_rebuilds (rebuilds_blankOut names) rfl (fun _ => rfl) (fun _ => rfl) rfl fun _ => rfl

theorem isNormal_blankOut (h : isNormal n = true) : isNormal (blankOut names n) = true := by
  induction n using Node.induct with
  | mk f s ps ih =>
    rcases @blankOut_cases names f s ps with ⟨-, hsame⟩ | hblank | ⟨-, hparts⟩
    · rwa [hsame]
    · rw [hblank]
      decide
    · rw [hparts]
      exact (keepsElements_blankOut names).isNormal_map h ih

/-- An attribute that is left has the name that it had. -/
theorem attrName?_cleanAttr {a : Node} (h : Shape.attrName? (cleanAttr names a) = some name) :
    Shape.attrName? a = some name := by
  unfold cleanAttr at h
  split at h
  · next s word cs e =>
    split at h
    · have hname : ∀ value, Shape.attrName? (.attr s word value) = some name →
          Shape.attrName? (.attr s word (.container cs e)) = some name := by
        intro value hvalue
        obtain ⟨_, _, _, heq⟩ := attrName?_eq_some.mp hvalue
        cases heq
        rfl
      unfold foldClassName at h
      split at h
      · exact hname _ h
      · dsimp only at h
        split at h
        · cases h
        · exact hname _ h
    · exact h
  · exact h

theorem isNormal_cleanAttr {a : Node} (h : isNormal a = true) :
    isNormal (cleanAttr names a) = true := by
  unfold cleanAttr
  split
  · next s word cs e =>
    obtain ⟨hword, hvalue⟩ := (isNormal_pair_iff (by simp) (by simp)).mp h
    have he : isNormal e = true := (isNormal_iff_parts (by simp) (by simp)).mp hvalue e (.head _)
    split
    · unfold foldClassName
      split
      · have hblank : isNormal (.container cs (blankOut names e)) = true :=
          isNormal_of_parts (by simp) (by simpa using isNormal_blankOut he)
        exact (isNormal_pair_iff (by simp) (by simp)).mpr ⟨hword, hblank⟩
      · dsimp only
        split
        · decide
        · have hstr : ∀ text, isNormal (Build.str text) = true :=
            fun text => isNormal_of_parts (by simp) (by simp)
          exact (isNormal_pair_iff (by simp) (by simp)).mpr ⟨hword, hstr _⟩
    · exact h
  · exact h

/-- What becomes of an opening tag. -/
theorem cleanClassNames_opening_cases (names : NameSet) (b : Bool) (s : Option Span)
    (ps : List Node) :
    cleanClassNames names (.mk (.opening b) s ps) =
        .mk (.opening b) s (ps.map (cleanClassNames names)) ∨
      ∃ tag types ss attrs, ps = [tag, types, .mk .seq ss attrs] ∧
        cleanClassNames names (.mk (.opening b) s ps) = .mk (.opening b) s
          [cleanClassNames names tag, cleanClassNames names types,
            .mk .seq ss (keptAttrs names attrs)] := by
  by_cases hps : ∃ tag types ss attrs, ps = [tag, types, .mk .seq ss attrs]
  · obtain ⟨tag, types, ss, attrs, rfl⟩ := hps
    exact Or.inr ⟨tag, types, ss, attrs, rfl, cleanClassNames_opening b s ss tag types attrs⟩
  · refine Or.inl ?_
    rw [cleanClassNames, Node.fold_mk, ← cleanClassNames]
    unfold cleanStep
    split
    · contradiction
    · contradiction
    · next heq =>
      obtain ⟨tag, rest, rfl, -, hrest⟩ := List.map_eq_cons_iff.mp heq
      obtain ⟨types, rest, rfl, -, hrest⟩ := List.map_eq_cons_iff.mp hrest
      obtain ⟨attrs, rfl, hattrs⟩ := List.map_eq_singleton_iff.mp hrest
      obtain ⟨attrs, rfl, -⟩ := (rebuilds_cleanClassNames names).of_eq rfl (Prod.mk.inj hattrs).2
      exact absurd ⟨_, _, _, _, rfl⟩ hps
    · rw [Node.map_snd_walk]

theorem keepsElements_cleanClassNames (names : NameSet) :
    KeepsElements (cleanClassNames names) where
  seq heq := (rebuilds_cleanClassNames names).of_eq rfl heq
  opening {n os b tag ts tps' types' attrs'} heq := by
    have hwalk := rebuilds_cleanClassNames names
    have hform : n.form = .opening b := form_of_form_clean (by simp) (congrArg Node.form heq)
    obtain ⟨f, s, ps⟩ := n
    obtain rfl : f = .opening b := hform
    rcases cleanClassNames_opening_cases names b s ps with hsame | ⟨_, types, ss, attrs, rfl, hkept⟩
    · rw [hsame] at heq
      obtain ⟨-, rfl, hps⟩ := Node.mk.inj heq
      obtain ⟨tps, types, attrs, rfl, rfl⟩ := exists_tag_parts hwalk rfl (fun _ => rfl) hps
      refine ⟨tps, types, attrs, rfl, fun a' ha' => ?_⟩
      obtain ⟨a, ha, rfl⟩ := List.mem_map.mp ha'
      exact ⟨a, ha, rfl⟩
    · rw [hkept] at heq
      simp only [Node.mk.injEq, List.cons.injEq, true_and, and_true] at heq
      obtain ⟨rfl, htagged, -, rfl, rfl⟩ := heq
      obtain ⟨tps, rfl, -⟩ := hwalk.of_eq rfl htagged
      refine ⟨_, _, _, rfl, fun a' ha' => ?_⟩
      obtain ⟨a, ha, rfl⟩ := List.mem_map.mp (List.mem_of_mem_filter ha')
      exact ⟨a, ha, rfl⟩
  attr {tag a} h := by
    have hwalk := rebuilds_cleanClassNames names
    rw [isAttr_iff] at h ⊢
    obtain ⟨_, _, _, heq⟩ := attrName?_eq_some.mp h
    have hform : a.form = .attr := form_of_form_clean (by simp) (congrArg Node.form heq)
    obtain ⟨f, s, ps⟩ := a
    obtain rfl : f = .attr := hform
    rw [cleanClassNames_attr] at h
    obtain ⟨_, _, _, heq⟩ := attrName?_eq_some.mp (attrName?_cleanAttr h)
    obtain ⟨-, rfl, hps⟩ := Node.mk.inj heq
    obtain ⟨word, rest, rfl, hword, hrest⟩ := List.map_eq_cons_iff.mp hps
    obtain ⟨value, rfl, -⟩ := List.map_eq_singleton_iff.mp hrest
    obtain ⟨_, rfl, hnil⟩ := hwalk.of_eq rfl hword
    obtain rfl := List.map_eq_nil_iff.mp hnil
    rfl

/-- **Fonts.**  A normal tree is normal without references to fonts. -/
theorem isNormal_cleanClassNames (h : isNormal n = true) :
    isNormal (cleanClassNames names n) = true := by
  induction n using Node.induct with
  | mk f s ps ih =>
    have hmap := (keepsElements_cleanClassNames names).isNormal_map h ih
    by_cases htype : ∃ t, f = .type t
    · obtain ⟨t, rfl⟩ := htype
      rwa [cleanClassNames_type]
    · by_cases hattr : f = .attr
      · obtain rfl := hattr
        rw [cleanClassNames_attr]
        exact isNormal_cleanAttr hmap
      · by_cases hopening : ∃ b, f = .opening b
        · obtain ⟨b, rfl⟩ := hopening
          rcases cleanClassNames_opening_cases names b s ps with
            hsame | ⟨tag, types, ss, attrs, rfl, hkept⟩
          · rwa [hsame]
          · rw [hkept]
            rw [isNormal_iff_parts (by simp) (by simp)] at hmap
            simp only [List.map_cons, List.map_nil, List.forall_mem_cons] at hmap
            obtain ⟨htag, htypes, hattrs, -⟩ := hmap
            rw [(rebuilds_cleanClassNames names).plain ss attrs rfl,
              isNormal_iff_parts (by simp) (by simp)] at hattrs
            have hleft : isNormal (.mk .seq ss (keptAttrs names attrs)) = true :=
              isNormal_of_parts (by simp) fun a ha => hattrs a (List.mem_of_mem_filter ha)
            exact isNormal_of_parts (by simp) (by simpa using ⟨htag, htypes, hleft⟩)
        · rwa [cleanClassNames_mk (not_exists.mp htype) hattr (not_exists.mp hopening)]

theorem isNormal_dropDeclarators {item : Node} (h : isNormal item = true) :
    ∀ n ∈ dropDeclarators removed item, isNormal n = true := by
  unfold dropDeclarators
  split
  · next kind isDeclare vs ds =>
    rw [isNormal_iff_parts (by simp) (by simp)] at h
    have hkept : isNormal (.varDecl vs kind isDeclare (ds.filter (!Reference.declares removed ·))) =
        true := isNormal_of_parts (by simp) fun d hd => h d (List.mem_of_mem_filter hd)
    split
    · dsimp only
      split
      · simp
      · simpa using hkept
    · simpa [isNormal_iff_parts] using h
  · simpa using h

theorem isNormal_dropSpecifiers {item : Node} (h : isNormal item = true) :
    ∀ n ∈ dropSpecifiers dropped item, isNormal n = true := by
  unfold dropSpecifiers
  split
  · next isTypeOnly phase s specifiers source raw ss attributes =>
    split
    · dsimp only
      split
      · simp
      · have hparts := (isNormal_iff_parts (by simp) (by simp)).mp h
        simp only [List.forall_mem_cons] at hparts
        obtain ⟨hspecifiers, hsource, hattributes, -⟩ := hparts
        rw [isNormal_iff_parts (by simp) (by simp)] at hspecifiers
        have hkept : isNormal (.seq (specifiers.filter fun sp =>
            !((localName? sp).map dropped.contains).getD false)) = true :=
          isNormal_of_parts (by simp) fun sp hsp => hspecifiers sp (List.mem_of_mem_filter hsp)
        rw [List.forall_mem_singleton]
        exact isNormal_of_parts (by simp) (by simpa using ⟨hkept, hsource, hattributes⟩)
    · simpa using h
  · simpa using h

theorem isNormal_fontless {item : Node} (h : isNormal item = true) :
    ∀ n ∈ fontless removed dropped item, isNormal n = true := by
  have hcleaned : ∀ n ∈ (dropDeclarators removed item).map (cleanClassNames removed),
      isNormal n = true :=
    List.forall_mem_map.mpr fun n hn => isNormal_cleanClassNames (isNormal_dropDeclarators h n hn)
  unfold fontless
  dsimp only
  split
  · exact hcleaned
  · intro n hn
    obtain ⟨item', hitem', hn⟩ := List.mem_flatMap.mp hn
    exact isNormal_dropSpecifiers (hcleaned item' hitem') n hn

theorem isNormal_eliminateFonts (h : ∀ item ∈ items, isNormal item = true) (s : State) :
    ∀ item ∈ (eliminateFonts items s).items, isNormal item = true := by
  rcases eliminateFonts_cases items s with hsame | hall
  · rwa [hsame]
  · rw [hall]
    intro n hn
    obtain ⟨item, hitem, hn⟩ := List.mem_flatMap.mp hn
    exact isNormal_fontless (h item hitem) n hn

end Fonts

/-! ### The component of a layout -/

namespace Component

/-- A component with a normal body can be put back, and with a new normal body as well. -/
def IsNormal (c : Component) : Prop :=
  isNormal c.body = true ∧ ∀ body, isNormal body = true → isNormal (c.withBody body) = true

variable {c : Component} {around : Node → Node}

theorem isNormal_of_ofFunction? {f : Node} (h : ofFunction? around f = some c)
    (hf : isNormal f = true)
    (haround : ∀ f, isNormal f = true → isNormal (around f) = true) : c.IsNormal := by
  unfold ofFunction? at h
  split at h
  · cases h
    rw [isNormal_iff_parts (by simp) (by simp)] at hf
    simp only [List.forall_mem_cons] at hf
    obtain ⟨htypes, -, hresult, hbody, -⟩ := hf
    refine ⟨hbody, fun body hnew => haround _ (isNormal_of_parts (by simp) ?_)⟩
    simpa using ⟨htypes, by decide, hresult, hnew⟩
  · cases h

theorem isNormal_of_ofArrow? {e : Node} (h : ofArrow? around e = some c)
    (he : isNormal e = true)
    (haround : ∀ e, isNormal e = true → isNormal (around e) = true) : c.IsNormal := by
  unfold ofArrow? at h
  split at h
  · cases h
    rw [isNormal_iff_parts (by simp) (by simp)] at he
    simp only [List.forall_mem_cons] at he
    obtain ⟨htypes, -, hresult, hbody, -⟩ := he
    refine ⟨hbody, fun body hnew => haround _ (isNormal_of_parts (by simp) ?_)⟩
    simpa using ⟨htypes, by decide, hresult, hnew⟩
  · cases h

theorem isNormal_of_ofValue? {v : Node} (h : ofValue? around v = some c) (hv : isNormal v = true)
    (haround : ∀ v, isNormal v = true → isNormal (around v) = true) : c.IsNormal := by
  unfold ofValue? at h
  split at h
  · obtain ⟨hname, hf⟩ := (isNormal_pair_iff (by simp) (by simp)).mp hv
    exact isNormal_of_ofFunction? h hf fun f hf =>
      haround _ ((isNormal_pair_iff (by simp) (by simp)).mpr ⟨hname, hf⟩)
  · rw [isNormal_iff_parts (by simp) (by simp), List.forall_mem_singleton] at hv
    exact isNormal_of_ofArrow? h hv fun e he =>
      haround _ (isNormal_of_parts (by simp) (by simpa using he))
  · exact isNormal_of_ofArrow? h hv haround

theorem isNormal_of_ofDeclarators? {ds : List Node} : ∀ {around : List Node → Node},
    ofDeclarators? name around ds = some c → (∀ d ∈ ds, isNormal d = true) →
    (∀ ds, (∀ d ∈ ds, isNormal d = true) → isNormal (around ds) = true) → c.IsNormal := by
  induction ds with
  | nil =>
    intro around h
    cases h
  | cons d ds ih =>
    intro around h hds haround
    rw [List.forall_mem_cons] at hds
    unfold ofDeclarators? at h
    split at h
    · split at h
      · obtain ⟨hpattern, hvalue⟩ := (isNormal_pair_iff (by simp) (by simp)).mp hds.1
        refine isNormal_of_ofValue? h hvalue fun v hv => haround _ ?_
        exact List.forall_mem_cons.mpr
          ⟨(isNormal_pair_iff (by simp) (by simp)).mpr ⟨hpattern, hv⟩, hds.2⟩
      · cases h
    · exact ih h hds.2 fun ds' hds' => haround _ (List.forall_mem_cons.mpr ⟨hds.1, hds'⟩)

theorem isNormal_of_ofDeclaration? {d : Node} (h : ofDeclaration? name around d = some c)
    (hd : isNormal d = true)
    (haround : ∀ d, isNormal d = true → isNormal (around d) = true) : c.IsNormal := by
  unfold ofDeclaration? at h
  split at h
  · split at h
    · obtain ⟨hname, hf⟩ := (isNormal_pair_iff (by simp) (by simp)).mp hd
      exact isNormal_of_ofFunction? h hf fun f hf =>
        haround _ ((isNormal_pair_iff (by simp) (by simp)).mpr ⟨hname, hf⟩)
    · cases h
  · split at h
    · rw [isNormal_iff_parts (by simp) (by simp)] at hd
      exact isNormal_of_ofDeclarators? h hd fun ds hds =>
        haround _ (isNormal_of_parts (by simp) hds)
    · cases h
  · cases h

theorem isNormal_of_ofItem? {item : Node} (h : ofItem? name item = some c)
    (hitem : isNormal item = true) : c.IsNormal := by
  unfold ofItem? at h
  split at h
  · rw [isNormal_iff_parts (by simp) (by simp), List.forall_mem_singleton] at hitem
    exact isNormal_of_ofDeclaration? h hitem fun d hd =>
      isNormal_of_parts (by simp) (by simpa using hd)
  · exact isNormal_of_ofDeclaration? h hitem fun d hd => hd

end Component

/-- A layout stays normal when it gets its shell. -/
theorem isNormal_fitShell (h : ∀ item ∈ items, isNormal item = true) (s : State) :
    ∀ item ∈ (fitShell items s).items, isNormal item = true := by
  unfold fitShell
  dsimp only
  split
  · exact h
  · next before c after hfind =>
    obtain ⟨item, rfl, hitem⟩ := Component.exists_of_find? hfind
    rw [List.forall_mem_append, List.forall_mem_cons] at h ⊢
    obtain ⟨hbody, hwith⟩ := Component.isNormal_of_ofItem? hitem h.2.1
    exact ⟨h.1, hwith _ (isNormal_shell _ hbody), h.2.2⟩

/-! ### The registration -/

theorem isNormal_unwrapped (h : isNormal n = true) : isNormal (Shape.unwrapped n) = true := by
  induction n using Node.induct with
  | mk f s ps ih =>
    rw [unwrapped_mk]
    split
    · next e he =>
      have hf : f ≠ .element := by
        rintro rfl
        cases he
      have htype : ∀ t, f ≠ .type t := by
        rintro t rfl
        cases he
      have hmem := mem_of_wrapped? he
      exact ih e hmem ((isNormal_iff_parts htype hf).mp h e hmem)
    · exact h

/-- Metadata is normal where it is declared. -/
theorem isNormal_of_metadataOf? {d : Node} {properties : List Node}
    (h : Shape.metadataOf? d = some properties) (hd : isNormal d = true) :
    ∀ p ∈ properties, isNormal p = true := by
  unfold Shape.metadataOf? at h
  split at h
  · obtain ⟨value, hvalue, hproperties⟩ := Option.bind_eq_some_iff.mp h
    have hnormal : isNormal value = true := by
      unfold Shape.value? at hvalue
      split at hvalue
      · cases hvalue
      · cases hvalue
        exact ((isNormal_pair_iff (by simp) (by simp)).mp hd).2
      · cases hvalue
    have hobject := isNormal_unwrapped hnormal
    unfold Shape.objectProperties? at hproperties
    split at hproperties
    · next heq =>
      cases hproperties
      rwa [heq, isNormal_iff_parts (by simp) (by simp)] at hobject
    · cases hproperties
  · cases h

theorem isNormal_ofKey (key : String) (h : isNormal n = true) :
    isNormal (MetaTag.ofKey key n).toNode = true := by
  unfold MetaTag.ofKey
  split
  · simp [MetaTag.toNode, Build.object, Build.keyValue, isNormal_iff_parts, h]
  · simp [MetaTag.toNode, Build.object, Build.keyValue, Build.str, isNormal_iff_parts, h]

/-- The entries that normal metadata spells are normal. -/
theorem isNormal_ofProperties (h : ∀ p ∈ ps, isNormal p = true) :
    ∀ tag ∈ MetaTag.ofProperties ps, isNormal tag.toNode = true := by
  intro tag htag
  obtain ⟨p, hp, hentry⟩ := List.mem_filterMap.mp htag
  have hnormal := h p hp
  unfold MetaTag.ofProperty? at hentry
  split at hentry
  · cases hentry
    exact isNormal_ofKey _ ((isNormal_pair_iff (by simp) (by simp)).mp hnormal).2
  · cases hentry
    exact isNormal_ofKey _ ((isNormal_pair_iff (by simp) (by simp)).mp hnormal).2
  · cases hentry
    exact isNormal_ofKey _ (isNormal_of_parts (by simp) (by simp))
  · cases hentry

theorem isNormal_declarators {vs : Option Span} {kind : VarKind} {isDeclare : Bool}
    (h : isNormal (.exportDecl s (.varDecl vs kind isDeclare ps)) = true) :
    ∀ d ∈ ps, isNormal d = true := by
  rwa [isNormal_iff_parts (by simp) (by simp), List.forall_mem_singleton,
    isNormal_iff_parts (by simp) (by simp)] at h

/-- What is taken out of a normal module, and what is left of it, is normal. -/
theorem Extracted.isNormal {kind : ModuleKind} {taken : TakenMetadata}
    (h : Extracted kind items taken) (hitems : ∀ item ∈ items, isNormal item = true) :
    (∀ tag ∈ taken.tags, isNormal tag.toNode = true) ∧
      ∀ item ∈ taken.items, isNormal item = true := by
  cases h with
  | nothing => exact ⟨by simp, hitems⟩
  | statement hkind heq hbefore hvar hmetadata =>
    subst heq
    rw [List.forall_mem_append, List.forall_mem_cons] at hitems
    obtain ⟨hbefore, hstatement, hafter⟩ := hitems
    have hd := isNormal_declarators hstatement
    rw [List.forall_mem_singleton] at hd
    exact ⟨isNormal_ofProperties (isNormal_of_metadataOf? hmetadata hd),
      List.forall_mem_append.mpr ⟨hbefore, hafter⟩⟩
  | declarator hkind heq hbefore hvar hds hmetadata =>
    subst heq
    rw [List.forall_mem_append, List.forall_mem_cons] at hitems
    obtain ⟨hbefore, hstatement, hafter⟩ := hitems
    have hds := isNormal_declarators hstatement
    rw [List.forall_mem_append, List.forall_mem_cons] at hds
    obtain ⟨hds, hd, hds'⟩ := hds
    refine ⟨isNormal_ofProperties (isNormal_of_metadataOf? hmetadata hd), ?_⟩
    rw [List.forall_mem_append, List.forall_mem_cons]
    refine ⟨hbefore, isNormal_of_parts (by simp) ?_, hafter⟩
    rw [List.forall_mem_singleton]
    exact isNormal_of_parts (by simp) (List.forall_mem_append.mpr ⟨hds, hds'⟩)

/-- The head of a route is normal if its entries are. -/
theorem isNormal_head {h : Head} (htags : ∀ tag ∈ h.tags, isNormal tag.toNode = true) :
    isNormal h.toNode = true := by
  obtain ⟨tags, stylesheets⟩ := h
  cases stylesheets with
  | none =>
    simpa [Head.toNode, Build.thunk, Build.object, Build.keyValue, Build.array, Node.form,
      isNormal_iff_parts] using htags
  | some bindings =>
    have hlink : ∀ binding, isNormal (stylesheetLink binding) = true := fun binding => by
      simp [stylesheetLink, Build.object, Build.keyValue, Build.ref, Build.str, isNormal_iff_parts]
    simpa [Head.toNode, Build.thunk, Build.object, Build.keyValue, Build.array, Node.form,
      isNormal_iff_parts, hlink] using htags

theorem isNormal_properties {r : Registration} (h : ∀ head, r.head = some head →
    ∀ tag ∈ head.tags, isNormal tag.toNode = true) : ∀ p ∈ r.properties, isNormal p = true := by
  obtain ⟨factory, head, component, handlers⟩ := r
  unfold Registration.properties
  simp only [List.forall_mem_append]
  refine ⟨⟨?_, ?_⟩, ?_⟩
  · cases head with
    | none => simp
    | some head => simp [Build.keyValue, isNormal_iff_parts, isNormal_head (h head rfl)]
  · cases component with
    | none => simp
    | some c => simp [Build.keyValue, Build.ref, isNormal_iff_parts]
  · cases handlers with
    | none => simp
    | some names => simp [Build.keyValue, Build.object, isNormal_iff_parts]

theorem isNormal_item {r : Registration} (h : ∀ head, r.head = some head →
    ∀ tag ∈ head.tags, isNormal tag.toNode = true) : isNormal r.item = true := by
  have hproperties := isNormal_properties h
  have hcall : isNormal r.call = true := by
    unfold Registration.call
    generalize r.properties = ps at hproperties
    cases r.factory with
    | file path =>
      simpa [Build.call, Build.ref, Build.str, Build.object, isNormal_iff_parts] using hproperties
    | root => simpa [Build.call, Build.ref, Build.object, isNormal_iff_parts] using hproperties
  simpa [Registration.item, Build.exported, Build.constDecl, isNormal_iff_parts] using hcall

/-- The registration of normal metadata is normal. -/
theorem isNormal_registration (s : State) {tags : List MetaTag}
    (h : ∀ tag ∈ tags, isNormal tag.toNode = true) :
    isNormal (registration s tags).item = true := by
  have hhead : ∀ head, (registration s tags).head = some head →
      ∀ tag ∈ head.tags, isNormal tag.toNode = true := by
    intro head hhead
    unfold registration at hhead
    dsimp only at hhead
    split at hhead
    · cases hhead
    · split at hhead
      · cases hhead
        exact List.forall_mem_append.mpr ⟨by decide, h⟩
      · cases hhead
        exact h
  exact isNormal_item hhead

theorem isNormal_registerRoute {s : State} (hkind : s.options.kind ≠ .api)
    (h : ∀ item ∈ items, isNormal item = true) :
    ∀ item ∈ (registerRoute items s).items, isNormal item = true := by
  obtain ⟨taken, htaken, hplaced⟩ := items_registerRoute items s
  obtain ⟨htags, hleft⟩ := htaken.isNormal h
  rw [if_neg hkind] at hplaced
  intro item hitem
  have hmem := hplaced.perm.subset hitem
  rw [List.take_append_drop, List.mem_cons] at hmem
  rcases hmem with rfl | hmem
  · exact isNormal_registration s htags
  · exact hleft item hmem

/-! ### All the steps -/

/-- **The elements of a page.**  In a migrated page, layout, loading or error component every item
is normal. -/
theorem isNormal_migrate {o : Options} (hkind : o.kind ≠ .api) (m : Module) :
    ∀ item ∈ (migrate o m).module.items, isNormal item = true := by
  have hprepared : ∀ item ∈ (prepared o m).items, isNormal item = true := by
    have hnormalized : ∀ t : Step, ∀ item ∈ (t.next .normalizeElements).items,
        isNormal item = true :=
      fun t => List.forall_mem_map.mpr fun item _ => isNormal_normalize item
    rw [prepared_eq, betweenPasses]
    generalize boundStep o m = t
    split
    · exact isNormal_fitShell (hnormalized _) _
    · exact hnormalized _
  have hoptions : (prepared o m).state.options.kind ≠ .api := by
    rwa [options_prepared]
  obtain ⟨-, hitems⟩ := migrate_of_page hkind m
  have hregistered := isNormal_registerRoute hoptions hprepared
  rw [hitems]
  split
  · exact isNormal_eliminateFonts hregistered _
  · exact hregistered

end RouteMigration.Migration
