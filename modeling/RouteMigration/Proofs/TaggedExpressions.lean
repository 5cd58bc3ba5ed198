import RouteMigration.Grammar.Expression
import RouteMigration.Proofs.TaggedTypes

/-!
# The tags in elements, classes and expressions

Here the elements are built.  The name in their tags is read as a plain one, or with a colon or
dots, and only the latter has parts.  A self-closing element is built without a closing tag.

## Main Definitions

* `IsPlainTag` — a name in a tag has no parts, unless it has a colon or a dot

## Main Statements

* `isPlainTag_of_elementName` — so have the names that are read
* `yieldsTagged_element` — an element has its tags
* `yieldsTagged_classTail`, `yieldsTagged_assignment`, ... — the other rules keep them
-/

namespace RouteMigration.Grammar

open Parse Migration

/-! ### Elements -/

@[grind ←] theorem yieldsTagged_namespaced {plain : String → Form}
    (hplain : ∀ text, plain text ≠ .element) : (namespaced plain).YieldsTagged := by
  unfold namespaced
  grind

/-- The name in a tag has no parts, unless it has a colon or a dot. -/
def IsPlainTag (n : Node) : Prop := ∀ text, n.form = .tag text → n.parts = []

theorem isPlainTag_of_namespaced {c c' : Cursor} {n : Node}
    (h : (namespaced .tag).Finds c n c') : IsPlainTag n := by
  unfold namespaced at h
  simp only [finds_bind, finds_ite, finds_node, finds_pure] at h
  grind [IsPlainTag, Node.form, Node.parts]

@[grind .] theorem yieldsTagged_elementName : elementName.YieldsTagged := by
  unfold elementName
  refine yieldsTagged_step fun start _ => yieldsTagged_step fun first hfirst => ?_
  refine yieldsTagged_iterate (fun left hleft c => ?_) (by grind)
  simp only [yieldsAt_bind]
  grind

theorem isPlainTag_of_elementName {n : Node} (h : ∃ c c', elementName.Finds c n c') :
    IsPlainTag n := by
  obtain ⟨c, c', h⟩ := h
  unfold elementName at h
  obtain ⟨start, c₁, -, h⟩ := finds_bind.mp h
  obtain ⟨first, c₂, hfirst, h⟩ := finds_bind.mp h
  refine Finds.of_iterate (fun left c b c' _ hb => ?_) (isPlainTag_of_namespaced hfirst) h
  simp only [finds_bind, finds_ite, finds_node, finds_pure] at hb
  grind [IsPlainTag, Node.form]

/-- An element has its tags if its name is one that is read, and a closing tag stands only behind
an opening one. -/
@[grind ←] theorem areTagged_element {s os : Option Span} {isSelfClosing : Bool}
    {name types attributes children closing : Node} (hname : IsPlainTag name)
    (hclosing : isSelfClosing = true → closing = .absent)
    (hparts : AreTagged
      [.mk (.opening isSelfClosing) os [name, types, attributes], children, closing]) :
    AreTagged (Node.mk .element s
      [.mk (.opening isSelfClosing) os [name, types, attributes], children, closing]) := by
  refine Node.isTagged_mk_iff.mpr ⟨?_, hparts⟩
  unfold hasTags
  split
  · next text _ ps _ _ _ _ heq =>
    simp only [Node.mk.injEq, Form.opening.injEq, List.cons.injEq, true_and] at heq
    obtain ⟨-, ⟨rfl, -, rfl, -⟩, -, rfl, -⟩ := heq
    have hps : ps = [] := hname text rfl
    cases isSelfClosing with
    | false => simp [hps]
    | true => simp [hps, hclosing rfl, Node.form, Node.parts]
  · rfl

@[grind .] theorem yieldsTagged_emptyContainer (start : Nat) :
    (emptyContainer start).YieldsTagged := by
  unfold emptyContainer
  grind

@[grind .] theorem yieldsTagged_childText : childText.YieldsTagged := by
  unfold childText
  grind

section

variable {rec : Goal → Parse Node} (hrec : ∀ g, (rec g).YieldsTagged)

include hrec

@[grind ←] theorem yieldsTagged_insideBraces (g : Goal) : (insideBraces rec g).YieldsTagged := by
  unfold insideBraces
  grind

@[grind ←] theorem yieldsTagged_attributeContainer : (attributeContainer rec).YieldsTagged := by
  unfold attributeContainer
  grind

@[grind ←] theorem yieldsTagged_attributeValue : (attributeValue rec).YieldsTagged := by
  unfold attributeValue
  grind

@[grind ←] theorem yieldsTagged_elementAttribute : (elementAttribute rec).YieldsTagged := by
  unfold elementAttribute
  grind

@[grind ←] theorem yieldsTagged_childContainer : (childContainer rec).YieldsTagged := by
  unfold childContainer
  grind

@[grind ←] theorem yieldsTagged_child : (child rec).YieldsTagged := by
  unfold child
  grind

@[grind ←] theorem yieldsTagged_elementAttributes : (elementAttributes rec).YieldsTagged := by
  unfold elementAttributes
  grind

@[grind ←] theorem yieldsTagged_element : (element rec).YieldsTagged := by
  unfold element
  -- A fragment, a self-closing element, and one with a closing tag.
  refine yieldsTagged_step fun start _ => yieldsTagged_step fun _ _ =>
    yieldsTagged_step fun isFragment _ => ?_
  split
  · refine yieldsTagged_step fun children _ => ?_
    grind
  refine yieldsTagged_step fun name hname => yieldsTagged_step fun types _ =>
    yieldsTagged_step fun attributes _ => yieldsTagged_step fun isSelfClosing _ => ?_
  have hplain := isPlainTag_of_elementName hname
  split
  · grind
  refine yieldsTagged_step fun _ _ => yieldsTagged_step fun tag htag =>
    yieldsTagged_step fun children _ => ?_
  grind

end

/-! ### Classes -/

@[grind .] theorem yieldsTagged_wordKey? (text : String) : (wordKey? text).YieldsTagged := by
  unfold wordKey?
  grind

section

variable {rec : Goal → Parse Node} (hrec : ∀ g, (rec g).YieldsTagged)

include hrec

@[grind ←] theorem yieldsTagged_heritage : (heritage rec).YieldsTagged := by
  unfold heritage
  grind

@[grind ←] theorem yieldsTagged_heritageList : (heritageList rec).YieldsTagged := by
  unfold heritageList
  grind

@[grind ←] theorem yieldsTagged_constructorParameter : (constructorParameter rec).YieldsTagged := by
  unfold constructorParameter
  grind

omit hrec in
@[grind ←] theorem areTagged_placedInConstructor {p : Node} (h : AreTagged p) :
    AreTagged (placedInConstructor p) := by
  unfold placedInConstructor
  grind

@[grind ←] theorem yieldsTagged_methodAfterKey (start : Nat) (kind : MethodKind)
    (isAsync isGenerator : Bool) (m : Modifiers) {key : Node} {list : Parse (List Node)}
    (hkey : AreTagged key) (hlist : list.YieldsTagged) :
    (methodAfterKey rec start kind isAsync isGenerator m key list).YieldsTagged := by
  unfold methodAfterKey
  grind

@[grind ←] theorem yieldsTagged_fieldAfterKey (start : Nat) (isAccessor : Bool) (m : Modifiers)
    {key : Node} (hkey : AreTagged key) :
    (fieldAfterKey rec start isAccessor m key).YieldsTagged := by
  unfold fieldAfterKey
  -- The checks of the modifiers come first; `marked` is the rest, and `typed` the field from its
  -- type on.
  extract_lets _ typed marked
  have htyped (isDefinite) : (typed isDefinite).YieldsTagged := by
    refine yieldsTagged_step fun type _ => yieldsTagged_step fun hasValue _ => ?_
    extract_lets _ valued
    have hvalued (value) (h : AreTagged value) : (valued value).YieldsTagged := by grind
    clear_value valued
    grind
  clear_value typed
  have hmarked (u) : (marked u).YieldsTagged := by grind
  clear_value marked
  grind

@[grind ←] theorem yieldsTagged_constructorAfterKey (start : Nat) (m : Modifiers) :
    (constructorAfterKey rec start m).YieldsTagged := by
  unfold constructorAfterKey
  -- Types and a result that a constructor cannot have are read and dropped, before the parameters
  -- are `listed` and after it is `answered`.
  extract_lets listed
  have hlisted (u) : (listed u).YieldsTagged := by
    refine yieldsTagged_step fun params _ => yieldsTagged_step fun _ _ =>
      yieldsTagged_step fun _ _ => ?_
    extract_lets answered
    have hanswered (u) : (answered u).YieldsTagged := by
      refine yieldsTagged_step fun body _ => yieldsTagged_step fun n _ => ?_
      extract_lets _ last
      have hlast (u) : (last u).YieldsTagged := by grind
      clear_value last
      grind
    clear_value answered
    grind
  clear_value listed
  grind

@[grind ←] theorem yieldsTagged_memberNamed? (start : Nat) (mayEndLine : Bool) (m : Modifiers)
    {key : Node} (hkey : AreTagged key) :
    (memberNamed? rec start mayEndLine m key).YieldsTagged := by
  unfold memberNamed?
  grind

@[grind ←] theorem yieldsTagged_staticBlock (start : Nat) (isModified : Bool) :
    (staticBlock rec start isModified).YieldsTagged := by
  unfold staticBlock
  grind

@[grind ←] theorem yieldsTagged_accessorMember (start : Nat) (kind : MethodKind) (m : Modifiers) :
    (accessorMember rec start kind m).YieldsTagged := by
  unfold accessorMember
  grind

@[grind ←] theorem yieldsTagged_asyncMember (start : Nat) (m : Modifiers) :
    (asyncMember rec start m).YieldsTagged := by
  unfold asyncMember
  refine yieldsTagged_step fun isGenerator _ => yieldsTagged_step fun key _ => ?_
  extract_lets method
  have hmethod (isOptional) : (method isOptional).YieldsTagged := by grind
  clear_value method
  grind

@[grind ←] theorem yieldsTagged_generatorMember (start : Nat) (m : Modifiers) :
    (generatorMember rec start m).YieldsTagged := by
  unfold generatorMember
  grind

@[grind ←] theorem yieldsTagged_keyMember (start : Nat) (isAccessor : Bool) (m : Modifiers) :
    (keyMember rec start isAccessor m).YieldsTagged := by
  unfold keyMember
  -- What follows the key does not depend on whether the key is the word `readonly`.
  refine yieldsTagged_step fun _ _ => yieldsTagged_step fun _ _ => ?_
  extract_lets keyed
  have hkeyed (key) (h : AreTagged key) : (keyed key).YieldsTagged := by
    refine yieldsTagged_step fun _ _ => ?_
    extract_lets _ marked
    have hmarked (isOptional) : (marked isOptional).YieldsTagged := by
      refine yieldsTagged_step fun isMethod _ => ?_
      split
      · grind
      refine yieldsTagged_step fun _ _ => yieldsTagged_step fun _ _ =>
        yieldsTagged_step fun _ _ => yieldsTagged_step fun _ _ => ?_
      grind
    clear_value marked
    grind
  clear_value keyed
  grind

@[grind ←] theorem yieldsTagged_modifiedMember (hasBase : Bool) (start : Nat) (isAccessor : Bool)
    (m : Modifiers) : (modifiedMember rec hasBase start isAccessor m).YieldsTagged := by
  unfold modifiedMember
  refine yieldsTagged_step fun m' _ => yieldsTagged_step fun _ _ => ?_
  extract_lets member
  have hmember (isAccessor) : (member isAccessor).YieldsTagged := by
    unfold member
    intro c
    simp only [yieldsAt_bind]
    grind
  clear_value member
  grind

@[grind ←] theorem yieldsTagged_accessorField (hasBase : Bool) (start : Nat) (m : Modifiers) :
    (accessorField rec hasBase start m).YieldsTagged := by
  unfold accessorField
  grind

@[grind ←] theorem yieldsTagged_staticMember (hasBase : Bool) (start : Nat) (m : Modifiers) :
    (staticMember rec hasBase start m).YieldsTagged := by
  unfold staticMember
  grind

@[grind ←] theorem yieldsTagged_classMember (hasBase : Bool) :
    (classMember rec hasBase).YieldsTagged := by
  unfold classMember
  -- The word `declare` may stand before or after the word that says who may use the member.
  refine yieldsTagged_step fun start _ => yieldsTagged_step fun isEmpty _ => ?_
  split
  · grind
  refine yieldsTagged_step fun hasDecorator _ => ?_
  split
  · grind
  refine yieldsTagged_step fun _ _ => ?_
  extract_lets opened
  have hopened (first) (h : AreTagged first) : (opened first).YieldsTagged := by
    refine yieldsTagged_step fun access _ => yieldsTagged_step fun _ _ => ?_
    extract_lets declared
    have hdeclared (second) (h : AreTagged second) : (declared second).YieldsTagged := by
      have hor := areTagged_or h ‹AreTagged first›
      grind
    clear_value declared
    grind
  clear_value opened
  grind

@[grind ←] theorem yieldsTagged_baseClass : (baseClass rec).YieldsTagged := by
  unfold baseClass
  grind

@[grind ←] theorem yieldsTagged_optionalBase : (optionalBase rec).YieldsTagged := by
  unfold optionalBase
  grind

@[grind ←] theorem yieldsTagged_repeatedBase {base : Node × Node} (hbase : AreTagged base) :
    (repeatedBase rec base).YieldsTagged := by
  unfold repeatedBase
  grind

@[grind ←] theorem yieldsTagged_interfaces : (interfaces rec).YieldsTagged := by
  unfold interfaces
  grind

@[grind ←] theorem yieldsTagged_classTail (start : Nat) (isAbstract : Bool) :
    (classTail rec start isAbstract).YieldsTagged := by
  unfold classTail
  -- Only the first base and the interfaces named first are kept; those named again are read too.
  refine yieldsTagged_step fun types _ => yieldsTagged_step fun base _ =>
    yieldsTagged_step fun _ _ => yieldsTagged_step fun named _ =>
    yieldsTagged_step fun _ _ => yieldsTagged_step fun _ _ => ?_
  extract_lets based headed
  have hbased (b) (h : AreTagged b) : (based b).YieldsTagged := by
    refine yieldsTagged_step fun _ _ => yieldsTagged_step fun members _ =>
      yieldsTagged_step fun _ _ => yieldsTagged_step fun _ _ => ?_
    extract_lets whole counted
    have hwhole (u) : (whole u).YieldsTagged := by grind
    clear_value whole
    have hcounted (u) : (counted u).YieldsTagged := by grind
    clear_value counted
    grind
  clear_value based
  have hheaded (u) : (headed u).YieldsTagged := by grind
  clear_value headed
  grind

end

/-! ### Expressions -/

@[grind .] theorem yieldsTagged_noExpression {α : Type} [HoldsTrees α] :
    (noExpression : Parse α).YieldsTagged := by
  unfold noExpression
  grind

@[grind ←] theorem areTagged_withoutTrailingHoles {n : Node} (h : AreTagged n) :
    AreTagged (withoutTrailingHoles n) := by
  refine areTagged_fold (fun form span parts hself hparts => ?_) n h
  split <;> grind

@[grind .] theorem yieldsTagged_regexLiteral : regexLiteral.YieldsTagged := by
  unfold regexLiteral
  grind

@[grind .] theorem yieldsTagged_importExpression : importExpression.YieldsTagged := by
  unfold importExpression
  grind

@[grind .] theorem yieldsTagged_dotKey : dotKey.YieldsTagged := by
  unfold dotKey
  grind

@[grind ←] theorem yieldsTagged_literal {form : Form} (hform : form ≠ .element) :
    (literal form).YieldsTagged := by
  unfold literal
  grind

@[grind .] theorem yieldsTagged_reference : reference.YieldsTagged := by
  unfold reference
  grind

section

variable {rec : Goal → Parse Node} (hrec : ∀ g, (rec g).YieldsTagged)

include hrec

@[grind ←] theorem yieldsTagged_insideBrackets (g : Goal) :
    (insideBrackets rec g).YieldsTagged := by
  unfold insideBrackets
  grind

@[grind ←] theorem yieldsTagged_arrowRestParameter : (arrowRestParameter rec).YieldsTagged := by
  unfold arrowRestParameter
  grind

@[grind ←] theorem yieldsTagged_arrowParameter : (arrowParameter rec).YieldsTagged := by
  unfold arrowParameter
  -- A mark, a type and a default follow the pattern, each of them only where there is one.
  refine yieldsTagged_step fun isRest _ => ?_
  split
  · grind
  refine yieldsTagged_step fun isMember _ => yieldsTagged_step fun start _ =>
    yieldsTagged_step fun p _ => yieldsTagged_step fun _ _ => ?_
  extract_lets valued marked
  have hvalued (p) (h : AreTagged p) : (valued p).YieldsTagged := by grind
  clear_value valued
  have hmarked (isOptional) : (marked isOptional).YieldsTagged := by grind
  clear_value marked
  grind

@[grind ←] theorem yieldsTagged_arrowBody (isAsync : Bool) (params : List Node) :
    (arrowBody rec isAsync params).YieldsTagged := by
  unfold arrowBody
  grind

@[grind ←] theorem yieldsTagged_arrowHead : (arrowHead rec).YieldsTagged := by
  unfold arrowHead
  grind

@[grind ←] theorem yieldsTagged_parenArrow? (start : Nat) (isAsync : Bool) :
    (parenArrow? rec start isAsync).YieldsTagged := by
  unfold parenArrow?
  refine yieldsTagged_step fun head _ => ?_
  cases head with
  | none => grind
  | some head =>
    obtain ⟨params, res⟩ := head
    refine yieldsTagged_step fun body _ => ?_
    grind

@[grind ←] theorem yieldsTagged_branchArrow? (start : Nat) (isAsync : Bool) :
    (branchArrow? rec start isAsync).YieldsTagged := by
  unfold branchArrow?
  have hwhole := yieldsTagged_parenArrow? hrec start isAsync
  -- What is found is the arrow function, or nothing where the colon is needed for the branch.
  intro c found c' h
  unfold Finds at h
  beta_reduce at h
  split at h
  · next n after heq =>
    have hn := areTagged_some.mp (hwhole c _ _ heq)
    split at h <;> grind
  · grind
  · grind

@[grind ←] theorem yieldsTagged_nameArrow? (start : Nat) (isAsync : Bool) :
    (nameArrow? rec start isAsync).YieldsTagged := by
  unfold nameArrow?
  intro c
  simp only [yieldsAt_bind]
  grind

@[grind ←] theorem yieldsTagged_asyncGenericArrow (start : Nat) :
    (asyncGenericArrow rec start).YieldsTagged := by
  unfold asyncGenericArrow
  grind

@[grind ←] theorem yieldsTagged_asyncArrow? (start : Nat) :
    (asyncArrow? rec start).YieldsTagged := by
  unfold asyncArrow?
  intro c found c' h
  unfold Finds at h
  extract_lets whole at h
  have hwhole : whole.YieldsTagged := by grind
  beta_reduce at h
  split at h
  · grind
  · exact hwhole c found c' h

@[grind ←] theorem yieldsTagged_arrow? : (arrow? rec).YieldsTagged := by
  unfold arrow?
  grind

@[grind ←] theorem yieldsTagged_genericArrow : (genericArrow rec).YieldsTagged := by
  unfold genericArrow
  grind

@[grind ←] theorem yieldsTagged_spreadable : (spreadable rec).YieldsTagged := by
  unfold spreadable
  grind

@[grind ←] theorem yieldsTagged_arrayElement : (arrayElement rec).YieldsTagged := by
  unfold arrayElement
  grind

@[grind ←] theorem yieldsTagged_arrayLiteral : (arrayLiteral rec).YieldsTagged := by
  unfold arrayLiteral
  grind

@[grind ←] theorem yieldsTagged_propertyFunction (start : Nat) (isAsync isGenerator : Bool)
    {list : Parse (List Node)} (hlist : list.YieldsTagged) :
    (propertyFunction rec start isAsync isGenerator list).YieldsTagged := by
  unfold propertyFunction
  grind

@[grind ←] theorem yieldsTagged_methodProperty (start : Nat) (isAsync isGenerator : Bool)
    {key : Node} (hkey : AreTagged key) :
    (methodProperty rec start isAsync isGenerator key).YieldsTagged := by
  unfold methodProperty
  grind

@[grind ←] theorem yieldsTagged_getterProperty (start : Nat) :
    (getterProperty rec start).YieldsTagged := by
  unfold getterProperty
  grind

@[grind ←] theorem yieldsTagged_setterProperty (start : Nat) :
    (setterProperty rec start).YieldsTagged := by
  unfold setterProperty
  grind

@[grind ←] theorem yieldsTagged_shorthandProperty (start : Nat) {key : Node} (text : String)
    (hkey : AreTagged key) : (shorthandProperty rec start key text).YieldsTagged := by
  unfold shorthandProperty
  grind

@[grind ←] theorem yieldsTagged_propertyAfterWord (start : Nat) {key : Node} (text : String)
    (hkey : AreTagged key) : (propertyAfterWord rec start key text).YieldsTagged := by
  unfold propertyAfterWord
  grind

@[grind ←] theorem yieldsTagged_property : (property rec).YieldsTagged := by
  unfold property
  grind

@[grind ←] theorem yieldsTagged_objectLiteral : (objectLiteral rec).YieldsTagged := by
  unfold objectLiteral
  grind

@[grind ←] theorem yieldsTagged_functionWithName (start : Nat) (isAsync : Bool) :
    (functionWithName rec start isAsync).YieldsTagged := by
  unfold functionWithName
  grind

@[grind ←] theorem yieldsTagged_functionExpression (start : Nat) (isAsync : Bool) :
    (functionExpression rec start isAsync).YieldsTagged := by
  unfold functionExpression
  grind

@[grind ←] theorem yieldsTagged_classExpression (start : Nat) (isAbstract : Bool) :
    (classExpression rec start isAbstract).YieldsTagged := by
  unfold classExpression
  grind

@[grind ←] theorem yieldsTagged_bracketKey : (bracketKey rec).YieldsTagged := by
  unfold bracketKey
  grind

@[grind ←] theorem yieldsTagged_superExpression : (superExpression rec).YieldsTagged := by
  unfold superExpression
  grind

@[grind ←] theorem yieldsTagged_arguments : (arguments rec).YieldsTagged := by
  unfold arguments
  grind

@[grind ←] theorem yieldsTagged_callTypes : (callTypes rec).YieldsTagged := by
  unfold callTypes
  grind

@[grind ←] theorem yieldsTagged_newExpression : (newExpression rec).YieldsTagged := by
  unfold newExpression
  grind

@[grind ←] theorem yieldsTagged_wordPrimary (text : String) :
    (wordPrimary rec text).YieldsTagged := by
  unfold wordPrimary
  grind

@[grind ←] theorem yieldsTagged_primary : (primary rec).YieldsTagged := by
  unfold primary
  refine yieldsTagged_step fun start _ => yieldsTagged_step fun token _ => ?_
  split <;> grind

@[grind ←] theorem yieldsTagged_optionalLink (start : Nat) {e : Node} (he : AreTagged e) :
    (optionalLink rec start e).YieldsTagged := by
  unfold optionalLink
  grind

@[grind ←] theorem yieldsTagged_typedLink? (start : Nat) {e : Node} (inChain : Bool)
    (he : AreTagged e) : (typedLink? rec start e inChain).YieldsTagged := by
  unfold typedLink?
  refine yieldsTagged_step fun _ _ => yieldsTagged_step fun _ _ => ?_
  split
  · grind
  refine yieldsTagged_step fun types htypes => ?_
  cases types with
  | none => grind
  | some types =>
    have hsome : AreTagged types := by grind
    grind

@[grind ←] theorem yieldsTagged_link (start : Nat) {state : Node × Bool} (hstate : AreTagged state)
    : (link rec start state).YieldsTagged := by
  unfold link
  obtain ⟨e, inChain⟩ := state
  refine yieldsTagged_step fun token _ => ?_
  split <;> grind

@[grind ←] theorem yieldsTagged_leftSide : (leftSide rec).YieldsTagged := by
  unfold leftSide
  grind

@[grind ←] theorem yieldsTagged_calleeLink (start : Nat) {e : Node} (he : AreTagged e) :
    (calleeLink rec start e).YieldsTagged := by
  unfold calleeLink
  grind

@[grind ←] theorem yieldsTagged_callee : (callee rec).YieldsTagged := by
  unfold callee
  grind

@[grind ←] theorem yieldsTagged_castExpression : (castExpression rec).YieldsTagged := by
  unfold castExpression
  grind

@[grind ←] theorem yieldsTagged_stepped (start : Nat) : (stepped rec start).YieldsTagged := by
  unfold stepped
  grind

@[grind ←] theorem yieldsTagged_awaitExpression : (awaitExpression rec).YieldsTagged := by
  unfold awaitExpression
  grind

@[grind ←] theorem yieldsTagged_unary : (unary rec).YieldsTagged := by
  unfold unary
  grind

@[grind ←] theorem yieldsTagged_binaryLink (start level : Nat) {left : Node}
    (hleft : AreTagged left) : (binaryLink rec start level left).YieldsTagged := by
  unfold binaryLink
  -- The operators `as` and `satisfies` have a type on their right, all others an operand.
  refine yieldsTagged_step fun above _ => ?_
  split
  · grind
  · grind
  · grind
  · extract_lets joined operated
    have hjoined (right) (h : AreTagged right) : (joined right).YieldsTagged := by grind
    clear_value joined
    grind

@[grind ←] theorem yieldsTagged_binary (level : Nat) : (binary rec level).YieldsTagged := by
  unfold binary
  grind

@[grind ←] theorem yieldsTagged_conditional : (conditional rec).YieldsTagged := by
  unfold conditional
  grind

@[grind ←] theorem yieldsTagged_plainAssignment : (plainAssignment rec).YieldsTagged := by
  unfold plainAssignment
  refine yieldsTagged_step fun start _ => yieldsTagged_step fun left ⟨_, _, hfinds⟩ => ?_
  have hleft := hfinds.areTagged (yieldsTagged_conditional hrec)
  split
  · grind
  refine yieldsTagged_step fun op _ => ?_
  split
  · split
    · refine yieldsTagged_step fun c _ => ?_
      split
      · grind
      · next target heq =>
        have htarget : AreTagged target :=
          areTagged_ok.mp (heq ▸ areTagged_toTarget c.dialect c.spreadCommas _ hleft)
        grind
    · grind
  · grind

@[grind ←] theorem yieldsTagged_yieldExpression : (yieldExpression rec).YieldsTagged := by
  unfold yieldExpression
  grind

@[grind ←] theorem yieldsTagged_elementOrArrow : (elementOrArrow rec).YieldsTagged := by
  unfold elementOrArrow
  -- The second reading counts only if the first one fails.
  have hplain := yieldsTagged_leniently (yieldsTagged_plainAssignment hrec)
  have hgeneric := yieldsTagged_leniently (yieldsTagged_genericArrow hrec)
  intro c n c' h
  unfold Finds at h
  beta_reduce at h
  split at h
  · next heq => exact hplain c n c' (heq.trans h)
  · split at h
    · next heq => exact hgeneric c n c' (heq.trans h)
    · cases h

@[grind ←] theorem yieldsTagged_arrowOrCast : (arrowOrCast rec).YieldsTagged := by
  unfold arrowOrCast
  grind

@[grind ←] theorem yieldsTagged_assignment : (assignment rec).YieldsTagged := by
  unfold assignment
  grind

@[grind ←] theorem yieldsTagged_expression : (expression rec).YieldsTagged := by
  unfold expression
  grind

end

end RouteMigration.Grammar
