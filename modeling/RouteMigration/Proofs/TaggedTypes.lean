import RouteMigration.Grammar.Function
import RouteMigration.Grammar.Template
import RouteMigration.Proofs.TaggedTrees

/-!
# The tags in patterns, types and functions

These rules build no elements.  They reach one only through the reader for other goals, so with one
that finds trees with their tags they find such trees too.

## Main Statements

* `yieldsTagged_pattern`, `yieldsTagged_type`, `yieldsTagged_functionTail`, ... — the rules keep the
  tags
* `areTagged_toTarget` — so does what turns an expression into the target of an assignment

## Design Notes

A rule that branches in its middle has what comes after as a function of its own, once for all
branches.  Where there are many such places, that function gets its claim first, and then only the
claim is looked at: otherwise each branch would be followed to the end of the rule.
-/

namespace RouteMigration.Grammar

open Parse

/-! ### Names and keys -/

@[grind .] theorem yieldsTagged_ident : ident.YieldsTagged := by
  unfold ident
  grind

@[grind .] theorem yieldsTagged_label : label.YieldsTagged := by
  unfold label
  grind

@[grind .] theorem yieldsTagged_word : word.YieldsTagged := by
  unfold word
  grind

@[grind .] theorem yieldsTagged_wordIdent : wordIdent.YieldsTagged := by
  unfold wordIdent
  grind

@[grind .] theorem yieldsTagged_stringLiteral : stringLiteral.YieldsTagged := by
  unfold stringLiteral
  grind

section

variable {rec : Goal → Parse Node} (hrec : ∀ g, (rec g).YieldsTagged)

include hrec

@[grind ←] theorem yieldsTagged_plainValue : (plainValue rec).YieldsTagged := by
  unfold plainValue
  grind

@[grind ←] theorem yieldsTagged_computedKey : (computedKey rec).YieldsTagged := by
  unfold computedKey
  grind

@[grind ←] theorem yieldsTagged_propertyKey : (propertyKey rec).YieldsTagged := by
  unfold propertyKey
  grind

@[grind ←] theorem yieldsTagged_memberKey : (memberKey rec).YieldsTagged := by
  unfold memberKey
  grind

end

/-! ### Templates -/

@[grind ←] theorem yieldsTagged_templateParts {hole : Parse Node} (hhole : hole.YieldsTagged)
    (isTagged : Bool) (start n : Nat) : (templateParts hole isTagged start n).YieldsTagged := by
  induction n with
  | zero =>
    unfold templateParts
    grind
  | succ n ih =>
    unfold templateParts
    intro c
    simp only [yieldsAt_bind]
    intro c _ _
    cases Lexer.templateChunk c.rest with
    | none => grind
    | some chunk => cases chunk.ending <;> grind

@[grind ←] theorem yieldsTagged_template {hole : Parse Node} (isTagged : Bool)
    (hhole : hole.YieldsTagged) : (template hole isTagged).YieldsTagged := by
  unfold template
  grind

/-! ### Patterns -/

section

variable {rec : Goal → Parse Node} (hrec : ∀ g, (rec g).YieldsTagged)

include hrec

@[grind ←] theorem yieldsTagged_ascription : (ascription rec).YieldsTagged := by
  unfold ascription
  grind

@[grind ←] theorem yieldsTagged_patternElement : (patternElement rec).YieldsTagged := by
  unfold patternElement
  grind

@[grind ←] theorem yieldsTagged_restElement : (restElement rec).YieldsTagged := by
  unfold restElement
  grind

@[grind ←] theorem yieldsTagged_arrayPatternElement : (arrayPatternElement rec).YieldsTagged := by
  unfold arrayPatternElement
  grind

@[grind ←] theorem yieldsTagged_objectPatternProperty :
    (objectPatternProperty rec).YieldsTagged := by
  unfold objectPatternProperty
  grind

@[grind ←] theorem yieldsTagged_pattern : (pattern rec).YieldsTagged := by
  unfold pattern
  grind

omit hrec in
@[grind ←] theorem areTagged_markOptional {p : Node} (h : AreTagged p) :
    AreTagged (markOptional p) := by
  unfold markOptional
  split <;> grind

omit hrec in
@[grind ←] theorem areTagged_ascribe {type p : Node} (htype : AreTagged type) (hp : AreTagged p)
    (stop : Nat) : AreTagged (ascribe type stop p) := by
  unfold ascribe
  split <;> grind

@[grind ←] theorem yieldsTagged_ascribed {p : Node} (hp : AreTagged p) :
    (ascribed rec p).YieldsTagged := by
  unfold ascribed
  grind

@[grind ←] theorem yieldsTagged_ascribedPattern : (ascribedPattern rec).YieldsTagged := by
  unfold ascribedPattern
  grind

end

/-! ### Patterns that expressions spell -/

@[grind ←] theorem areTagged_withoutHoles {ns : List Node} (h : AreTagged ns) :
    AreTagged (withoutHoles ns) := by
  intro n hn
  exact h n (List.mem_reverse.mp (List.dropWhile_subset _ (List.mem_reverse.mp hn)))

@[grind ←] theorem areTagged_targetPattern {n : Node} (h : AreTagged n) :
    AreTagged (targetPattern n) := by
  unfold targetPattern
  grind

theorem areTagged_toPatternStep (commas : List Nat) {form : Form} {span : Option Span}
    {parts : List (Node × Except SyntaxError Node)}
    (hself : AreTagged (Node.mk form span (parts.map (·.1)))) (hparts : AreTagged parts) :
    AreTagged (toPatternStep commas form span parts) := by
  have hnodes : AreTagged (parts.map (·.1)) := areTagged_map_fst hparts
  have hpatterns : AreTagged (parts.mapM (·.2)) := areTagged_mapM fun r hr => (hparts r hr).2
  unfold toPatternStep
  extract_lets self
  split <;> grind

@[grind ←] theorem areTagged_toPattern (commas : List Nat) {n : Node} (h : AreTagged n) :
    AreTagged (toPattern commas n) :=
  areTagged_fold (fun _ _ _ => areTagged_toPatternStep commas) n h

@[grind ←] theorem areTagged_toLoopHead (dialect : Dialect) (commas : List Nat) {n : Node}
    (h : AreTagged n) : AreTagged (toLoopHead dialect commas n) := by
  unfold toLoopHead
  split <;> grind

@[grind ←] theorem areTagged_toTarget (dialect : Dialect) (commas : List Nat) (op : String)
    {n : Node} (h : AreTagged n) : AreTagged (toTarget dialect commas op n) := by
  unfold toTarget
  split <;> grind

/-! ### Types -/

@[grind ←] theorem yieldsTagged_typeNode (form : TypeForm) (start : Nat) {parts : List Node}
    (hparts : AreTagged parts) : (typeNode form start parts).YieldsTagged := by
  unfold typeNode
  grind

@[grind ←] theorem yieldsTagged_angleList (form : TypeForm) {element : Parse Node}
    (helement : element.YieldsTagged) : (angleList form element).YieldsTagged := by
  unfold angleList
  grind

@[grind ←] theorem yieldsTagged_parametersOf {element : Parse Node}
    (helement : element.YieldsTagged) : (parametersOf element).YieldsTagged := by
  unfold parametersOf
  grind

@[grind .] theorem yieldsTagged_entityName : entityName.YieldsTagged := by
  unfold entityName
  intro c
  simp only [yieldsAt_bind]
  grind

@[grind .] theorem yieldsTagged_tupleLabel : tupleLabel.YieldsTagged := by
  unfold tupleLabel
  grind

@[grind ←] theorem yieldsTagged_literalType {form : Form} (hform : form ≠ .element) :
    (literalType form).YieldsTagged := by
  unfold literalType
  grind

@[grind .] theorem yieldsTagged_negativeType : negativeType.YieldsTagged := by
  unfold negativeType
  grind

@[grind ←] theorem yieldsTagged_joinedTypes (mark : String) (form : TypeForm) {element : Parse Node}
    (helement : element.YieldsTagged) : (joinedTypes mark form element).YieldsTagged := by
  unfold joinedTypes
  grind

section

variable {rec : Goal → Parse Node} (hrec : ∀ g, (rec g).YieldsTagged)

include hrec

@[grind ←] theorem yieldsTagged_freshType : (freshType rec).YieldsTagged := by
  unfold freshType
  grind

@[grind ←] theorem yieldsTagged_typeArguments : (typeArguments rec).YieldsTagged := by
  unfold typeArguments
  grind

@[grind ←] theorem yieldsTagged_optionalTypeArguments :
    (optionalTypeArguments rec).YieldsTagged := by
  unfold optionalTypeArguments
  grind

@[grind ←] theorem yieldsTagged_sameLineArguments : (sameLineArguments rec).YieldsTagged := by
  unfold sameLineArguments
  grind

@[grind ←] theorem yieldsTagged_typeParameter (rules : ParameterRules) :
    (typeParameter rec rules).YieldsTagged := by
  unfold typeParameter
  grind

@[grind ←] theorem yieldsTagged_typeParameters (rules : ParameterRules) :
    (typeParameters rec rules).YieldsTagged := by
  unfold typeParameters
  grind

@[grind ←] theorem yieldsTagged_optionalTypeParameters (rules : ParameterRules) :
    (optionalTypeParameters rec rules).YieldsTagged := by
  unfold optionalTypeParameters
  grind

@[grind ←] theorem yieldsTagged_restParameter : (restParameter rec).YieldsTagged := by
  unfold restParameter
  grind

@[grind ←] theorem yieldsTagged_plainParameter : (plainParameter rec).YieldsTagged := by
  unfold plainParameter
  intro c
  simp only [yieldsAt_bind, yieldsAt_ite]
  -- The cases are whether types are allowed, and whether there is a default.
  intro _ _ _ _ _ _ _ _ _ _ _ _ typesAllowed _ _
  constructor
  all_goals
    intro _ isOptional _ _ typed _ _ hasDefault _ _
    constructor <;> grind

@[grind ←] theorem yieldsTagged_parameter : (parameter rec).YieldsTagged := by
  unfold parameter
  grind

@[grind ←] theorem yieldsTagged_parameters : (parameters rec).YieldsTagged := by
  unfold parameters
  grind

@[grind ←] theorem yieldsTagged_signatureParameters : (signatureParameters rec).YieldsTagged := by
  unfold signatureParameters
  grind

@[grind ←] theorem yieldsTagged_assertedType : (assertedType rec).YieldsTagged := by
  unfold assertedType
  grind

@[grind ←] theorem yieldsTagged_resultType : (resultType rec).YieldsTagged := by
  unfold resultType
  grind

@[grind ←] theorem yieldsTagged_resultBehind (mark : String) :
    (resultBehind rec mark).YieldsTagged := by
  unfold resultBehind
  grind

@[grind ←] theorem yieldsTagged_result : (result rec).YieldsTagged := by
  unfold result
  grind

@[grind ←] theorem yieldsTagged_indexSignature (start : Nat) (isReadonly : Bool) :
    (indexSignature rec start isReadonly).YieldsTagged := by
  unfold indexSignature
  grind

@[grind ←] theorem yieldsTagged_typeKey : (typeKey rec).YieldsTagged := by
  unfold typeKey
  grind

@[grind ←] theorem yieldsTagged_signature : (signature rec).YieldsTagged := by
  unfold signature
  grind

@[grind ←] theorem yieldsTagged_accessorSignature : (accessorSignature rec).YieldsTagged := by
  unfold accessorSignature
  grind

@[grind ←] theorem yieldsTagged_keyedMember (start : Nat) (isReadonly : Bool) :
    (keyedMember rec start isReadonly).YieldsTagged := by
  unfold keyedMember
  grind

@[grind ←] theorem yieldsTagged_typeMember : (typeMember rec).YieldsTagged := by
  unfold typeMember
  grind

@[grind ←] theorem yieldsTagged_typeMembers : (typeMembers rec).YieldsTagged := by
  unfold typeMembers
  grind

@[grind ←] theorem yieldsTagged_mappedType : (mappedType rec).YieldsTagged := by
  unfold mappedType
  grind

@[grind ←] theorem yieldsTagged_importType : (importType rec).YieldsTagged := by
  unfold importType
  grind

@[grind ←] theorem yieldsTagged_typeQuery : (typeQuery rec).YieldsTagged := by
  unfold typeQuery
  grind

@[grind ←] theorem yieldsTagged_thisType (start : Nat) (asserts : Bool) :
    (thisType rec start asserts).YieldsTagged := by
  unfold thisType
  grind

@[grind ←] theorem yieldsTagged_tupleElement : (tupleElement rec).YieldsTagged := by
  unfold tupleElement
  grind

@[grind ←] theorem yieldsTagged_tupleType : (tupleType rec).YieldsTagged := by
  unfold tupleType
  grind

@[grind ←] theorem yieldsTagged_namedType (text : String) : (namedType rec text).YieldsTagged := by
  unfold namedType
  grind

@[grind ←] theorem yieldsTagged_typePrimary : (typePrimary rec).YieldsTagged := by
  unfold typePrimary
  grind

@[grind ←] theorem yieldsTagged_typePostfix : (typePostfix rec).YieldsTagged := by
  unfold typePostfix
  intro c
  simp only [yieldsAt_bind]
  grind

@[grind ←] theorem yieldsTagged_inferType : (inferType rec).YieldsTagged := by
  unfold inferType
  grind

@[grind ←] theorem yieldsTagged_typeOperand : (typeOperand rec).YieldsTagged := by
  unfold typeOperand
  grind

@[grind ←] theorem yieldsTagged_unionType : (unionType rec).YieldsTagged := by
  unfold unionType
  grind

@[grind ←] theorem yieldsTagged_functionType (form : TypeForm) (start : Nat) :
    (functionType rec form start).YieldsTagged := by
  unfold functionType
  grind

@[grind ←] theorem yieldsTagged_plainType : (plainType rec).YieldsTagged := by
  unfold plainType
  grind

@[grind ←] theorem yieldsTagged_type : (type rec).YieldsTagged := by
  unfold type
  grind

end

/-! ### Functions -/

@[grind ←] theorem yieldsTagged_inParameters {α : Type} [HoldsTrees α] (isAsync isGenerator : Bool)
    (p : Parse α) (hp : p.YieldsTagged) : (inParameters isAsync isGenerator p).YieldsTagged := by
  unfold inParameters
  grind

section

variable {rec : Goal → Parse Node} (hrec : ∀ g, (rec g).YieldsTagged)

include hrec

@[grind ←] theorem yieldsTagged_statementsToBrace : (statementsToBrace rec).YieldsTagged := by
  unfold statementsToBrace
  grind

@[grind ←] theorem yieldsTagged_block : (block rec).YieldsTagged := by
  unfold block
  grind

@[grind ←] theorem yieldsTagged_bodyOf (change : Context → Context) (params : List Node) :
    (bodyOf rec change params).YieldsTagged := by
  unfold bodyOf
  grind

@[grind ←] theorem yieldsTagged_functionBody (isAsync isGenerator : Bool) (params : List Node) :
    (functionBody rec isAsync isGenerator params).YieldsTagged := by
  unfold functionBody
  grind

@[grind ←] theorem yieldsTagged_getterParameters : (getterParameters rec).YieldsTagged := by
  unfold getterParameters
  grind

@[grind ←] theorem yieldsTagged_setterParameters : (setterParameters rec).YieldsTagged := by
  unfold setterParameters
  grind

omit hrec in
@[grind ←] theorem areTagged_placed {p : Node} (h : AreTagged p) : AreTagged (placed p) := by
  unfold placed
  grind

@[grind ←] theorem yieldsTagged_functionTail (start : Nat) (isAsync isGenerator : Bool)
    {list : Parse (List Node)} (hlist : list.YieldsTagged) :
    (functionTail rec start isAsync isGenerator list).YieldsTagged := by
  unfold functionTail
  intro c
  simp only [yieldsAt_bind]
  grind

end

end RouteMigration.Grammar
