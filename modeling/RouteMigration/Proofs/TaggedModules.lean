import RouteMigration.Grammar.Read
import RouteMigration.Proofs.LayoutParameters
import RouteMigration.Proofs.TaggedExpressions

/-!
# The tags in a module that is read

The rules of statements and items keep the tags as well.  With them all rules do, and so the reader
for all goals, which is the rules put into each other, finds trees with their tags.

## Main Statements

* `Grammar.yieldsTagged_goal` — whatever is read has its tags
* `Source.isTagged_of_read` — so has all that is in a module that is read
* `Implementation.hasTags_of_find?` — and with the items of a module the body of its component
-/

namespace RouteMigration

open Migration Parse

namespace Grammar

/-! ### Statements -/

@[grind .] theorem yieldsTagged_jumpLabel : jumpLabel.YieldsTagged := by
  unfold jumpLabel
  grind

@[grind .] theorem yieldsTagged_breakStatement (start : Nat) :
    (breakStatement start).YieldsTagged := by
  unfold breakStatement
  grind

@[grind .] theorem yieldsTagged_continueStatement (start : Nat) :
    (continueStatement start).YieldsTagged := by
  unfold continueStatement
  grind

section

variable {rec : Goal → Parse Node} (hrec : ∀ g, (rec g).YieldsTagged)

include hrec

@[grind ←] theorem yieldsTagged_declarator (kind : VarKind) (inHead : Bool) :
    (declarator rec kind inHead).YieldsTagged := by
  unfold declarator
  grind

@[grind ←] theorem yieldsTagged_declarators (kind : VarKind) (inHead : Bool) :
    (declarators rec kind inHead).YieldsTagged := by
  unfold declarators
  grind

@[grind ←] theorem yieldsTagged_variableStatement (start : Nat) (kind : VarKind) (isAmbient : Bool)
    : (variableStatement rec start kind isAmbient).YieldsTagged := by
  unfold variableStatement
  grind

@[grind ←] theorem yieldsTagged_functionDeclaration (start : Nat) (isAmbient : Bool) :
    (functionDeclaration rec start isAmbient).YieldsTagged := by
  unfold functionDeclaration
  grind

@[grind ←] theorem yieldsTagged_classDeclaration (start : Nat) (isAmbient isAbstract : Bool) :
    (classDeclaration rec start isAmbient isAbstract).YieldsTagged := by
  unfold classDeclaration
  grind

@[grind ←] theorem yieldsTagged_bracketedMember : (bracketedMember rec).YieldsTagged := by
  unfold bracketedMember
  grind

@[grind ←] theorem yieldsTagged_enumMemberName : (enumMemberName rec).YieldsTagged := by
  unfold enumMemberName
  grind

@[grind ←] theorem yieldsTagged_enumMember : (enumMember rec).YieldsTagged := by
  unfold enumMember
  grind

@[grind ←] theorem yieldsTagged_enumDeclaration (start : Nat) (isAmbient : Bool) :
    (enumDeclaration rec start isAmbient).YieldsTagged := by
  unfold enumDeclaration
  grind

@[grind ←] theorem yieldsTagged_interfaceDeclaration (start : Nat) (isAmbient : Bool) :
    (interfaceDeclaration rec start isAmbient).YieldsTagged := by
  unfold interfaceDeclaration
  grind

@[grind ←] theorem yieldsTagged_synonymDeclaration (start : Nat) (isAmbient : Bool) :
    (synonymDeclaration rec start isAmbient).YieldsTagged := by
  unfold synonymDeclaration
  grind

@[grind ←] theorem yieldsTagged_moduleBlock : (moduleBlock rec).YieldsTagged := by
  unfold moduleBlock
  grind

@[grind ←] theorem yieldsTagged_namespaceBody (n : Nat) : (namespaceBody rec n).YieldsTagged := by
  unfold namespaceBody
  induction n with
  | zero =>
    unfold namespaceBody
    grind
  | succ n ih =>
    unfold namespaceBody
    intro c
    simp only [yieldsAt_bind]
    grind

@[grind ←] theorem yieldsTagged_namespaceDeclaration (start : Nat) (isAmbient : Bool) :
    (namespaceDeclaration rec start isAmbient).YieldsTagged := by
  unfold namespaceDeclaration
  grind

@[grind ←] theorem yieldsTagged_outerModule (start : Nat) (isAmbient : Bool) (word : String)
    {name : Node} (hname : AreTagged name) :
    (outerModule rec start isAmbient word name).YieldsTagged := by
  unfold outerModule
  grind

@[grind ←] theorem yieldsTagged_moduleDeclaration (start : Nat) (isAmbient : Bool) :
    (moduleDeclaration rec start isAmbient).YieldsTagged := by
  unfold moduleDeclaration
  grind

@[grind ←] theorem yieldsTagged_globalDeclaration (start : Nat) (isAmbient : Bool) :
    (globalDeclaration rec start isAmbient).YieldsTagged := by
  unfold globalDeclaration
  grind

@[grind ←] theorem yieldsTagged_typeDeclaration? (start : Nat) :
    (typeDeclaration? rec start).YieldsTagged := by
  unfold typeDeclaration?
  grind

@[grind ←] theorem yieldsTagged_declaration? (start : Nat) :
    (declaration? rec start).YieldsTagged := by
  unfold declaration?
  grind

@[grind ←] theorem yieldsTagged_ambientDeclaration? (start : Nat) :
    (ambientDeclaration? rec start).YieldsTagged := by
  unfold ambientDeclaration?
  grind

@[grind ←] theorem yieldsTagged_ambient? (start : Nat) : (ambient? rec start).YieldsTagged := by
  unfold ambient?
  intro c found c' h
  unfold Finds at h
  extract_lets declared whole at h
  have hwhole : whole.YieldsTagged := by grind
  clear_value whole
  beta_reduce at h
  split at h
  · split at h
    · grind
    · exact hwhole c found c' h
  · grind

@[grind ←] theorem yieldsTagged_anyDeclaration? : (anyDeclaration? rec).YieldsTagged := by
  unfold anyDeclaration?
  refine yieldsTagged_step fun start _ => yieldsTagged_step fun ambient _ => ?_
  cases ambient with
  | some n => grind
  | none => grind

@[grind ←] theorem yieldsTagged_bodyStatement : (bodyStatement rec).YieldsTagged := by
  unfold bodyStatement
  grind

@[grind ←] theorem yieldsTagged_loopBody : (loopBody rec).YieldsTagged := by
  unfold loopBody
  grind

@[grind ←] theorem yieldsTagged_parenthesized : (parenthesized rec).YieldsTagged := by
  unfold parenthesized
  grind

@[grind ←] theorem yieldsTagged_ifStatement (start : Nat) :
    (ifStatement rec start).YieldsTagged := by
  unfold ifStatement
  grind

@[grind ←] theorem yieldsTagged_whileStatement (start : Nat) :
    (whileStatement rec start).YieldsTagged := by
  unfold whileStatement
  grind

@[grind ←] theorem yieldsTagged_doWhileStatement (start : Nat) :
    (doWhileStatement rec start).YieldsTagged := by
  unfold doWhileStatement
  grind

@[grind ←] theorem yieldsTagged_loopOver (start : Nat) (isAwait : Bool) {head : Node}
    (hhead : AreTagged head) : (loopOver rec start isAwait head).YieldsTagged := by
  unfold loopOver
  grind

@[grind ←] theorem yieldsTagged_loopCounting (start : Nat) (isAwait : Bool) {first : Node}
    (hfirst : AreTagged first) : (loopCounting rec start isAwait first).YieldsTagged := by
  unfold loopCounting
  grind

@[grind ←] theorem yieldsTagged_loopDeclaring (start : Nat) (isAwait : Bool) (kind : VarKind) :
    (loopDeclaring rec start isAwait kind).YieldsTagged := by
  unfold loopDeclaring
  grind

@[grind ←] theorem yieldsTagged_loopAssigning (start : Nat) (isAwait : Bool) :
    (loopAssigning rec start isAwait).YieldsTagged := by
  unfold loopAssigning
  -- The head is an expression first, and made into a target when the loop turns out to assign.
  extract_lets headed
  have hheaded (u) : (headed u).YieldsTagged := by
    refine yieldsTagged_step fun first _ => yieldsTagged_step fun _ _ => ?_
    have hfirst : AreTagged first := by grind
    split
    · refine yieldsTagged_step fun c _ => ?_
      split
      · next head heq =>
        have hhead : AreTagged head :=
          areTagged_ok.mp (heq ▸ areTagged_toLoopHead c.dialect c.spreadCommas hfirst)
        grind
      · grind
    · grind
  clear_value headed
  grind

@[grind ←] theorem yieldsTagged_forStatement (start : Nat) :
    (forStatement rec start).YieldsTagged := by
  unfold forStatement
  grind

@[grind ←] theorem yieldsTagged_caseClause : (caseClause rec).YieldsTagged := by
  unfold caseClause
  grind

@[grind ←] theorem yieldsTagged_switchStatement (start : Nat) :
    (switchStatement rec start).YieldsTagged := by
  unfold switchStatement
  grind

@[grind ←] theorem yieldsTagged_catchClause : (catchClause rec).YieldsTagged := by
  unfold catchClause
  grind

@[grind ←] theorem yieldsTagged_tryStatement (start : Nat) :
    (tryStatement rec start).YieldsTagged := by
  unfold tryStatement
  grind

@[grind ←] theorem yieldsTagged_throwStatement (start : Nat) :
    (throwStatement rec start).YieldsTagged := by
  unfold throwStatement
  grind

@[grind ←] theorem yieldsTagged_returnStatement (start : Nat) :
    (returnStatement rec start).YieldsTagged := by
  unfold returnStatement
  grind

@[grind ←] theorem yieldsTagged_labeledStatement (start : Nat) :
    (labeledStatement rec start).YieldsTagged := by
  unfold labeledStatement
  grind

@[grind ←] theorem yieldsTagged_expressionStatement (start : Nat) :
    (expressionStatement rec start).YieldsTagged := by
  unfold expressionStatement
  grind

@[grind ←] theorem yieldsTagged_plainStatement : (plainStatement rec).YieldsTagged := by
  unfold plainStatement
  grind

@[grind ←] theorem yieldsTagged_statement : (statement rec).YieldsTagged := by
  unfold statement
  grind

end

/-! ### Items -/

/-- The trees of what was read of an import are the name that it binds. -/
instance : HoldsTrees ImportHead := ⟨fun head => AreTagged head.binding⟩

@[grind =] theorem areTagged_importHead {head : ImportHead} :
    AreTagged head ↔ AreTagged head.binding :=
  Iff.rfl

@[grind ←] theorem yieldsTagged_moduleName {plain : String → Form}
    (hplain : ∀ text, plain text ≠ .element) : (moduleName plain).YieldsTagged := by
  unfold moduleName
  grind

@[grind .] theorem yieldsTagged_importSpecifier (isTypeOnly : Bool) :
    (importSpecifier isTypeOnly).YieldsTagged := by
  unfold importSpecifier
  grind

@[grind .] theorem yieldsTagged_importTarget : importTarget.YieldsTagged := by
  unfold importTarget
  grind

@[grind ←] theorem yieldsTagged_importEquals (start : Nat) (isExport isTypeOnly : Bool)
    {name : Node} (hname : AreTagged name) :
    (importEquals start isExport isTypeOnly name).YieldsTagged := by
  unfold importEquals
  grind

@[grind ←] theorem yieldsTagged_typeImportHead {first : Node} (hfirst : AreTagged first) :
    (typeImportHead first).YieldsTagged := by
  unfold typeImportHead
  grind

@[grind ←] theorem yieldsTagged_phaseImportHead (phase : ImportPhase) {first : Node}
    (hfirst : AreTagged first) : (phaseImportHead phase first).YieldsTagged := by
  unfold phaseImportHead
  grind

@[grind .] theorem yieldsTagged_importHead : importHead.YieldsTagged := by
  unfold importHead
  grind

@[grind .] theorem yieldsTagged_importBindings (isTypeOnly : Bool) (phase : ImportPhase) :
    (importBindings isTypeOnly phase).YieldsTagged := by
  unfold importBindings
  grind

@[grind ←] theorem areTagged_importDefault {name : Node} (h : AreTagged name) :
    AreTagged (importDefault name) := by
  unfold importDefault
  grind

@[grind .] theorem yieldsTagged_exportSpecifier (isTypeOnly : Bool) :
    (exportSpecifier isTypeOnly).YieldsTagged := by
  unfold exportSpecifier
  grind

section

variable {rec : Goal → Parse Node} (hrec : ∀ g, (rec g).YieldsTagged)

include hrec

@[grind ←] theorem yieldsTagged_importAttributes : (importAttributes rec).YieldsTagged := by
  unfold importAttributes
  grind

@[grind ←] theorem yieldsTagged_importSource : (importSource rec).YieldsTagged := by
  unfold importSource
  grind

@[grind ←] theorem yieldsTagged_importItem : (importItem rec).YieldsTagged := by
  unfold importItem
  -- An import for its effect binds nothing.  Otherwise the name of the default comes first, and
  -- either `=` or the other names after it.
  refine yieldsTagged_step fun start _ => yieldsTagged_step fun _ _ =>
    yieldsTagged_step fun isEffect _ => ?_
  split
  · grind
  refine yieldsTagged_step fun head ⟨_, _, hhead⟩ => yieldsTagged_step fun _ _ =>
    yieldsTagged_step fun _ _ => ?_
  have hbinding : AreTagged head.binding := hhead.areTagged yieldsTagged_importHead
  split
  · grind
  · refine yieldsTagged_step fun _ _ => ?_
    extract_lets bound
    have hbound (u) : (bound u).YieldsTagged := by
      refine yieldsTagged_step fun named _ => yieldsTagged_step fun _ _ => ?_
      grind
    clear_value bound
    grind

@[grind ←] theorem yieldsTagged_exportList (start : Nat) (isTypeOnly : Bool) :
    (exportList rec start isTypeOnly).YieldsTagged := by
  unfold exportList
  grind

@[grind ←] theorem yieldsTagged_exportAll (start : Nat) (isTypeOnly : Bool) :
    (exportAll rec start isTypeOnly).YieldsTagged := by
  unfold exportAll
  grind

@[grind ←] theorem yieldsTagged_exportDefault (start : Nat) :
    (exportDefault rec start).YieldsTagged := by
  unfold exportDefault
  grind

@[grind ←] theorem yieldsTagged_exportedType : (exportedType rec).YieldsTagged := by
  unfold exportedType
  grind

@[grind ←] theorem yieldsTagged_exportedDeclaration : (exportedDeclaration rec).YieldsTagged := by
  unfold exportedDeclaration
  grind

@[grind ←] theorem yieldsTagged_plainExport (start : Nat) :
    (plainExport rec start).YieldsTagged := by
  unfold plainExport
  -- Three kinds of export begin with a word or mark of their own; `listed` are all others.
  refine yieldsTagged_step fun typed _ => yieldsTagged_step fun isImport _ => ?_
  split
  · grind
  refine yieldsTagged_step fun isAssigned _ => ?_
  split
  · grind
  refine yieldsTagged_step fun isNamespace _ => ?_
  split
  · grind
  extract_lets listed
  have hlisted (isTypeOnly) : (listed isTypeOnly).YieldsTagged := by grind
  clear_value listed
  grind

@[grind ←] theorem yieldsTagged_exportItem : (exportItem rec).YieldsTagged := by
  unfold exportItem
  grind

@[grind ←] theorem yieldsTagged_importStatement : (importStatement rec).YieldsTagged := by
  unfold importStatement
  grind

@[grind ←] theorem yieldsTagged_item : (item rec).YieldsTagged := by
  unfold item
  grind

end

/-! ### Modules -/

section

variable {rec : Goal → Parse Node} (hrec : ∀ g, (rec g).YieldsTagged)

include hrec

theorem yieldsTagged_rule (g : Goal) : (rule rec g).YieldsTagged := by
  unfold rule
  cases g <;> grind

@[grind ←] theorem yieldsTagged_items : (items rec).YieldsTagged := by
  unfold items
  grind

end

/-- The rules nest, so what each does with tagged trees they do all together. -/
@[grind .] theorem yieldsTagged_goal (depth : Nat) (g : Goal) : (goal depth g).YieldsTagged := by
  induction depth generalizing g with
  | zero => exact yieldsTagged_failHere _
  | succ depth ih => exact yieldsTagged_rule ih g

/-- The trees of a module are its items. -/
instance : HoldsTrees Module := ⟨fun m => AreTagged m.items⟩

@[grind =] theorem areTagged_module {m : Module} : AreTagged m ↔ AreTagged m.items := Iff.rfl

theorem yieldsTagged_module (depth : Nat) : (module depth).YieldsTagged := by
  unfold module
  refine yieldsTagged_step fun hashbang _ => ?_
  extract_lets found
  have hfound (start) : (found start).YieldsTagged := by
    refine yieldsTagged_step fun items _ => yieldsTagged_step fun _ _ => ?_
    grind
  clear_value found
  grind

end Grammar

/-- **What is read has its tags.**  Every element in a module that is read, in its types too, has
the tags that its form has. -/
theorem Source.isTagged_of_read {dialect : Dialect} {text : String} {source : Source}
    (h : Source.read dialect text = .ok source) : ∀ item ∈ source.module.items, item.IsTagged := by
  unfold Source.read at h
  simp only at h
  split at h
  · cases h
  · next m c hm =>
    split at h
    · cases h
    · cases h
      exact Grammar.yieldsTagged_module _ _ m c hm

/-! ### Components -/

namespace Migration.Implementation

instance : HoldsTrees Implementation := ⟨fun i => AreTagged i.params ∧ AreTagged i.body⟩

@[grind =] theorem areTagged_mk {params : List Node} {body : Node} :
    AreTagged (⟨params, body⟩ : Implementation) ↔ AreTagged params ∧ AreTagged body := Iff.rfl

@[grind ←] theorem areTagged_ofFunction? {n : Node} (h : AreTagged n) :
    AreTagged (ofFunction? n) := by
  unfold ofFunction?
  grind

@[grind ←] theorem areTagged_ofArrow? {n : Node} (h : AreTagged n) : AreTagged (ofArrow? n) := by
  unfold ofArrow?
  grind

@[grind ←] theorem areTagged_ofValue? {n : Node} (h : AreTagged n) : AreTagged (ofValue? n) := by
  unfold ofValue?
  grind

@[grind ←] theorem areTagged_ofDeclarators? (name : String) {ds : List Node} (h : AreTagged ds) :
    AreTagged (ofDeclarators? name ds) := by
  induction ds with
  | nil =>
    unfold ofDeclarators?
    grind
  | cons d ds ih =>
    unfold ofDeclarators?
    grind

@[grind ←] theorem areTagged_ofDeclaration? (name : String) {n : Node} (h : AreTagged n) :
    AreTagged (ofDeclaration? name n) := by
  unfold ofDeclaration?
  grind

@[grind ←] theorem areTagged_ofItem? (name : String) {n : Node} (h : AreTagged n) :
    AreTagged (ofItem? name n) := by
  unfold ofItem?
  grind

/-- With the items of a module the body of its component has its tags, types left out. -/
theorem hasTags_of_find? {name : String} {items : List Node} {i : Implementation}
    (h : find? name items = some i) (hitems : ∀ item ∈ items, item.IsTagged) :
    ∀ n ∈ nodes i.body, hasTags n = true := by
  obtain ⟨item, hmem, hitem⟩ := List.exists_of_findSome?_eq_some h
  have hi : AreTagged i := areTagged_ofItem? name (hitems item hmem) i hitem
  exact fun n hn => Node.IsTagged.hasTags_of_mem_nodes hi.2 hn

end Migration.Implementation

end RouteMigration
