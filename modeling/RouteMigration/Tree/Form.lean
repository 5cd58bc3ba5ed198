/-!
# Forms of the module language

A syntax tree is made of *forms* applied to parts.  A form says which construct a node is and
carries the words and flags of its own; what is nested in it are its parts.

## Main Definitions

* `TypeForm` — the forms that only describe types
* `Form` — all forms

## Design Notes

Each form has a fixed number of parts, given in its doc comment.  An optional part that is missing
is an `absent` node and a list of parts is a `seq` node, so the position of a part always tells
its role.

An identifier takes a different form in each role that a migration tells apart: `ref` where its
value is read, `binding` where a name is bound in a pattern, `shorthand` where it is both the key
and the value of a property, `tag` where it names an element, `exported` where it is given to an
export list, `ident` where it merely names a declaration or label, and `word` where it is a key.

Nothing in a `type` form has a meaning when the module runs.
-/

namespace RouteMigration

/-- How a variable statement binds. -/
inductive VarKind where
  | var
  | lexical
  | const
  | resource
  | asyncResource
deriving DecidableEq, Repr, Inhabited

namespace VarKind

/-- The keywords of a variable statement. -/
def text : VarKind → String
  | var => "var"
  | lexical => "let"
  | const => "const"
  | resource => "using"
  | asyncResource => "await using"

end VarKind

/-- What kind of function a member is. -/
inductive MethodKind where
  | method
  | getter
  | setter
deriving DecidableEq, Repr, Inhabited

/-- When the module that an import names is run. -/
inductive ImportPhase where
  /-- At once. -/
  | evaluation
  /-- Not at all: only its source is wanted. -/
  | source
  /-- When it is first used. -/
  | deferred
deriving DecidableEq, Repr, Inhabited

namespace ImportPhase

/-- The keyword of the phase; the usual one has none. -/
def text : ImportPhase → String
  | evaluation => ""
  | source => "source"
  | deferred => "defer"

end ImportPhase

/-- The modifiers of a class member or a parameter property. -/
structure Modifiers where
  /-- `public`, `private`, `protected`, or nothing. -/
  access : String := ""
  isStatic : Bool := false
  isAbstract : Bool := false
  isOverride : Bool := false
  isReadonly : Bool := false
  isDeclare : Bool := false
  isOptional : Bool := false
  isDefinite : Bool := false
deriving DecidableEq, Repr, Inhabited

/-- A modifier of a mapped type: absent, present, or with a sign. -/
inductive MappedModifier where
  | none
  | plain
  | plus
  | minus
deriving DecidableEq, Repr, Inhabited

/-- Forms that describe types. -/
inductive TypeForm where
  /-- `any`, `string`, `void`, `this` and the like. -/
  | keyword (word : String)
  /-- The type after a colon: `[type]`. -/
  | ascription
  /-- A name with arguments: `[entity, arguments]`. -/
  | reference
  /-- `a.b`: `[entity, word]`. -/
  | qualified
  /-- `typeof a.b<T>`: `[entity, arguments]`. -/
  | query
  /-- `import("x").A<T>`: `[argument, attributes, qualifier, arguments]`. -/
  | importType
  /-- A literal, a negative number or a template: `[literal]`. -/
  | literal
  /-- A template literal, its texts and types in turn. -/
  | templateType
  /-- `T[]`: `[element]`. -/
  | array
  /-- `[A, B]`: its elements. -/
  | tuple
  /-- An element of a tuple: `[label, type]`. -/
  | tupleElement
  /-- `T?`: `[type]`. -/
  | optional
  /-- `...T`: `[type]`. -/
  | rest
  /-- `A | B`: its members. -/
  | union
  /-- `A & B`: its members. -/
  | intersection
  /-- `A extends B ? C : D`: `[check, bound, yes, no]`. -/
  | conditional
  /-- `infer U`: `[parameter]`. -/
  | infer
  /-- `(T)`: `[type]`. -/
  | paren
  /-- `keyof T`, `readonly T`, `unique T`: `[type]`. -/
  | operator (word : String)
  /-- `A[B]`: `[object, index]`. -/
  | indexed
  /-- `{ [K in T as N]: U }`: `[parameter, bound, name, type]`. -/
  | mapped (isReadonly isOptional : MappedModifier)
  /-- `<T>(a: A) => B`: `[parameters, arguments, result]`. -/
  | function
  /-- `new (a: A) => B`: `[parameters, arguments, result]`. -/
  | constructorType (isAbstract : Bool)
  /-- `x is T`, `asserts x is T`: `[subject, type]`. -/
  | predicate (asserts : Bool)
  /-- `{ a: A }`: its members. -/
  | object
  /-- `a?: A`: `[key, type]`. -/
  | property (isReadonly isComputed isOptional : Bool)
  /-- `m(a: A): B`: `[key, parameters, arguments, result]`. -/
  | method (kind : MethodKind) (isComputed isOptional : Bool)
  /-- `(a: A): B`: `[parameters, arguments, result]`. -/
  | callSignature
  /-- `new (a: A): B`: `[parameters, arguments, result]`. -/
  | constructSignature
  /-- `[k: K]: V`: `[parameters, type]`. -/
  | indexSignature (isReadonly : Bool)
  /-- `<A, B>` where types are declared: its parameters. -/
  | parameters
  /-- `in out const T extends B = D`: `[name, bound, default]`. -/
  | parameter (isConst isIn isOut : Bool)
  /-- `<A, B>` where types are given: the types. -/
  | arguments
  /-- `A<T>` after `implements`, or after the `extends` of an interface:
  `[expression, type arguments]`. -/
  | heritage
  /-- `interface I<T> extends A { ... }`: `[name, parameters, bounds, body]`. -/
  | interface (isDeclare : Bool)
  /-- `type A<T> = B`: `[name, parameters, type]`. -/
  | synonym (isDeclare : Bool)
  /-- `import a = b.c`, `import a = require("x")`: `[name, target]`. -/
  | importEquals (isExport isTypeOnly : Bool)
  /-- `require("x")`: `[source]`. -/
  | externalModule
  /-- `export as namespace N`: `[name]`. -/
  | namespaceExport
deriving DecidableEq, Inhabited

/-- Forms of nodes. -/
inductive Form where
  /-- A part that is not there. -/
  | absent
  /-- A list of parts. -/
  | seq
  /-- A form that describes types. -/
  | type (form : TypeForm)
  -- Names
  /-- An identifier whose value is read. -/
  | ref (name : String)
  /-- A name bound in a pattern: `[ascription]`. -/
  | binding (name : String) (isOptional : Bool)
  /-- The property `{ name }`. -/
  | shorthand (name : String)
  /-- An identifier that names an element. -/
  | tag (name : String)
  /-- An identifier given to an export list. -/
  | exported (name : String)
  /-- An identifier that names a declaration or a label. -/
  | ident (name : String)
  /-- A key, which is no identifier. -/
  | word (name : String)
  /-- `#name` -/
  | privateName (name : String)
  /-- `[key]`: `[expression]`. -/
  | computedName
  -- Literals
  /-- A string: its value and, when it was read, its text. -/
  | str (value : String) (raw : Option String)
  /-- A number, as it is written. -/
  | num (raw : String)
  /-- A big integer, as it is written. -/
  | bigInt (raw : String)
  /-- `true` or `false`. -/
  | bool (value : Bool)
  | null
  /-- A regular expression, as it is written. -/
  | regex (raw : String)
  /-- A stretch of a template: its value, if it has one, and its text. -/
  | quasi (cooked : Option String) (raw : String)
  -- Expressions
  | thisExpr
  | superExpr
  /-- `[a, , ...b]`: its elements, holes `absent`. -/
  | array
  /-- `{ ... }`: its properties. -/
  | object
  /-- `...a`: `[expression]`. -/
  | spread
  /-- `function f() {}`: `[name, function]`. -/
  | functionExpr
  /-- The part of a function after its name: `[type parameters, parameters, result, body]`. -/
  | function (isAsync isGenerator : Bool)
  /-- `() => a`: `[type parameters, parameters, result, body]`. -/
  | arrow (isAsync : Bool)
  /-- `class A {}`: `[name, class]`. -/
  | classExpr
  /-- The part of a class after its name:
  `[type parameters, super class, its arguments, interfaces, members]`. -/
  | classTail (isAbstract : Bool)
  /-- A prefix operator: `[operand]`. -/
  | unary (op : String)
  /-- `++a`, `a--`: `[operand]`. -/
  | update (op : String) (isBefore : Bool)
  /-- An infix operator: `[left, right]`. -/
  | binary (op : String)
  /-- An assignment: `[target, value]`. -/
  | assign (op : String)
  /-- `a.b`, `a[b]`: `[object, property]`. -/
  | member
  /-- A member that is assigned to: `[object, property]`. -/
  | memberTarget
  /-- `super.a`, `super[a]`: `[property]`. -/
  | superMember
  /-- `a?.b` and members of the same chain: `[object, property]`. -/
  | chainMember (isOptional : Bool)
  /-- `a?.()` and calls of the same chain: `[callee, type arguments, arguments]`. -/
  | chainCall (isOptional : Bool)
  /-- `a ? b : c`: `[test, yes, no]`. -/
  | conditional
  /-- `f<T>(a)`: `[callee, type arguments, arguments]`. -/
  | call
  /-- `import`, perhaps with a phase, before the arguments of a call. -/
  | importCallee (phase : ImportPhase)
  /-- `new F<T>(a)`: `[callee, type arguments, arguments]`, the last `absent` without `()`. -/
  | newExpr
  /-- `a, b`: the expressions. -/
  | sequence
  /-- A template, its texts and expressions in turn. -/
  | template
  /-- `f<T>` and a template: `[tag, type arguments, template]`. -/
  | tagged
  /-- `yield a`: `[operand]`. -/
  | yieldExpr (isDelegate : Bool)
  /-- `await a`: `[operand]`. -/
  | awaitExpr
  /-- `(a)`: `[expression]`. -/
  | paren
  /-- `new.target` or `import.meta`. -/
  | metaProperty (text : String)
  /-- `a as T`: `[expression, type]`. -/
  | asType
  /-- `a satisfies T`: `[expression, type]`. -/
  | satisfies
  /-- `a as const`: `[expression]`. -/
  | asConst
  /-- `a!`: `[expression]`. -/
  | nonNull
  /-- `<T>a`: `[type, expression]`. -/
  | cast
  /-- `a<T>` without a call: `[expression, type arguments]`. -/
  | instantiation
  -- Properties of objects
  /-- `a: b`: `[key, value]`. -/
  | keyValue
  /-- A method of an object: `[key, function]`. -/
  | methodProperty
  /-- `get a() {}`: `[key, result, body]`. -/
  | getter
  /-- `set a(b) {}`: `[key, parameters, body]`. -/
  | setter
  /-- `{ a = b }`, which only a pattern may hold: `[key, value]`. -/
  | assignProperty
  -- Patterns
  /-- `[a, , ...b]`: `[elements, ascription]`. -/
  | arrayPattern (isOptional : Bool)
  /-- `{ a, b: c }`: `[properties, ascription]`. -/
  | objectPattern (isOptional : Bool)
  /-- `a = b`: `[pattern, default]`. -/
  | assignPattern
  /-- `...a`: `[pattern, ascription]`. -/
  | restPattern
  /-- `a: b` in a pattern: `[key, pattern]`. -/
  | keyValuePattern
  /-- `a`, `a = b` in a pattern: `[binding, default]`. -/
  | bindingProperty
  -- Functions and classes
  /-- A parameter: `[pattern]`. -/
  | param
  /-- A parameter that declares a member: `[pattern]`. -/
  | paramProperty (modifiers : Modifiers)
  /-- `constructor(a) {}`: `[parameters, body]`. -/
  | constructorMethod (modifiers : Modifiers)
  /-- A method of a class: `[key, function]`. -/
  | classMethod (kind : MethodKind) (modifiers : Modifiers)
  /-- A field of a class: `[key, ascription, value]`. -/
  | classField (modifiers : Modifiers)
  /-- `accessor a = b`: `[key, ascription, value]`. -/
  | accessor (modifiers : Modifiers)
  /-- `static {}`: `[body]`. -/
  | staticBlock
  /-- `;` among members. -/
  | emptyMember
  -- Statements
  /-- `{ ... }`: its statements. -/
  | block
  /-- `;` -/
  | emptyStmt
  | debuggerStmt
  /-- `a;`: `[expression]`. -/
  | exprStmt
  /-- `return a;`: `[expression]`. -/
  | returnStmt
  /-- `l: a`: `[label, statement]`. -/
  | labeledStmt
  /-- `break l;`: `[label]`. -/
  | breakStmt
  /-- `continue l;`: `[label]`. -/
  | continueStmt
  /-- `if (a) b else c`: `[test, yes, no]`. -/
  | ifStmt
  /-- `switch (a) { ... }`: `[subject, cases]`. -/
  | switchStmt
  /-- `case a: ...`: `[test, statements]`. -/
  | caseClause
  /-- `throw a;`: `[expression]`. -/
  | throwStmt
  /-- `try a catch b finally c`: `[body, handler, cleanup]`. -/
  | tryStmt
  /-- `catch (a) b`: `[pattern, body]`. -/
  | catchClause
  /-- `while (a) b`: `[test, body]`. -/
  | whileStmt
  /-- `do a while (b)`: `[body, test]`. -/
  | doWhileStmt
  /-- `for (a; b; c) d`: `[start, test, step, body]`. -/
  | forStmt
  /-- `for (a in b) c`: `[head, object, body]`. -/
  | forInStmt
  /-- `for (a of b) c`: `[head, object, body]`. -/
  | forOfStmt (isAwait : Bool)
  -- Declarations
  /-- A variable statement: its declarators. -/
  | varDecl (kind : VarKind) (isDeclare : Bool)
  /-- `a = b`: `[pattern, value]`. -/
  | declarator (isDefinite : Bool)
  /-- `function f() {}`: `[name, function]`. -/
  | functionDecl (isDeclare : Bool)
  /-- `class A {}`: `[name, class]`. -/
  | classDecl (isDeclare : Bool)
  /-- `enum E {}`: `[name, members]`. -/
  | enumDecl (isDeclare isConst : Bool)
  /-- `A = b` in an enumeration: `[name, value]`. -/
  | enumMember
  /-- `namespace N {}` and its like: `[name, body]`. -/
  | moduleDecl (word : String) (isDeclare : Bool)
  /-- `.B {}` in `namespace A.B {}`: `[name, body]`. -/
  | namespaceBody
  /-- The items in the braces of a namespace. -/
  | moduleBlock
  -- Items of modules
  /-- `import ... from "x"`: `[specifiers, source, attributes]`. -/
  | importDecl (isTypeOnly : Bool) (phase : ImportPhase)
  /-- `a as b`, `a`: `[imported name or absent, local name]`. -/
  | importNamed (isTypeOnly : Bool)
  /-- The local name of a default import: `[local name]`. -/
  | importDefault
  /-- `* as a`: `[local name]`. -/
  | importNamespace
  /-- `export` before a declaration: `[declaration]`. -/
  | exportDecl
  /-- `export { a } from "x"`: `[specifiers, source, attributes]`. -/
  | exportNamed (isTypeOnly : Bool)
  /-- `a as b` in an export list: `[local name, exported name or absent]`. -/
  | exportSpecifier (isTypeOnly : Bool)
  /-- `* as a` in an export: `[name]`. -/
  | exportNamespace
  /-- `export default` before a function, class or interface: `[declaration]`. -/
  | exportDefaultDecl
  /-- `export default a`: `[expression]`. -/
  | exportDefaultExpr
  /-- `export * from "x"`: `[source, attributes]`. -/
  | exportAll (isTypeOnly : Bool)
  /-- `export = a`: `[expression]`. -/
  | exportAssign
  -- Elements
  /-- `<a>...</a>`: `[opening, children, closing]`, the last `absent` when self-closing. -/
  | element
  /-- `<a ...>`: `[name, type arguments, attributes]`. -/
  | opening (isSelfClosing : Bool)
  /-- `</a>`: `[name]`. -/
  | closing
  /-- `<>...</>`: its children. -/
  | fragment
  /-- `a.b` as the name of an element: `[object, word]`. -/
  | tagMember
  /-- `a:b` as a name: `[word, word]`. -/
  | namespacedName
  /-- `a="b"`: `[name, value or absent]`. -/
  | attr
  /-- `{...a}` among attributes: `[spread]`. -/
  | spreadAttr
  /-- Text between elements. -/
  | text (raw : String)
  /-- `{a}`: `[expression]`. -/
  | container
  /-- Nothing but blanks and comments in braces. -/
  | emptyExpr
  /-- `{...a}` among children: `[expression]`. -/
  | spreadChild
deriving DecidableEq, Inhabited

namespace Form

/-- The form only describes types. -/
def isType : Form → Bool
  | type _ => true
  | _ => false

end Form

end RouteMigration
