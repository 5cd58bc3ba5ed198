import RouteMigration.Text.Span

/-!
# Why a source text is refused

## Main Definitions

* `SyntaxFault` — what is wrong
* `SyntaxFault.message` — how it is told
* `SyntaxError` — a fault and where it is
-/

namespace RouteMigration

/-- What is wrong with a source text. -/
inductive SyntaxFault where
  /-- The text ends where something had to follow. -/
  | endOfText
  | expressionExpected
  /-- A statement that is an expression goes on where it should end. -/
  | statementEnd
  | semicolonExpected
  /-- One token was needed and another is there. -/
  | expected (wanted got : String)
  /-- None of several tokens is there. -/
  | unexpected (got wanted : String)
  | identExpected
  | typeExpected
  /-- The closing tag does not name the element it closes. -/
  | closingTag (name : String)
  | closingFragment
  | elementText
  | elementContents
  | emptyAttribute
  | attributeValue
  | unterminatedString
  | unterminatedTemplate
  | unterminatedRegex
  | unterminatedComment
  | identAfterNumber
  | numberSeparator
  | digitExpected
  | legacyOctal
  | badEscape
  | escapedWord (name : String)
  | badCharacter (c : Char)
  /-- A mark that begins or ends a comment in markup. -/
  | markupComment
  | regexFlags
  | returnOutside
  | breakOutside
  | continueOutside
  | unknownLabel (name : String)
  | duplicateLabel (name : String)
  | constWithoutValue
  | patternWithoutValue
  | assignTarget
  | throwLineBreak
  | reservedWord (name : String)
  | deleteName
  | withStatement
  | awaitOutside
  | awaitInParameter
  | yieldOutside
  | newTargetOutside
  | duplicateConstructor
  | shorthandDefault
  /-- Something follows the element that takes all that is left. -/
  | restNotLast
  | restDefault
  | optionalRest
  | optionalDefault
  /-- A parameter has a default where nothing is run. -/
  | ambientDefault
  /-- A function has a body where nothing is run. -/
  | ambientBody
  | bodyExpected
  | memberParameter
  | strictDirective
  | emptyTypeList
  | readonlyMethod
  | readonlyAccessor
  | getterParameter
  | setterParameter
  | arrowLineBreak
  /-- The name is taken by a type of its own. -/
  | typeName
  | heritageRepeated (word : String)
  | modifierRepeated (word : String)
  | modifierOrder (first second : String)
  | modifierMisplaced
  /-- The modifier has no meaning for this kind of member. -/
  | memberModifier (word : String)
  | constructorModifier (word : String)
  | overrideWithoutBase
  | privateAccess
  | abstractBody
  | abstractValue
  | abstractMember
  /-- A private member is named like the constructor. -/
  | constructorName
  /-- A constructor is an accessor, or made in two steps. -/
  | constructorKind
  | constructorField
  | constructorTypes
  | mixedNullish
  | unaryExponent
  | decorator
  | optionalNew
  | optionalTemplate
  /-- A construct that the grammar has no place for. -/
  | misplaced
  /-- The nesting is deeper than the reader follows. -/
  | tooDeep
deriving DecidableEq, Repr, Inhabited

namespace SyntaxFault

/-- The fault as it is told to the user. -/
def message : SyntaxFault → String
  | endOfText => "Unexpected eof"
  | expressionExpected => "Expression expected"
  | statementEnd => "Expected ';', '\x7d' or <eof>"
  | semicolonExpected => "Expected a semicolon"
  | expected wanted got => "Expected '" ++ wanted ++ "', got '" ++ got ++ "'"
  | unexpected got wanted => "Unexpected token `" ++ got ++ "`. Expected " ++ wanted
  | identExpected => "Expected ident"
  | typeExpected => "Type expected"
  | closingTag name => "Expected corresponding JSX closing tag for <" ++ name ++ ">"
  | closingFragment => "Expected corresponding closing tag for JSX fragment"
  | elementText => "Unexpected token. Did you mean `\x7b'\x7d'\x7d` or `&rbrace;`?"
  | elementContents => "Unterminated JSX contents"
  | emptyAttribute => "JSX attributes must only be assigned a non-empty expression"
  | attributeValue => "JSX value should be either an expression or a quoted JSX text"
  | unterminatedString => "Unterminated string constant"
  | unterminatedTemplate => "Unterminated template"
  | unterminatedRegex => "Unterminated regexp literal"
  | unterminatedComment => "Unterminated block comment"
  | identAfterNumber => "Identifier cannot follow number"
  | numberSeparator => "A numeric separator is only allowed between two digits"
  | digitExpected => "Expected a digit"
  | legacyOctal => "Legacy octal literals are not available when targeting ECMAScript 5 and higher"
  | badEscape => "Bad character escape sequence, expected hex digits"
  | escapedWord name => "Unexpected escape sequence in reserved word: " ++ name
  | markupComment => "Legacy comments cannot be used in module code"
  | regexFlags => "Invalid regular expression flags"
  | badCharacter c => "Unexpected character '" ++ c.toString ++ "'"
  | returnOutside => "Return statement is not allowed here"
  | breakOutside =>
    "A 'break' statement can only be used within an enclosing iteration or switch statement"
  | continueOutside =>
    "A 'continue' statement can only be used within an enclosing iteration statement"
  | unknownLabel name => "Undefined label " ++ name
  | duplicateLabel name => "Label " ++ name ++ " is already declared"
  | constWithoutValue => "'const' declarations must be initialized"
  | patternWithoutValue => "Destructuring bindings require initializers"
  | assignTarget => "Invalid assignment target"
  | throwLineBreak => "LineBreak cannot follow 'throw'"
  | reservedWord name => "'" ++ name ++ "' is reserved word in module or strict mode"
  | deleteName => "The 'delete' operator cannot be called on an identifier in strict mode"
  | withStatement => "With statement are not allowed in strict mode"
  | awaitOutside => "await isn't allowed in non-async function"
  | awaitInParameter => "await expressions cannot be used in function parameters"
  | yieldOutside => "yield cannot be used outside of a generator"
  | newTargetOutside => "'new.target' is only allowed in function bodies"
  | duplicateConstructor => "A class may only have one constructor"
  | shorthandDefault => "Shorthand property assignments are only valid in destructuring patterns"
  | restNotLast => "Rest element must be final element"
  | restDefault => "A rest parameter cannot have an initializer"
  | optionalRest => "A rest parameter cannot be optional"
  | optionalDefault => "Parameter cannot have question mark and initializer"
  | ambientDefault =>
    "A parameter initializer is only allowed in a function or constructor implementation"
  | ambientBody => "An implementation cannot be declared in ambient contexts"
  | bodyExpected => "Expected a function body"
  | memberParameter => "A parameter property is only allowed in a constructor implementation"
  | strictDirective =>
    "Illegal 'use strict' directive in function with non-simple parameter list."
  | emptyTypeList => "Type parameter list cannot be empty"
  | readonlyMethod => "A method cannot be readonly"
  | readonlyAccessor => "A getter or a setter cannot be readonly"
  | getterParameter => "A `get` accessor cannot have parameters"
  | setterParameter => "A `set` accessor must have exactly one parameter"
  | arrowLineBreak => "Unexpected line break between arrow head and arrow"
  | typeName => "Invalid class name"
  | heritageRepeated word => "'" ++ word ++ "' clause already seen"
  | modifierRepeated word => "'" ++ word ++ "' modifier already seen"
  | modifierOrder first second =>
    "'" ++ first ++ "' modifier must precede '" ++ second ++ "' modifier"
  | modifierMisplaced => "Modifiers cannot appear here"
  | memberModifier word =>
    "'" ++ word ++ "' modifier cannot appear on class elements of this kind"
  | constructorModifier word =>
    "'" ++ word ++ "' modifier cannot appear on a constructor declaration"
  | overrideWithoutBase =>
    "This member cannot have an 'override' modifier because its containing class does not " ++
      "extend another class."
  | privateAccess => "An accessibility modifier cannot be used with a private identifier"
  | abstractBody => "Method cannot have an implementation because it is marked abstract"
  | abstractValue => "Property cannot have an initializer because it is marked abstract"
  | abstractMember => "Abstract methods can only appear within an abstract class."
  | constructorName => "Classes can't have an element named '#constructor'"
  | constructorKind => "Class constructor can't be an accessor"
  | constructorField => "Classes may not have a non-static field named 'constructor'"
  | constructorTypes => "Type parameters cannot appear on a constructor declaration"
  | mixedNullish =>
    "Nullish coalescing operator(??) requires parens when mixing with logical operators"
  | unaryExponent => "** cannot be applied to unary expression"
  | decorator => "Decorators are not enabled"
  | optionalNew => "Invalid optional chain in a constructor call"
  | optionalTemplate => "Tagged template expressions are not permitted in an optional chain"
  | misplaced => "Unexpected token"
  | tooDeep => "Expression is nested too deeply"

end SyntaxFault

/-- A fault and where it is. -/
structure SyntaxError where
  fault : SyntaxFault
  span : Span
deriving DecidableEq, Repr, Inhabited

namespace SyntaxError

/-- The error as it is told to the user. -/
def message (e : SyntaxError) : String := "parse error: " ++ e.fault.message

end SyntaxError

end RouteMigration
