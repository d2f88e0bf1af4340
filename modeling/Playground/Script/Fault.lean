import Playground.Script.PatternSyntax

/-!
# Faults of a program

The reasons for which a program is refused, each with its wording and the byte it is reported
at.
-/

namespace Playground.Script

/-- Why a program is refused. -/
inductive Cause where
  /-- there is more text than positions can tell -/
  | overlong
  | unexpectedToken
  | expected (wanted found : String)
  | expectedSeparator (separator closing found : String)
  | missingSemicolon
  | invalidCharacter (c : Char)
  | unexpectedEnd
  | unterminatedString
  | unterminatedComment
  | unterminatedPattern
  | invalidEscape
  | invalidUnicodeEscape
  | invalidNumberEnd
  | unknownFlag (c : Char)
  | repeatedFlag (c : Char)
  | htmlComment
  | escapedKeyword
  | reservedWord (word : String)
  | reservedHere (word : String)
  | wordInAsync (word : String)
  | wordInGenerator (word : String)
  | unexpectedMarkup
  | closingTag (name : String)
  | closingFragment
  | emptyMarkupAttribute
  | markupComma
  | strayMarkupText (shown entity : String)
  | exponent
  | mixedCoalesce
  | invalidTarget
  | newlineAfterThrow
  | newlineBeforeArrow
  | missingCatch
  | repeatedDefault
  | returnOutside
  | yieldOutside
  | awaitOutside
  | importMeta
  | newTarget
  | missingConstInit
  | missingPatternInit
  | missingUsingInit
  | optionalDeclaration
  | requiredAfterOptional
  | optionalRest
  | restNotLast
  | restElementNotLast
  | restTrailingComma
  | restInitializer
  | invalidRest
  | spreadNotLast
  | setterParams
  | getterParams
  | setterRest
  | staticPrototype
  | constructorAccessor
  | constructorAsync
  | constructorGenerator
  | constructorField
  | privateConstructor
  | privateAccess
  | abstractBody (name : String)
  | abstractInitializer (name : String)
  | computedEnumMember
  | enumMemberName
  | castReserved
  | exportReserved
  | exportString
  | exportAssignMixed
  | typeOnlyBoth
  | badTemplateEscape
  | emptyParens
  | optionalTemplate
  | optionalNew
  | newImport
  | superAlone
  | usingAtTop
  | lexicalInStatement
  | asyncInStatement
  | generatorInStatement
  | classInStatement
  | forAwaitNotOf
  | forAsyncOf
  | forLetOf
  | forMultiple (keyword : String)
  | forInitializer (loop : String)
  | readonlyType
  | typeMark (mark : Char) (place : String)
  | emptyTypeParams
  | emptyTypeArgs
  | thisInArrow
  | thisInConstructor
  | typeParamsOnConstructor
  | modifierHere (word : String)
  | modifierOn (word place : String)
  | accessorModifier (word : String)
  | modifierOrder (first second : String)
  | modifierTwice (word : String)
  | accessTwice
  | parameterProperty
  | decoratorsHere
  | functionName
  | extendsTwice
  | implementsTwice
  | extendsAfterImplements
  | extendsMany
  | interfaceImplements
  | interfaceBase
  | ambientBody
  | typeWordTwice (what : String)
  | importEmpty
  | importArguments
  | mergeMarker
  | duplicateExport (name : String)
  | duplicateDefault
  | attributeValue
  | deferredDefault
  | deferredNamed
  | sourceSpecifiers
  | importTypeOptions
  | constInClass
  | restAfterRest
  | optionalAfterRest
  | elementAfterOptional
  | restMarkAfterName
  | optionalMarkAfterType
  | decoratorExpression
  | decoratorsAroundExport
  | decoratorOnOverload
  | accessorOptional
  | optionalDefinite
  | constructorReturnType
  | exportSurrogate
  | instantiationAccess
  | usingInCase
  | usingPattern
  | usingInForIn
  | awaitUsingInForIn
  | restPropertyName
  | invalidRestArgument
  | readonlyPlace
  | optionalInitializer
  | variancePlace (word : String)
  | indexUntyped
  | indexOptional
  | indexSingle
  | switchClause
  | hyphenInMarkup
  | privateInPrivate
  | globalAugmentation
  | accessorBody (name : String)
  | accessorBodyMissing
  | abstractPlace
  | pattern (problem : PatternProblem)
  -- found once names and scopes are known
  | redeclared (name : String)
  | illegalBreak
  | illegalContinue
  | unknownLabel
  | labelRedeclared (name : String)
  | labelNotLoop (word : String)
  | jumpOverFunction
  | superCall
  | superReference
  | superWithoutBase
  | strictAssign (name : String)
  | letInLexical (word : String)
  | privateOutsideClass (name : String)
  | privateUndeclared (name : String)
  | privateTwice (name : String)
  | privateOnSuper
  | legacyOctal
  | leadingZero
  | octalEscape
  | functionPosition
  | withInStrict
  | duplicateConstructor
  | classNameRequired
  | coverInitializer
  | yieldInParams
  | awaitInParams
  | definiteInitial
  | definiteUntyped
  | namespacePlace
  | deleteName
  | deletePrivate
  | useStrictParams
  | argumentsInInitializer (place : String)
  | awaitInStatic
  | abstractInConcrete (what : String)
  | missingFunctionBody
  | missingConstructorBody
  | optionalTypeParamOrder
  | enumInitializer
  | namespaceNonConst
  | typeNameReserved (what name : String)
  | newTargetOutside
  -- what a target cannot do
  | targetLacksBigInt
  | targetLacksTopAwait
  | targetLacksNames
deriving Inhabited

/-- The wording of each reason. -/
def Cause.message : Cause → String
  | overlong => "Source length exceeds 4 GiB limit"
  | unexpectedToken => "Unexpected token"
  | expected wanted found => "Expected `" ++ wanted ++ "` but found `" ++ found ++ "`"
  | expectedSeparator separator closing found =>
    "Expected `" ++ separator ++ "` or `" ++ closing ++ "` but found `" ++ found ++ "`"
  | missingSemicolon =>
    "Expected a semicolon or an implicit semicolon after a statement, but found none"
  | invalidCharacter c => "Invalid Character `" ++ c.toString ++ "`"
  | unexpectedEnd => "Unexpected end of file"
  | unterminatedString => "Unterminated string"
  | unterminatedComment => "Unterminated multiline comment"
  | unterminatedPattern => "Unterminated regular expression"
  | invalidEscape => "Invalid escape sequence"
  | invalidUnicodeEscape => "Invalid Unicode escape sequence"
  | invalidNumberEnd => "Invalid characters after number"
  | unknownFlag c => "Unexpected flag " ++ c.toString ++ " in regular expression literal"
  | repeatedFlag c => "Flag " ++ c.toString ++ " is mentioned twice in regular expression literal"
  | htmlComment => "HTML comments are not allowed in modules"
  | escapedKeyword => "Keywords cannot contain escape characters"
  | reservedWord word =>
    "Identifier expected. '" ++ word ++ "' is a reserved word that cannot be used here."
  | reservedHere word => "The keyword '" ++ word ++ "' is reserved"
  | wordInAsync word => "Cannot use `" ++ word ++ "` as an identifier in an async context"
  | wordInGenerator word => "Cannot use `" ++ word ++ "` as an identifier in a generator context"
  | unexpectedMarkup => "Unexpected JSX expression"
  | closingTag name => "Expected corresponding JSX closing tag for '" ++ name ++ "'."
  | closingFragment => "Expected corresponding closing tag for JSX fragment."
  | emptyMarkupAttribute =>
    "JSX attributes must only be assigned a non-empty 'expression'."
  | markupComma =>
    "JSX expressions may not use the comma operator"
  | strayMarkupText shown entity =>
    "Unexpected token. Did you mean `\x7b'" ++ shown ++ "'\x7d` or `&" ++ entity ++ ";`?"
  | exponent => "Unexpected exponentiation expression"
  | mixedCoalesce => "Logical expressions and coalesce expressions cannot be mixed"
  | invalidTarget => "Cannot assign to this expression"
  | newlineAfterThrow => "Illegal newline after throw"
  | newlineBeforeArrow => "Line terminator not permitted before arrow"
  | missingCatch => "Missing catch or finally clause"
  | repeatedDefault =>
    "A 'default' clause cannot appear more than once in a 'switch' statement."
  | returnOutside => "A 'return' statement can only be used within a function body."
  | yieldOutside => "A 'yield' expression is only allowed in a generator body."
  | awaitOutside =>
    "`await` is only allowed within async functions and at the top levels of modules"
  | importMeta => "The only valid meta property for import is import.meta"
  | newTarget => "The only valid meta property for new is new.target"
  | missingConstInit => "Missing initializer in const declaration"
  | missingPatternInit => "Missing initializer in destructuring declaration"
  | missingUsingInit => "Using declarations must have an initializer."
  | optionalDeclaration => "Optional declaration is not allowed here"
  | requiredAfterOptional => "A required parameter cannot follow an optional parameter."
  | optionalRest => "A rest parameter cannot be optional"
  | restNotLast => "A rest parameter must be last in a parameter list"
  | restElementNotLast => "A rest element must be last in a destructuring pattern"
  | restTrailingComma => "A rest parameter or binding pattern may not have a trailing comma."
  | restInitializer => "A rest parameter cannot have an initializer"
  | invalidRest => "Invalid rest element"
  | spreadNotLast => "Spread must be last element"
  | setterParams => "A 'set' accessor must have exactly one parameter."
  | getterParams => "A 'get' accessor must not have any formal parameters."
  | setterRest => "A 'set' accessor cannot have rest parameter."
  | staticPrototype => "Classes may not have a static property named 'prototype'"
  | constructorAccessor => "Constructor can't have get/set modifier"
  | constructorAsync => "Constructor can't be an async method"
  | constructorGenerator => "Constructor can't be a generator"
  | constructorField => "Classes can't have a field named 'constructor'"
  | privateConstructor => "Classes can't have an element named '#constructor'"
  | privateAccess => "An accessibility modifier cannot be used with a private identifier."
  | abstractBody name =>
    "Method '" ++ name ++ "' cannot have an implementation because it is marked abstract."
  | abstractInitializer name =>
    "Property '" ++ name ++ "' cannot have an initializer because it is marked abstract."
  | computedEnumMember => "Computed property names are not allowed in enums."
  | enumMemberName => "An enum member cannot have a numeric name."
  | castReserved =>
    "This syntax is reserved in files with the .mts or .cts extension. Use an `as` expression " ++
      "instead."
  | exportReserved => "A reserved word cannot be used as an exported binding without `from`"
  | exportString => "A string literal cannot be used as an exported binding without `from`"
  | exportAssignMixed =>
    "An export assignment cannot be used in a module with other exported elements"
  | typeOnlyBoth =>
    "A type-only import can specify a default import or named bindings, but not both."
  | badTemplateEscape => "Bad escape sequence in untagged template literal"
  | emptyParens => "Empty parenthesized expression"
  | optionalTemplate => "Tagged template expressions are not permitted in an optional chain"
  | optionalNew => "Optional chaining cannot appear in the callee of new expressions"
  | newImport => "Cannot use new with dynamic import"
  | superAlone => "'super' can only be used with function calls or in property accesses"
  | usingAtTop => "'using' declarations are not allowed at the top level of a script"
  | lexicalInStatement => "Lexical declaration cannot appear in a single-statement context"
  | asyncInStatement => "Async functions can only be declared at the top level or inside a block"
  | generatorInStatement => "Generators can only be declared at the top level or inside a block"
  | classInStatement => "Invalid class declaration"
  | forAwaitNotOf => "await can only be used in conjunction with `for...of` statements"
  | forAsyncOf => "The left-hand side of a `for...of` statement may not be `async`"
  | forLetOf => "The left-hand side of a `for...of` statement may not start with `let`"
  | forMultiple keyword =>
    "Only a single declaration is allowed in a `for..." ++ keyword ++ "` statement"
  | forInitializer loop => loop ++ " loop variable declaration may not have an initializer"
  | readonlyType =>
    "'readonly' type modifier is only permitted on array and tuple literal types."
  | typeMark mark place =>
    "'" ++ mark.toString ++ "' at the " ++ place ++ " of a type is not valid TypeScript syntax."
  | emptyTypeParams => "Type parameter list cannot be empty."
  | emptyTypeArgs => "Type argument list cannot be empty."
  | thisInArrow => "An arrow function cannot have a `this` parameter."
  | thisInConstructor => "A constructor cannot have a `this` parameter."
  | typeParamsOnConstructor => "Type parameters cannot appear on a constructor declaration"
  | modifierHere word => "'" ++ word ++ "' modifier cannot be used here."
  | modifierOn word place => "'" ++ word ++ "' modifier cannot appear on " ++ place ++ "."
  | accessorModifier word => "'accessor' modifier cannot be used with '" ++ word ++ "' modifier."
  | modifierOrder first second =>
    "'" ++ first ++ "' modifier must precede '" ++ second ++ "' modifier."
  | modifierTwice word => "'" ++ word ++ "' modifier already seen."
  | accessTwice => "Accessibility modifier already seen."
  | parameterProperty => "A parameter property is only allowed in a constructor implementation."
  | decoratorsHere => "Decorators are not valid here."
  | functionName => "Expected function name"
  | extendsTwice => "'extends' clause already seen"
  | implementsTwice => "'implements' clause already seen"
  | extendsAfterImplements => "'extends' clause must precede 'implements' clause"
  | extendsMany => "Classes can only extend a single class."
  | interfaceImplements => "Interface declaration cannot have 'implements' clause."
  | interfaceBase =>
    "An interface can only extend an identifier/qualified-name with optional type arguments."
  | ambientBody => "An implementation cannot be declared in ambient contexts."
  | typeWordTwice what =>
    "The 'type' modifier cannot be used on a named " ++ what ++ " when '" ++ what ++
      " type' is used on its " ++ what ++ " statement."
  | importEmpty => "import() requires a specifier."
  | importArguments =>
    "Dynamic imports can only accept a module specifier and an optional set of attributes as " ++
      "arguments"
  | mergeMarker => "Encountered diff marker"
  | duplicateExport name => "Duplicated export '" ++ name ++ "'"
  | duplicateDefault => "A module cannot have multiple default exports."
  | attributeValue => "Only string literals are allowed as module attribute values."
  | deferredDefault => "Default imports are not allowed in a deferred import."
  | deferredNamed => "Named imports are not allowed in a deferred import."
  | sourceSpecifiers =>
    "Only a single default import is allowed in a source phase import."
  | importTypeOptions => "Expected 'with' in import type options"
  | constInClass => "A class member cannot have the 'const' keyword."
  | restAfterRest => "A rest element cannot follow another rest element."
  | optionalAfterRest => "An optional element cannot follow a rest element."
  | elementAfterOptional => "A required element cannot follow an optional element."
  | restMarkAfterName =>
    "A labeled tuple element is declared as rest with a '...' before the name, rather than " ++
      "before the type."
  | optionalMarkAfterType =>
    "A labeled tuple element is declared as optional with a question mark after the name and " ++
      "before the colon, rather than after the type."
  | decoratorExpression =>
    "Expression must be enclosed in parentheses to be used as a decorator."
  | decoratorsAroundExport =>
    "Decorators may not appear after 'export' or 'export default' if they also appear before " ++
      "'export'."
  | decoratorOnOverload =>
    "A decorator can only decorate a method implementation, not an overload."
  | accessorOptional => "An 'accessor' property cannot be declared optional."
  | optionalDefinite => "A property cannot be both optional and definite."
  | constructorReturnType => "Type annotation cannot appear on a constructor declaration."
  | exportSurrogate => "An export name cannot include a unicode lone surrogate"
  | instantiationAccess =>
    "An instantiation expression cannot be followed by a property access."
  | usingInCase => "Using declaration cannot appear in the bare case statement."
  | usingPattern => "Using declarations may not have binding patterns."
  | usingInForIn =>
    "The left-hand side of a for...in statement cannot be an using declaration."
  | awaitUsingInForIn =>
    "The left-hand side of a for...in statement cannot be an await using declaration."
  | restPropertyName => "A rest element cannot have a property name."
  | invalidRestArgument => "Invalid rest operator's argument."
  | readonlyPlace =>
    "'readonly' modifier can only appear on a property declaration or index signature."
  | optionalInitializer => "A parameter cannot have a question mark and an initializer."
  | variancePlace word =>
    "'" ++ word ++ "' modifier can only appear on a type parameter of a class, interface or " ++
      "type alias."
  | indexUntyped => "An index signature must have a type annotation."
  | indexOptional => "An index signature parameter cannot have a question mark."
  | indexSingle => "An index signature must have exactly one parameter."
  | switchClause => "Expected switch clause"
  | hyphenInMarkup => "Identifiers in JSX cannot contain hyphens"
  | privateInPrivate => "Unexpected right-hand side of private-in expression"
  | globalAugmentation =>
    "Augmentations for the global scope should have 'declare' modifier unless they appear in " ++
      "already ambient context."
  | accessorBody name =>
    "Accessor '" ++ name ++ "' cannot have an implementation because it is marked abstract."
  | accessorBodyMissing => "Getters and setters must have an implementation."
  | abstractPlace =>
    "'abstract' modifier can only appear on a class, method, or property declaration."
  | pattern problem => "Invalid regular expression: " ++ problem.message
  | redeclared name => "Identifier `" ++ name ++ "` has already been declared"
  | illegalBreak => "Illegal break statement"
  | illegalContinue => "Illegal continue statement: no surrounding iteration statement"
  | unknownLabel => "Use of undefined label"
  | labelRedeclared name => "Label `" ++ name ++ "` has already been declared"
  | labelNotLoop word =>
    "A `" ++ word ++ "` statement can only jump to a label of an enclosing `for`, `while` or " ++
      "`do while` statement."
  | jumpOverFunction => "Jump target cannot cross function boundary."
  | superCall =>
    "Super calls are not permitted outside constructors or in nested functions inside " ++
      "constructors."
  | superReference =>
    "'super' can only be referenced in members of derived classes or object literal expressions."
  | superWithoutBase => "'super' can only be referenced in a derived class."
  | strictAssign name => "Cannot assign to '" ++ name ++ "' in strict mode"
  | letInLexical word =>
    "`let` cannot be declared as a variable name inside of a `" ++ word ++ "` declaration"
  | privateOutsideClass name =>
    "Private identifier '#" ++ name ++ "' is not allowed outside class bodies"
  | privateUndeclared name =>
    "Private field '#" ++ name ++ "' must be declared in an enclosing class"
  | privateTwice name =>
    "Duplicate identifier `" ++ name ++ "`. Static and instance elements cannot share the " ++
      "same private name."
  | privateOnSuper => "Private fields cannot be accessed on super"
  | legacyOctal => "'0'-prefixed octal literals and octal escape sequences are deprecated"
  | leadingZero => "Decimals with leading zeros are not allowed in strict mode"
  | octalEscape => "Invalid escape sequence"
  | functionPosition => "Invalid function declaration"
  | withInStrict => "'with' statements are not allowed"
  | duplicateConstructor => "Multiple constructor implementations are not allowed."
  | classNameRequired => "A class name is required."
  | coverInitializer => "Invalid assignment in object literal"
  | yieldInParams => "yield expression not allowed in formal parameter"
  | awaitInParams => "await expression not allowed in formal parameter"
  | definiteInitial =>
    "Declarations with initializers cannot also have definite assignment assertions."
  | definiteUntyped =>
    "Declarations with definite assignment assertions must also have type annotations."
  | namespacePlace =>
    "A namespace declaration is only allowed at the top level of a namespace or module."
  | deleteName => "Delete of an unqualified identifier in strict mode."
  | deletePrivate => "The operand of a 'delete' operator cannot be a private identifier."
  | useStrictParams =>
    "Illegal 'use strict' directive in function with non-simple parameter list"
  | argumentsInInitializer place => "'arguments' is not allowed in " ++ place
  | awaitInStatic => "Cannot use await in class static initialization block"
  | abstractInConcrete what =>
    "Abstract " ++ what ++ " can only appear within an abstract class."
  | missingFunctionBody =>
    "Function implementation is missing or not immediately following the declaration."
  | missingConstructorBody => "Constructor implementation is missing."
  | optionalTypeParamOrder =>
    "Required type parameters may not follow optional type parameters."
  | enumInitializer => "Enum member must have initializer."
  | namespaceNonConst => "Namespaces exporting non-const are not supported by Oxc. Change to " ++
      "const or see: https://oxc.rs/docs/guide/usage/transformer/typescript.html" ++
      "#partial-namespace-support"
  | typeNameReserved what name => what ++ " name cannot be '" ++ name ++ "'"
  | newTargetOutside => "Unexpected new.target expression"
  | targetLacksBigInt =>
    "Big integer literals are not available in the configured target environment."
  | targetLacksTopAwait => "Top-level await is not available in the configured target environment."
  | targetLacksNames =>
    "Arbitrary module namespace identifier names are not available in the configured target " ++
      "environment."

/-- A reason for which a program is refused, and the byte it is reported at. -/
structure Fault where
  cause : Cause
  start : Nat
  /-- reported as a warning; the program is refused all the same -/
  isWarning : Bool := false
deriving Inhabited

/-- The wording of a fault. -/
def Fault.message (f : Fault) : String := f.cause.message

/-- The bytes that a fault is reported at; a text that is too long is refused as a whole. -/
def Fault.labels (f : Fault) : List Nat :=
  match f.cause with
  | .overlong => []
  | _ => [f.start]

end Playground.Script
