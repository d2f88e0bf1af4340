import Playground.Script.Tree

/-!
# Tokens

What the scanner hands to the grammar: a token knows its class, the name it goes by in messages,
the bytes it covers and whether a line ended before it.
-/

namespace Playground.Script

/-- Classes of tokens. -/
inductive TokenKind where
  | unknown | eof | ident | word | punct | privateIdent | string | number | bigInt | regex
  | template | templateHead | templateMiddle | templateTail | markupText
deriving DecidableEq, Inhabited

/-- A token of the source. -/
structure Token where
  kind : TokenKind
  /-- for words and punctuation the text itself, for other classes the name of the class -/
  text : String
  start : Nat
  stop : Nat
  /-- a line ended between this token and the one before -/
  onNewLine : Bool
  /-- an identifier or word written with escapes -/
  escaped : Bool
  /-- the name of an identifier or word, the value of a string, the digits of a number -/
  value : String
  /-- the value of a template stretch, unless an escape in it is invalid -/
  cooked : Option String
deriving Inhabited

/-- The bytes the token covers. -/
def Token.span (t : Token) : Span := ⟨t.start, t.stop⟩

/-- Words that may never name a variable. -/
def reservedWords : List String :=
  ["break", "case", "catch", "class", "const", "continue", "debugger", "default", "delete", "do",
   "else", "enum", "export", "extends", "false", "finally", "for", "function", "if", "import",
   "in", "instanceof", "new", "null", "return", "super", "switch", "this", "throw", "true", "try",
   "typeof", "var", "void", "while", "with"]

/-- Words that may not name a variable in strict code. -/
def strictWords : List String :=
  ["implements", "interface", "let", "package", "private", "protected", "public", "static"]

/-- Words with a meaning in some places only. -/
def contextualWords : List String :=
  ["abstract", "accessor", "any", "as", "assert", "asserts", "async", "await", "bigint", "boolean",
   "constructor", "declare", "defer", "from", "get", "global", "infer", "intrinsic", "is", "keyof",
   "meta", "module", "namespace", "never", "number", "object", "of", "out", "override",
   "readonly", "require", "satisfies", "set", "source", "string", "symbol", "target", "type",
   "undefined", "unique", "unknown", "using", "yield"] ++ strictWords

/-- Whether a name is a word with a meaning of its own anywhere. -/
def isKeyword (s : String) : Bool :=
  reservedWords.contains s || contextualWords.contains s

namespace Token

/-- Whether the token is the given word or punctuation. -/
def isText (t : Token) (s : String) : Bool :=
  (t.kind == .word || t.kind == .punct) && t.text == s

/-- Whether the token is one of the given words or punctuation. -/
def isAny (t : Token) (ss : List String) : Bool :=
  (t.kind == .word || t.kind == .punct) && ss.contains t.text

/-- Whether the token is a word reserved everywhere. -/
def isReserved (t : Token) : Bool :=
  t.kind == .word && reservedWords.contains t.text

/-- Whether the token may name a variable in some context. -/
def isBindable (t : Token) : Bool :=
  t.kind == .ident || (t.kind == .word && !reservedWords.contains t.text)

/-- Whether the token may name a property. -/
def isName (t : Token) : Bool :=
  t.kind == .ident || t.kind == .word

/-- Whether the token is a literal other than a template. -/
def isLiteral (t : Token) : Bool :=
  t.kind == .string || t.kind == .number || t.kind == .bigInt || t.kind == .regex ||
    t.isAny ["true", "false", "null"]

/-- Whether the token starts a template. -/
def isTemplateStart (t : Token) : Bool :=
  t.kind == .template || t.kind == .templateHead

end Token

/-- How a comment counts when the program is printed. -/
inductive CommentKind where
  /-- an ordinary comment -/
  | normal
  /-- licence terms, kept wherever comments are kept -/
  | legal
  /-- a documentation comment -/
  | documentation
  /-- marks the call after it as free of effects -/
  | pure
  /-- a remark for another tool -/
  | remark
deriving DecidableEq, Inhabited

/-- A comment of the source. -/
structure Comment where
  start : Nat
  stop : Nat
  isBlock : Bool
  text : String
  kind : CommentKind
  newlineBefore : Bool
  newlineAfter : Bool
  /-- where the token starts that the comment leads, if it leads one -/
  leads : Option Nat
deriving Inhabited

end Playground.Script
