import Playground.Script.Tree

/-!
# Building syntax

Short names for the nodes that a compiler makes.
-/

namespace Playground.Emit.Build

open Playground.Script

/-- A variable that is read or written. -/
def var (name : String) : Node := .made (.reference name)

/-- A variable that is declared. -/
def bind (name : String) : Node := .made (.binding name)

/-- A string. -/
def str (value : String) : Node := .made (.stringLit value none)

/-- A number. -/
def num (value : Float) : Node := .made (.numberLit value none)

/-- The value that is not there. -/
def void0 : Node := .made (.unary .void (num 0))

/-- A truth value. -/
def bool (value : Bool) : Node := .made (.boolLit value)

/-- The value that is empty. -/
def null : Node := .made .nullLit

/-- The current object. -/
def this : Node := .made .thisExpr

/-- A property by name. -/
def dot (object : Node) (name : String) : Node := .made (.member object name false)

/-- A property by key. -/
def item (object key : Node) : Node := .made (.index object key false)

/-- A call. -/
def call (callee : Node) (args : List Node) : Node := .made (.call callee none args false false)

/-- A call that is free of effects. -/
def pureCall (callee : Node) (args : List Node) : Node :=
  .made (.call callee none args false true)

/-- An assignment. -/
def set (target value : Node) : Node := .made (.assign .plain target value)

/-- A comparison or another operation on two values. -/
def bin (op : BinaryOp) (left right : Node) : Node := .made (.binary op left right)

/-- Either of two values. -/
def or (left right : Node) : Node := .made (.logical .or left right)

/-- Both of two values. -/
def and (left right : Node) : Node := .made (.logical .and left right)

/-- One of two values. -/
def cond (test yes no : Node) : Node := .made (.conditional test yes no)

/-- One value after another. -/
def seq (parts : List Node) : Node := .made (.sequence parts)

/-- An object. -/
def object (properties : List Node) : Node := .made (.objectLit properties)

/-- An array. -/
def array (elements : List Node) : Node := .made (.arrayLit elements)

/-- A property of an object. -/
def prop (key value : Node) : Node := .made (.property .method false false false key value)

/-- An expression as a statement. -/
def stmt (inner : Node) : Node := .made (.exprStmt inner)

/-- The statement that answers. -/
def ret (value : Node) : Node := .made (.returnStmt (some value))

/-- A block. -/
def block (body : List Node) : Node := .made (.block body)

/-- A declaration of one variable. -/
def declare (kind : VarKind) (name : String) (value : Option Node) : Node :=
  .made (.varDecl kind false [.made (.declarator (bind name) false none value)])

/-- A declaration of several variables without values. -/
def declareAll (kind : VarKind) (names : List String) : Node :=
  .made (.varDecl kind false (names.map fun n => .made (.declarator (bind n) false none none)))

/-- The parameters of the given targets. -/
def params (targets : List Node) : Node :=
  .made (.params (targets.map fun t =>
    .made (.param { decorators := [], modifiers := {}, target := t, ascription := none
                    initial := none })))

/-- The body of a function. -/
def body (statements : List Node) : Node := .made (.functionBody [] statements)

/-- A function. -/
def function (role : FunctionRole) (name : Option String) (isGenerator : Bool)
    (formals functionBody : Node) : Node :=
  .made (.function
    { role, isAsync := false, isGenerator, declared := false, name := name.map bind
      typeParams := none, thisParam := none, params := formals, returnType := none
      body := some functionBody, wrapped := false })

/-- An arrow function with a single expression for a body. -/
def concise (formals value : Node) : Node :=
  .made (.arrow
    { isAsync := false, concise := true, typeParams := none, params := formals
      returnType := none, body := body [stmt value], wrapped := false })

/-- An arrow function with statements for a body. -/
def arrow (formals : Node) (statements : List Node) : Node :=
  .made (.arrow
    { isAsync := false, concise := false, typeParams := none, params := formals
      returnType := none, body := body statements, wrapped := false })

/-- A function without a name and parameters. -/
def thunk (statements : List Node) : Node :=
  function .expression none false (params []) (body statements)

end Playground.Emit.Build
