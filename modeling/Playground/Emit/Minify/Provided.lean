import Playground.Emit.Minify.KnownCall

/-!
# What every program is provided with

`Minify.provided?` writes a call of a function that every program has as a literal, or without
`new` where that makes no difference, and a part of what is written out as that part.  The function
has to be the global one: a name that the program declares stands for something else.
-/

namespace Playground.Emit.Minify

open Playground.Script

/-! ### Parts of what is written out -/

/-- How long a text is, in the units the language counts. -/
def textLength (s : String) : Nat := (Constant.units s).length

/-- The length of an expression that is written out. -/
def lengthOf? (s : Scopes) (object : Node) : Option Nat :=
  match object.shape with
  | .stringLit value _ => some (textLength value)
  | .arrayLit elements =>
    if elements.any isSpreadOut || !elements.all (isQuiet s) then none else some elements.length
  | _ => none

/-- The element of an array that is written out, or the unit of a text, at a place. -/
def elementOf? (s : Scopes) (object : Node) (i : Nat) : Option Node :=
  if !isQuiet s object then none
  else
    match object.shape with
    | .stringLit text _ =>
      if !Constant.isPlainText text then none
      else
        match (Constant.units text)[i]? with
        | some u => (ofUnits? [u]).map Build.str
        | none => some Build.void0
    | .arrayLit elements =>
      if (elements.take (i + 1)).any isSpreadOut then none
      else
        match elements[i]? with
        | some e =>
          match e.shape with
          | .hole => some Build.void0
          | _ => some e
        | none => if elements.any isSpreadOut then none else some Build.void0
    | _ => none

/-! ### Calls -/

/-- The truth value of an expression. -/
def truthOf (x : Node) : Node :=
  if isBoolean x then x else .made (.unary .not (negate (asTest x)))

/-- The functions that make an error, with `new` or without. -/
def errorNames : List String :=
  ["Error", "AggregateError", "EvalError", "RangeError", "ReferenceError", "SyntaxError",
    "TypeError", "URIError"]

/-- What makes an array of numbers of one kind. -/
def typedArrayNames : List String :=
  ["Int8Array", "Uint8Array", "Uint8ClampedArray", "Int16Array", "Uint16Array", "Int32Array",
    "Uint32Array", "Float32Array", "Float64Array", "BigInt64Array", "BigUint64Array"]

/-- As many places without a value. -/
def holes (n : Nat) : Node := Build.array (List.replicate n (.made .hole))

/-- The array that is made of some arguments, if that can be written out. -/
def arrayOf? (args : List Node) : Option Node :=
  match args with
  | [] => some (Build.array [])
  | [x] =>
    match x.shape with
    | .numberLit size _ =>
      if size == size.floor && size ≤ 6 then some (holes size.toUInt64.toNat) else none
    | .arrayLit _ => some (Build.array [x])
    | _ => if isLiteral x then some (Build.array [x]) else none
  | _ => some (Build.array args)

/-- What a call of something that makes values gives, by its name and arguments. -/
def called? (name : String) (args : List Node) : Option Node :=
  match name, args with
  | "Object", [] => some (Build.object [])
  | "Array", _ => arrayOf? args
  | "Boolean", [] => some (Build.bool false)
  | "Boolean", [x] => if isSpreadOut x then none else some (truthOf x)
  | "String", [] => some (Build.str "")
  | "String", [x] => (textOf? x).map Build.str
  | "Number", [] => some (Build.num 0)
  | "Number", [x] => (numberOf? x).map fun v => ofConstant (.number v)
  | _, _ => none

/-- Whether arguments make an array of numbers that is empty. -/
def makesEmpty (args : List Node) : Bool :=
  match args with
  | [x] => isZero x || isNull x || isUndefined x
  | _ => false

/-- What making something new gives, by the name of what makes it and the arguments. -/
def constructed? (n callee : Node) (name : String) (args : List Node) (pure : Bool) :
    Option Node :=
  let plain := n.withShape (.call callee none args false pure)
  if errorNames.contains name || name == "Function" then some plain
  else if typedArrayNames.contains name && makesEmpty args then
    some (n.withShape (.newExpr callee none [] pure))
  else
    match name with
    | "Object" => if args.isEmpty then some (Build.object []) else none
    | "Array" => some ((arrayOf? args).getD plain)
    | "RegExp" =>
      let isPlain (x : Node) : Bool :=
        match x.shape with
        | .stringLit .. => true
        | _ => false
      if args.all isPlain then some plain else none
    | _ => none

/-- A shorter form of an expression that uses what every program is provided with. -/
def provided? (s : Scopes) (n : Node) : Option Node :=
  match n.shape with
  | .member object "length" false =>
    (lengthOf? s object).map fun k => Build.num (Float.ofNat k)
  | .member object name false =>
    match object.shape, globalName? s object with
    | .regexLit pattern _, _ => if name == "source" then some (Build.str pattern) else none
    | _, some "Number" => numberProperty? name
    | _, _ => none
  | .index object key false =>
    match key.shape with
    | .numberLit x _ =>
      if 0 ≤ x && x == x.floor && x < 4294967295 then elementOf? s object x.toUInt64.toNat
      else none
    | _ => none
  | .call callee none args false _ =>
    ((globalName? s callee).bind fun name => called? name args).or (knownCall? s n callee args)
  | .newExpr callee none args pure =>
    (globalName? s callee).bind fun name => constructed? n callee name args pure
  | _ => none

end Playground.Emit.Minify
