import CommandScript.Arithmetic
import CommandScript.Run

/-!
# Functions on numbers

## Main definitions

* `CommandScript.Builtin.numeric` — the functions of this module.
-/

namespace CommandScript.Builtin

open Compute

/-- The number that an argument stands for. -/
def numberAt (loc : Location) (args : List Value) (i : Nat) : Compute Number :=
  ofExcept loc (argument args i).number

/-- Combines the values one after another with what came before. -/
def combineAll (op : Number → Number → Except Cause Number) :
    Number → List Value → Except Cause Number
  | acc, [] => .ok acc
  | acc, v :: vs => do
    let n ← v.number
    combineAll op (← op acc n) vs

/-- Combines the arguments one after another, from a start. -/
def accumulate (start : Number) (op : Number → Number → Except Cause Number) (loc : Location)
    (args : List Value) : Compute Value :=
  return (← ofExcept loc (combineAll op start args)).toValue loc

/-- Combines two arguments. -/
def binary (op : Number → Number → Except Cause Number) (loc : Location) (args : List Value) :
    Compute Value := do
  let a ← numberAt loc args 0
  let b ← numberAt loc args 1
  return (← ofExcept loc (op a b)).toValue loc

/-- The remainder of the integer parts of two arguments. -/
def remainderOf (loc : Location) (args : List Value) : Compute Value := do
  let x ← ofExcept loc (argument args 0).toInt
  let n ← ofExcept loc (argument args 1).toInt
  return .int (← ofExcept loc (Number.remainder "mod" x n)) loc

/-- Whether two values are equal, as numbers if both are numbers, and else as texts. -/
def areEqual (s : Store) (a b : Value) : Bool :=
  match a.number, b.number with
  | .ok x, .ok y => x.toDouble == y.toDouble
  | _, _ => a.text s == b.text s

/-- Whether two arguments are equal. -/
def equality (loc : Location) (args : List Value) : Compute Value :=
  return .boolean (areEqual (← get) (argument args 0) (argument args 1)) loc

/-- Compares two arguments as doubles. -/
def comparison (test : Float → Float → Bool) (loc : Location) (args : List Value) :
    Compute Value := do
  let a ← ofExcept loc (argument args 0).toDouble
  let b ← ofExcept loc (argument args 1).toDouble
  return .boolean (test a b) loc

/-- A sum. -/
def add : Entry where
  name := "add"
  arity := .unbounded
  docs :=
    "mixed \x7bvar1, [var2...]\x7d Adds all the arguments together."
  thrown := [.cast, .range]
  behaviour := .compute { foldable := true, run := accumulate (.int 0) (Number.add "add") }

/-- A difference. -/
def subtract : Entry where
  name := "subtract"
  arity := .fixed [2]
  docs :=
    "mixed \x7bvar1, var2\x7d Subtracts var2 from var1."
  thrown := [.cast, .range]
  behaviour := .compute { foldable := true, run := binary (Number.sub "subtract") }

/-- A product. -/
def multiply : Entry where
  name := "multiply"
  arity := .unbounded
  docs :=
    "mixed \x7bvar1, [var2...]\x7d Multiplies all the arguments together."
  thrown := [.cast, .range]
  behaviour := .compute { foldable := true, run := accumulate (.int 1) (Number.mul "multiply") }

/-- A quotient. -/
def divide : Entry where
  name := "divide"
  arity := .fixed [2]
  docs :=
    "mixed \x7bvar1, var2\x7d Divides var1 by var2. The result is an int only when the division " ++
      "is exact."
  thrown := [.cast, .range]
  behaviour := .compute { foldable := true, run := binary (Number.div "divide") }

/-- A remainder. -/
def modulo : Entry where
  name := "mod"
  arity := .fixed [2]
  docs :=
    "int \x7bx, n\x7d Returns the remainder of x divided by n."
  thrown := [.cast, .range]
  behaviour := .compute { foldable := true, run := remainderOf }

/-- Adds to a script variable. -/
def inc : Entry where
  name := "inc"
  arity := .fixed [1, 2]
  docs :=
    "ivar \x7b@ivar, [by]\x7d Adds by (default 1) to the ivariable, stores and returns the new " ++
      "value."
  since := "3.0.1"
  thrown := [.cast, .range]
  behaviour := .form .increment

/-- Subtracts from a script variable. -/
def dec : Entry where
  name := "dec"
  arity := .fixed [1, 2]
  docs :=
    "ivar \x7b@ivar, [by]\x7d Subtracts by (default 1) from the ivariable, stores and returns " ++
      "the new value."
  since := "3.0.1"
  thrown := [.cast, .range]
  behaviour := .form .decrement

/-- Whether two values are equal. -/
def equals : Entry where
  name := "equals"
  arity := .fixed [2]
  docs :=
    "boolean \x7bvar1, var2\x7d Compares numerically when both values are numbers, and by " ++
      "string value otherwise."
  behaviour := .compute { foldable := true, run := equality }

/-- Whether a number is less than another. -/
def lt : Entry where
  name := "lt"
  arity := .fixed [2]
  docs :=
    "boolean \x7bvar1, var2\x7d Returns whether var1 < var2."
  thrown := [.cast]
  behaviour := .compute { foldable := true, run := comparison (fun a b => a < b) }

/-- Whether a number is greater than another. -/
def gt : Entry where
  name := "gt"
  arity := .fixed [2]
  docs :=
    "boolean \x7bvar1, var2\x7d Returns whether var1 > var2."
  thrown := [.cast]
  behaviour := .compute { foldable := true, run := comparison (fun a b => b < a) }

/-- Whether a number is at most another. -/
def lte : Entry where
  name := "lte"
  arity := .fixed [2]
  docs :=
    "boolean \x7bvar1, var2\x7d Returns whether var1 <= var2."
  thrown := [.cast]
  behaviour := .compute { foldable := true, run := comparison (fun a b => a ≤ b) }

/-- Whether a number is at least another. -/
def gte : Entry where
  name := "gte"
  arity := .fixed [2]
  docs :=
    "boolean \x7bvar1, var2\x7d Returns whether var1 >= var2."
  thrown := [.cast]
  behaviour := .compute { foldable := true, run := comparison (fun a b => b ≤ a) }

/-- The functions on numbers. -/
def numeric : List Entry :=
  [add, subtract, multiply, divide, modulo, inc, dec, equals, lt, gt, lte, gte]

end CommandScript.Builtin
