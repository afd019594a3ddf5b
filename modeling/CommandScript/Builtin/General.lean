import CommandScript.Run

/-!
# Functions on values of all types

Joining texts, arrays and their elements, and questions about types.

## Main definitions

* `CommandScript.Builtin.general` — the functions of this module.
-/

namespace CommandScript.Builtin

open Compute

/-- The texts of values, joined with a separator between them. -/
def joined (separator : String) (args : List Value) : Compute String :=
  return separator.intercalate (args.map (·.text (← get)))

/-- A function whose result is a text. -/
def textResult (f : List Value → Compute String) (loc : Location) (args : List Value) :
    Compute Value :=
  return .string (← f args) loc

/-- The array given to a function. -/
def arrayOf (function : String) (loc : Location) (v : Value) : Compute Ref :=
  match v.resolved with
  | .array r _ => return r
  | w => fail loc (.notArray function w.typeName)

/-- The element at an index. -/
def elementAt (loc : Location) (args : List Value) : Compute Value := do
  let index ← textOf (argument args 1)
  ofExcept loc ((argument args 0).element (← get) index loc)

/-- The number of cells of an array. -/
def sizeOfArray (loc : Location) (args : List Value) : Compute Value := do
  let r ← arrayOf "array_size" loc (argument args 0)
  return .int (Int64.ofNat ((← get).cells r).size) loc

/-- Adds a cell to an array. -/
def pushToArray (loc : Location) (args : List Value) : Compute Value := do
  let r ← arrayOf "array_push" loc (argument args 0)
  modify (·.push r (argument args 1))
  return .void loc

/-- The number of cells of an array, or of characters in the text of another value. -/
def lengthOf (loc : Location) (args : List Value) : Compute Value := do
  let s ← get
  let n := match (argument args 0).resolved with
    | .array r _ => (s.cells r).size
    | v => (v.text s).length
  return .int (Int64.ofNat n) loc

/-- Whether a value is null. -/
def nullTest (loc : Location) (args : List Value) : Compute Value :=
  return .boolean (argument args 0).isNull loc

/-- The name of the type of a value. -/
def typeOf (loc : Location) (args : List Value) : Compute Value :=
  return .string (argument args 0).resolved.typeName loc

/-- Joins texts with spaces. -/
def sconcat : Entry where
  name := "sconcat"
  arity := .unbounded
  docs :=
    "string \x7bvar1, [var2...]\x7d Joins its arguments with a space between each. Juxtaposed " ++
      "values compile to this."
  behaviour := .compute { foldable := true, run := textResult (joined " ") }

/-- Joins texts. -/
def concat : Entry where
  name := "concat"
  arity := .unbounded
  docs :=
    "string \x7bvar1, [var2...]\x7d Joins its arguments with nothing between them."
  behaviour := .compute { foldable := true, run := textResult (joined "") }

/-- A new array. -/
def array : Entry where
  name := "array"
  arity := .unbounded
  docs :=
    "array \x7b[var1, [var2...]]\x7d Creates a new array holding the arguments."
  behaviour := .compute { run := newArray }

/-- An element of an array or a text. -/
def arrayGet : Entry where
  name := "array_get"
  arity := .fixed [2]
  docs :=
    "mixed \x7barray, index\x7d Returns the element at index. Strings may be indexed too. " ++
      "Negative indices count from the end of an array. Written x[i] in scripts."
  thrown := [.cast, .format, .indexOverflow]
  behaviour := .compute { foldable := true, run := elementAt }

/-- The size of an array. -/
def arraySize : Entry where
  name := "array_size"
  arity := .fixed [1]
  docs :=
    "int \x7barray\x7d Returns the number of elements in the array."
  thrown := [.cast]
  behaviour := .compute { run := sizeOfArray }

/-- A cell added to an array. -/
def arrayPush : Entry where
  name := "array_push"
  arity := .fixed [2]
  docs :=
    "void \x7barray, value\x7d Appends value to the array. Every reference to the array sees " ++
      "the change."
  thrown := [.cast]
  behaviour := .compute { run := pushToArray }

/-- The length of a value. -/
def length : Entry where
  name := "length"
  arity := .fixed [1]
  docs :=
    "int \x7bvalue\x7d Returns the number of elements of an array, or the number of characters " ++
      "in the value's string form."
  behaviour := .compute { foldable := true, run := lengthOf }

/-- Whether a value is null. -/
def isNull : Entry where
  name := "is_null"
  arity := .fixed [1]
  docs :=
    "boolean \x7bvalue\x7d Returns whether the value is null."
  since := "3.1.2"
  behaviour := .compute { foldable := true, run := nullTest }

/-- The type of a value. -/
def typeof : Entry where
  name := "typeof"
  arity := .fixed [1]
  docs :=
    "string \x7bvalue\x7d Returns the type name of the value: string, int, double, boolean, " ++
      "array, null or void."
  since := "3.3.0"
  behaviour := .compute { foldable := true, run := typeOf }

/-- The functions on values of all types. -/
def general : List Entry :=
  [sconcat, concat, array, arrayGet, arraySize, arrayPush, length, isNull,
    typeof]

end CommandScript.Builtin
