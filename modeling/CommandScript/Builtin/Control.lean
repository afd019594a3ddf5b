import CommandScript.Run

/-!
# Conditions, loops, procedures and signals

## Main definitions

* `CommandScript.Builtin.logical` — conditions.
* `CommandScript.Builtin.control` — assignment, loops, procedures and signals.
-/

namespace CommandScript.Builtin

open Compute

/-- The largest number of loops that one break leaves. -/
def maxLevels : Nat := UInt32.size - 1

/-- Leaves loops, one if no number is given. -/
def breakOut (loc : Location) (args : List Value) : Compute Value := do
  let levels ← match args with
    | v :: _ => ofExcept loc v.toInt
    | [] => pure 1
  if levels < 1 then fail loc (.badLevels levels)
  raise (.breakLoop (min levels.toNatClampNeg maxLevels))

/-- The opposite of a condition. -/
def opposite (loc : Location) (args : List Value) : Compute Value :=
  return .boolean (!(argument args 0).isTrue (← get)) loc

/-- Leaves a procedure, with void if no value is given. -/
def returnFrom (loc : Location) (args : List Value) : Compute Value :=
  raise (.returnValue (args.head?.getD (.void loc)))

/-- A choice. -/
def ifElse : Entry where
  name := "if"
  arity := .fixed [2, 3]
  docs :=
    "mixed \x7bcond, trueRet, [falseRet]\x7d Evaluates cond; if it is true, evaluates and " ++
      "returns trueRet, otherwise falseRet (or void)."
  behaviour := .form .ifElse

/-- Whether all conditions hold. -/
def conjunction : Entry where
  name := "and"
  arity := .unbounded
  docs :=
    "boolean \x7bvar1, [var2...]\x7d Returns true if every argument is true. Stops at the first " ++
      "false argument."
  behaviour := .form .conjunction

/-- Whether some condition holds. -/
def disjunction : Entry where
  name := "or"
  arity := .unbounded
  docs :=
    "boolean \x7bvar1, [var2...]\x7d Returns true if any argument is true. Stops at the first " ++
      "true argument."
  behaviour := .form .disjunction

/-- The opposite of a condition. -/
def negation : Entry where
  name := "not"
  arity := .fixed [1]
  docs :=
    "boolean \x7bvar1\x7d Returns the boolean opposite of var1."
  behaviour := .compute { foldable := true, run := opposite }

/-- Conditions. -/
def logical : List Entry := [ifElse, conjunction, disjunction, negation]

/-- An assignment. -/
def assign : Entry where
  name := "assign"
  arity := .fixed [2]
  docs :=
    "ivar \x7b@ivar, value\x7d Stores value in the ivariable and returns it. Arrays are stored " ++
      "by reference."
  thrown := [.cast]
  behaviour := .form .assign

/-- A loop with a condition. -/
def forLoop : Entry where
  name := "for"
  arity := .fixed [4]
  docs :=
    "void \x7bassign, condition, expression, body\x7d Runs assign once, then body followed by " ++
      "expression for as long as condition is true. The first argument must be an assign() call."
  thrown := [.cast]
  behaviour := .form .forLoop

/-- A loop over an array. -/
def foreach : Entry where
  name := "foreach"
  arity := .fixed [3]
  docs :=
    "void \x7barray, @ivar, body\x7d Runs body once per element of array, with the element " ++
      "stored in the ivariable."
  thrown := [.cast]
  behaviour := .form .foreach

/-- Leaves loops. -/
def breakLoop : Entry where
  name := "break"
  arity := .fixed [0, 1]
  docs :=
    "void \x7b[levels]\x7d Leaves the innermost loop, or the innermost levels loops."
  thrown := [.cast, .range]
  signal := some .breakLoop
  behaviour := .compute { run := breakOut }

/-- Goes on with the next round of a loop. -/
def continueLoop : Entry where
  name := "continue"
  arity := .fixed [0]
  docs :=
    "void \x7b\x7d Skips the rest of the current loop iteration."
  signal := some .continueLoop
  behaviour := .compute { run := fun _ _ => raise .continueLoop }

/-- Leaves a procedure. -/
def returnValue : Entry where
  name := "return"
  arity := .fixed [0, 1]
  docs :=
    "void \x7b[value]\x7d Leaves the current procedure, returning value (or void)."
  since := "3.2.0"
  signal := some .returnValue
  behaviour := .compute { run := returnFrom }

/-- Ends the script. -/
def die : Entry where
  name := "die"
  arity := .fixed [0, 1]
  docs :=
    "void \x7b[message]\x7d Stops the script. The message, if any, is sent to the player first."
  signal := some .cancel
  behaviour := .contact .die

/-- Defines a procedure. -/
def proc : Entry where
  name := "proc"
  arity := .unbounded
  docs :=
    "void \x7b_name, [@param...], body\x7d Defines a procedure. Parameters may be given " ++
      "defaults with assign(@param, default); inside the body, @arguments holds every argument " ++
      "passed."
  since := "3.3.0"
  thrown := [.cast, .format, .insufficientArguments]
  behaviour := .form .proc

/-- Evaluates a text. -/
def eval : Entry where
  name := "eval"
  arity := .fixed [1]
  docs :=
    "string \x7bscript_string\x7d Compiles and runs the string as a script, returning the " ++
      "output of its statements. A compile failure is a FormatException; eval() nested too " ++
      "deeply is a RangeException."
  since := "3.1.0"
  thrown := [.format, .range]
  behaviour := .form .eval

/-- Assignment, loops, procedures and signals. -/
def control : List Entry :=
  [assign, forLoop, foreach, breakLoop, continueLoop, returnValue, die, proc,
    eval]

end CommandScript.Builtin
