import CommandScript.CompileError
import CommandScript.Library
import CommandScript.Node

/-!
# Folding calls on constants

A call of a foldable function whose arguments are all constants is replaced by its value, from
the innermost calls outward, so that one pass reaches every call that can be folded. The value
takes the place of the call in the script. A call that halts makes the script fail to compile.

## Main definitions

* `CommandScript.Compile` — compiling, which may fail, and may create arrays.
* `CommandScript.Node.fold` — an expression with its calls on constants folded.
-/

namespace CommandScript

/-- Compiling, which may fail. Folded calls may create arrays. -/
abbrev Compile : Type → Type := ExceptT CompileError (StateM Store)

/-- The value of a foldable call, or the reason why it has none. -/
def Computation.fold (c : Computation) (name : String) (loc : Location) (args : List Value) :
    Compile Value := fun s =>
  match c.run loc args s with
  | (.ok v, s) => (.ok v, s)
  | (.error (.failure f), s) => (.error (.fold name f), s)
  | (.error (.signal g), s) => (.error (.fold name (g.toFailure loc)), s)

namespace Node

/-- The computation that may replace a call of a function on these arguments, and their values. -/
def foldable? (lib : Library) (name : String) (args : List Node) :
    Option (Computation × List Value) :=
  if isProcedureName name then none
  else do
    let values ← args.mapM static?
    let entry ← lib.find? name
    match entry.behaviour with
    | .compute c => if c.foldable then some (c, values) else none
    | _ => none

/-- A call, replaced by its value if it is a foldable one on constants. -/
def foldCall (lib : Library) (name : String) (args : List Node) (loc : Location) : Compile Node :=
  match foldable? lib name args with
  | some (c, values) => return literal ((← c.fold name loc values).relocate loc)
  | none => return call name args loc

mutual

/-- An expression with its calls on constants folded. -/
def fold (lib : Library) : Node → Compile Node
  | call name args loc => do foldCall lib name (← foldAll lib args) loc
  | n => return n

/-- A list of expressions, folded from the first to the last. -/
def foldAll (lib : Library) : List Node → Compile (List Node)
  | [] => return []
  | n :: ns => do
    let n' ← fold lib n
    let ns' ← foldAll lib ns
    return n' :: ns'

end

end Node

end CommandScript
