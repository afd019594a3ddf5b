import CommandScript.Arity
import CommandScript.Value

/-!
# Expression trees

A script is a list of expressions. An expression is a constant, a variable, or a call of a
function or procedure on expressions.

## Main definitions

* `CommandScript.Node` — expressions, with the places where they were written.
* `CommandScript.Node.size` — the number of nodes of an expression.
* `CommandScript.isProcedureName` — the mark that tells procedures from functions.
-/

namespace CommandScript

/-- An expression. -/
inductive Node where
  /-- A constant; its place is that of its value. -/
  | literal (value : Value)
  /-- A script variable `@name`. -/
  | ivar (name : String) (loc : Location)
  /-- A variable `$name`, bound by the host. -/
  | var (name : String) (loc : Location)
  /-- A call of a function or procedure. -/
  | call (name : String) (args : List Node) (loc : Location)
deriving Inhabited

namespace Node

/-- The place where an expression was written. -/
def loc : Node → Location
  | literal v => v.loc
  | ivar _ l | var _ l | call _ _ l => l

/-- The value of a constant that stays the same at every look. -/
def static? : Node → Option Value
  | literal v => if v.isDynamic then none else some v
  | _ => none

/-- Whether an expression is a constant that stays the same at every look. -/
def isStatic (n : Node) : Bool := n.static?.isSome

mutual

/-- The number of nodes of an expression. -/
def size : Node → Nat
  | call _ args _ => 1 + sizeAll args
  | _ => 1

/-- The number of nodes of a list of expressions. -/
def sizeAll : List Node → Nat
  | [] => 0
  | n :: ns => n.size + sizeAll ns

end

/-- Every expression has a node. -/
theorem size_pos (n : Node) : 0 < n.size := by
  cases n <;> simp only [size] <;> omega

end Node

/-- A name that starts with an underscore is that of a procedure. -/
def isProcedureName (name : String) : Bool := name.toList.head? == some '_'

end CommandScript
