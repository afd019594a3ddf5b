import CommandScript.Pattern.Expr

/-!
# Programs for regular expressions

A program is a list of instructions. A thread stands at one of them; choices split it in two, of
which the first is preferred.

## Main definitions

* `CommandScript.Pattern.Instr` — the instructions.
* `CommandScript.Pattern.Expr.emit` — the instructions for an expression.
* `CommandScript.Pattern.Program.ofExpr` — the program for an expression.
-/

namespace CommandScript.Pattern

/-- The instructions, each with the positions of those that come next. -/
inductive Instr where
  /-- Takes one character of a set. -/
  | take (s : CharSet) (next : Nat)
  /-- Goes on where a condition holds. -/
  | look (l : Look) (next : Nat)
  /-- Goes on at either of two positions, the first one preferred. -/
  | split (first second : Nat)
  /-- Remembers the place in the text. -/
  | save (slot next : Nat)
  /-- The text matches. -/
  | accept

/-- Building a list of instructions. -/
abbrev Emit : Type → Type := StateM (Array Instr)

/-- Adds an instruction, and gives its position. -/
def Emit.add (i : Instr) : Emit Nat := do
  let code ← get
  set (code.push i)
  return code.size

/-- A choice between going on and leaving, in the order that is preferred. -/
def Instr.choice (greedy : Bool) (body exit : Nat) : Instr :=
  if greedy then split body exit else split exit body

namespace Expr

/-- The instructions for a number of copies, before the instruction at `next`. -/
def emitTimes (emit : Nat → Emit Nat) : (count next : Nat) → Emit Nat
  | 0, next => return next
  | n + 1, next => do emitTimes emit n (← emit next)

/-- The instructions for at most a number of copies, each of which may be left out with all that
follow it. -/
def emitAtMost (emit : Nat → Emit Nat) (greedy : Bool) (exit : Nat) : (count : Nat) → Emit Nat
  | 0 => return exit
  | n + 1 => do
    let rest ← emitAtMost emit greedy exit n
    let body ← emit rest
    Emit.add (.choice greedy body exit)

/-- The instructions for any number of copies: those of one copy, and a choice after it. Gives the
position of the copy, and that of the choice. -/
def emitMany (emit : Nat → Emit Nat) (greedy : Bool) (exit : Nat) : Emit (Nat × Nat) := do
  let back ← Emit.add .accept
  let body ← emit back
  modify (·.setIfInBounds back (.choice greedy body exit))
  return (body, back)

/-- The instructions for some characters in a row. -/
def emitLiteral : (cs : List Char) → (next : Nat) → Emit Nat
  | [], next => return next
  | c :: cs, next => do Emit.add (.take (.singleton c) (← emitLiteral cs next))

/-- The instructions for an expression before the instruction at `next`: the position of the first.
A loop over an expression that takes a character is entered at the choice after a copy. Where a copy
may take nothing, another choice stands before the first copy: what follows an empty copy and what
follows no copy are then told apart. -/
def emit : Expr → (next : Nat) → Emit Nat
  | empty, next => return next
  | fail, next => Emit.add (.take .empty next)
  | literal cs, next => emitLiteral cs next
  | set s _, next => Emit.add (.take s next)
  | look l, next => Emit.add (.look l next)
  | seq a b, next => do a.emit (← b.emit next)
  | alt a b, next => do
    let first ← a.emit next
    let second ← b.emit next
    Emit.add (.split first second)
  | loop least most greedy e, next => do
    match most with
    | some m => emitTimes e.emit least (← emitAtMost e.emit greedy next (m - least))
    | none =>
      let (body, back) ← emitMany e.emit greedy next
      if 0 < least then emitTimes e.emit (least - 1) body
      else if e.takesSome then return back
      else Emit.add (.choice greedy body next)
  | group i e, next => do
    let stop ← Emit.add (.save (2 * i + 1) next)
    let body ← e.emit stop
    Emit.add (.save (2 * i) body)

end Expr

/-- A program. -/
structure Program where
  /-- The instructions. -/
  code : Array Instr
  /-- Where a thread starts. -/
  start : Nat
  /-- How many places are remembered. -/
  slots : Nat

/-- The program for an expression. The whole match is kept as group zero. -/
def Program.ofExpr (e : Expr) : Program :=
  let whole := Expr.group 0 e
  let (start, code) := (do whole.emit (← Emit.add .accept) : Emit Nat).run #[]
  ⟨code, start, 2 * whole.groups⟩

end CommandScript.Pattern
