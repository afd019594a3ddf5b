import CommandScript.Eval

/-!
# Auditing functions

Functions declare the failures and the signal that they may raise. An audit calls a function on
combinations of sample values, for every number of arguments that it accepts, and reports each
call that raised something else.

## Main definitions

* `CommandScript.Audit.combination` — the tuples of sample values, by number.
* `CommandScript.Audit.argumentSets` — the arguments that a function is called on.
* `CommandScript.Audit.Violation` — a call that raised something undeclared.
* `CommandScript.Entry.audit`, `CommandScript.Library.audit` — the audit of one function, and of
  all.
-/

namespace CommandScript

namespace Audit

/-- The numbers of arguments that are tried for functions that accept any. -/
def unboundedCounts : List Nat := [0, 1, 2, 3, 10]

/-- The most combinations that are tried for one number of arguments. -/
def maxCombinations : Nat := 10000

/-- The sample values; one of them is the given array. -/
def samples (pair : Ref) : List Value :=
  [.string "hi" .unknown, .int 1 .unknown, .int (-1) .unknown, .int 0 .unknown, .int 100 .unknown,
    .array pair .unknown, .null .unknown, .boolean true .unknown, .boolean false .unknown]

/-- The cells of the sample array. -/
def sampleCells : Array Value := #[.string "hi" .unknown, .int 1 .unknown]

/-- The tuple of `n` values with a number, whose digits choose the values, the last digit first. -/
def combination {α : Type} [Inhabited α] (values : List α) : (n index : Nat) → List α
  | 0, _ => []
  | n + 1, index =>
    values.getD (index % values.length) default :: combination values n (index / values.length)

/-- A number times a power of another, multiplied factor by factor; nothing as soon as a product
does not fit into a word of 64 bits. -/
def power? (size : Nat) : (n product : Nat) → Option Nat
  | 0, product => some product
  | n + 1, product =>
    if product * size < UInt64.size then power? size n (product * size) else none

/-- The number of tuples of `n` out of a number of values, if all of them are tried. Exponents have
32 bits. -/
def total? (size n : Nat) : Option Nat :=
  if n < UInt32.size then (power? size n 1).filter (· ≤ maxCombinations) else none

/-- The tuples of `n` values that are tried: all, or if these are too many then those with equal
components. -/
def tuples {α : Type} [Inhabited α] (values : List α) (n : Nat) : List (List α) :=
  match total? values.length n with
  | some total => (List.range total).map (combination values n)
  | none => values.map (List.replicate n ·)

/-- The numbers of arguments that are tried. -/
def counts : Arity → List Nat
  | .fixed cs => cs
  | .unbounded => unboundedCounts

/-- The arguments that a function is called on. -/
def argumentSets {α : Type} [Inhabited α] (values : List α) (a : Arity) : List (List α) :=
  (counts a).flatMap (tuples values)

/-- What a call raised. -/
inductive Problem where
  /-- A failure of an undeclared kind. -/
  | failure (k : Failure.Kind)
  /-- An undeclared signal. -/
  | signal (k : Signal.Kind)
deriving DecidableEq, Repr

/-- How a problem is shown. -/
def Problem.text : Problem → String
  | failure k => s!"raised undeclared {k.name}"
  | signal k => s!"raised undeclared signal {k.name}"

/-- A call that raised something undeclared. -/
structure Violation where
  /-- The function. -/
  function : String
  /-- The texts of the arguments after the call. -/
  args : List String
  /-- What was raised. -/
  problem : Problem
deriving DecidableEq, Repr

/-- How a violation is shown. -/
def Violation.text (v : Violation) : String :=
  v.function ++ "(" ++ ", ".intercalate v.args ++ "): " ++ v.problem.text

/-- What is undeclared in the end of a call. -/
def problem? (e : Entry) : Except Stop Value → Option Problem
  | .error (.halt (.failure f)) => if e.thrown.contains f.kind then none else some (.failure f.kind)
  | .error (.halt (.signal s)) => if e.signal = some s.kind then none else some (.signal s.kind)
  | _ => none

/-- The surroundings of an audited call: a privileged actor, and a server where nobody is online. -/
def surroundings : Environment :=
  { actor := some ⟨"validator", true⟩, server := some ⟨fun _ _ => false, fun _ _ => false⟩ }

/-- Audits a function on some argument lists. The arrays that a call changes stay changed. -/
def auditOn (lib : Library) (fuel : Nat) (e : Entry) : List (List Value) → Store → List Violation
  | [], _ => []
  | args :: rest, s =>
    let (r, w) := e.exec lib fuel .unknown args { env := surroundings, store := s }
    match problem? e r with
    | some p => ⟨e.name, args.map (·.text w.store), p⟩ :: auditOn lib fuel e rest w.store
    | none => auditOn lib fuel e rest w.store

end Audit

/-- The audit of one function. -/
def Entry.audit (lib : Library) (fuel : Nat) (e : Entry) : List Audit.Violation :=
  let (pair, s) := Store.empty.alloc Audit.sampleCells
  Audit.auditOn lib fuel e (Audit.argumentSets (Audit.samples pair) e.arity) s

/-- The audit of all functions of a library, by name. -/
def Library.audit (lib : Library) (fuel : Nat) : List Audit.Violation :=
  lib.entries.flatMap (·.audit lib fuel)

end CommandScript
