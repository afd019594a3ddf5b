/-!
# Argument counts

## Main definitions

* `CommandScript.Arity` — the numbers of arguments that a function accepts.
* `CommandScript.Arity.accepts` — whether a number of arguments is one of them.
* `CommandScript.Arity.text` — how messages show them.
-/

namespace CommandScript

/-- The numbers of arguments that a function accepts. -/
inductive Arity where
  /-- One of the listed counts. -/
  | fixed (counts : List Nat)
  /-- Any number of arguments. -/
  | unbounded
deriving DecidableEq, Repr

namespace Arity

/-- Whether `n` arguments are accepted. -/
def accepts : Arity → Nat → Bool
  | fixed counts, n => counts.contains n
  | unbounded, _ => true

/-- Whether no number of arguments is accepted. -/
def isEmpty : Arity → Bool
  | fixed counts => counts.isEmpty
  | unbounded => false

/-- How messages show the accepted counts. -/
def text : Arity → String
  | fixed counts => " or ".intercalate (counts.map (fun n => s!"{n}"))
  | unbounded => "any number"

/-- An arity is empty exactly if it accepts no count. -/
theorem isEmpty_iff (a : Arity) : a.isEmpty = true ↔ ∀ n, a.accepts n = false := by
  cases a with
  | fixed counts =>
    cases counts with
    | nil => simp [isEmpty, accepts]
    | cons c cs => simpa [isEmpty, accepts] using ⟨c, fun h => absurd rfl h⟩
  | unbounded => simp [isEmpty, accepts]

end Arity

end CommandScript
