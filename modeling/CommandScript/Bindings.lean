/-!
# Names bound to things

A finite table from names to things, as a list of pairs in the order in which the names were
first bound.

## Main definitions

* `CommandScript.Bindings` — the table.
* `CommandScript.Bindings.get?`, `CommandScript.Bindings.insert` — looking up and binding.

## Main results

* `CommandScript.Bindings.get?_insert` — binding a name changes what that name stands for, and
  nothing else.
-/

namespace CommandScript

/-- A table from names to things. -/
structure Bindings (α : Type) where
  /-- The names and what they stand for. -/
  pairs : List (String × α) := []

namespace Bindings

variable {α : Type}

/-- The table without names. -/
def empty : Bindings α := {}

instance : Inhabited (Bindings α) := ⟨empty⟩

/-- What a name stands for. -/
def get? (b : Bindings α) (name : String) : Option α := (b.pairs.find? (·.1 == name)).map Prod.snd

/-- The number of names. -/
def size (b : Bindings α) : Nat := b.pairs.length

/-- The pairs with a name bound anew, in its old position if it was bound before. -/
def insertPair (name : String) (a : α) : List (String × α) → List (String × α)
  | [] => [(name, a)]
  | p :: ps => if p.1 = name then (name, a) :: ps else p :: insertPair name a ps

/-- The table with a name bound anew. -/
def insert (b : Bindings α) (name : String) (a : α) : Bindings α := ⟨insertPair name a b.pairs⟩

@[simp] theorem get?_empty (name : String) : (empty : Bindings α).get? name = none := rfl

/-- Binding a name changes what that name stands for, and nothing else. -/
@[simp] theorem get?_insert (b : Bindings α) (name other : String) (a : α) :
    (b.insert name a).get? other = if other = name then some a else b.get? other := by
  have key : ∀ ps : List (String × α),
      ((insertPair name a ps).find? (·.1 == other)).map Prod.snd =
        if other = name then some a else (ps.find? (·.1 == other)).map Prod.snd := by
    intro ps
    induction ps with
    | nil =>
      by_cases h : name = other
      · simp [insertPair, h]
      · simp [insertPair, h, Ne.symm h]
    | cons p ps ih =>
      simp only [insertPair]
      split
      · rename_i hp
        by_cases h : name = other
        · simp [h]
        · simp [hp, h, Ne.symm h]
      · rename_i hp
        by_cases h : p.1 = other
        · have : other ≠ name := fun e => hp (h.trans e)
          simp [h, this]
        · simp [h, ih]
  exact key b.pairs

end Bindings

end CommandScript
