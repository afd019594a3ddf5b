import CommandScript.Proofs.Builtin
import CommandScript.Proofs.Run

/-!
# What functions do to arrays

A function of the language leaves the arrays as they are, or makes a new one, which holds arguments,
texts and nulls. Only one function changes an array that is there already: it adds a cell to it.

## Main definitions

* `CommandScript.Compute.Still` — computations that leave the arrays as they are.
* `CommandScript.Change` — what a function of the language may do to the arrays.

## Main results

* `CommandScript.change_of_compute` — the computations of the language do no more than that.
-/

namespace CommandScript

variable {why : String → Option String}

namespace Compute

variable {α β : Type}

/-- A computation that leaves the arrays as they are. -/
def Still (x : Compute α) : Prop := ∀ s, (x s).2 = s

namespace Still

lemma pure (a : α) : (Pure.pure a : Compute α).Still := fun _ => rfl

lemma fail (loc : Location) (c : Cause) : (Compute.fail loc c : Compute α).Still := fun _ => rfl

lemma raise (s : Signal) : (Compute.raise s : Compute α).Still := fun _ => rfl

lemma get : (MonadState.get : Compute Store).Still := fun _ => rfl

lemma textOf (v : Value) : (Compute.textOf v).Still := fun _ => rfl

lemma ofExcept (loc : Location) (r : Except Cause α) : (Compute.ofExcept loc r).Still := by
  cases r with
  | error c => exact fail loc c
  | ok a => exact pure a

lemma bind {x : Compute α} {f : α → Compute β} (hx : x.Still) (hf : ∀ a, (f a).Still) :
    (x >>= f).Still := by
  intro s
  rcases h : x s with ⟨e | a, t⟩
  · obtain rfl : t = s := by simpa [h] using hx s
    rw [bind_of_error h]
  · obtain rfl : t = s := by simpa [h] using hx s
    rw [bind_of_ok h, hf a t]

end Still

end Compute

/-- What the function with a name may do to the arrays when it is called on some arguments. -/
inductive Change (name : String) (args : List Value) (s : Store) : Store → Prop
  /-- Nothing. -/
  | none : Change name args s s
  /-- Makes a new array of arguments and of values that are no slots. -/
  | alloc {cells : List Value} : (∀ v ∈ cells, v ∈ args ∨ v.isSlot = false) →
      Change name args s (s.alloc cells.toArray).2
  /-- Adds the second argument to an array. -/
  | push {r : Ref} : name = "array_push" → Change name args s (s.push r (argument args 1))

namespace Builtin

open Compute

variable (loc : Location) (args : List Value)

lemma still_elementAt : (elementAt loc args).Still :=
  .bind (.textOf _) fun _ => .bind .get fun _ => .ofExcept loc _

lemma still_arrayOf (function : String) (v : Value) : (arrayOf function loc v).Still := by
  unfold arrayOf
  split
  · exact .pure _
  · exact .fail loc _

lemma still_sizeOfArray : (sizeOfArray loc args).Still :=
  .bind (still_arrayOf loc _ _) fun _ => .bind .get fun _ => .pure _

lemma still_accumulate (start : Number) (op : Number → Number → Except Cause Number) :
    (accumulate start op loc args).Still := .bind (.ofExcept loc _) fun _ => .pure _

lemma still_binary (op : Number → Number → Except Cause Number) : (binary op loc args).Still :=
  .bind (.ofExcept loc _) fun _ => .bind (.ofExcept loc _) fun _ =>
    .bind (.ofExcept loc _) fun _ => .pure _

lemma still_remainderOf : (remainderOf loc args).Still :=
  .bind (.ofExcept loc _) fun _ => .bind (.ofExcept loc _) fun _ =>
    .bind (.ofExcept loc _) fun _ => .pure _

lemma still_comparison (test : Float → Float → Bool) : (comparison test loc args).Still :=
  .bind (.ofExcept loc _) fun _ => .bind (.ofExcept loc _) fun _ => .pure _

lemma still_breakOut : (breakOut loc args).Still := by
  have hleave : ∀ levels : Int64, (if levels < 1 then do
        let _ ← (fail loc (.badLevels levels) : Compute PUnit)
        raise (.breakLoop (min levels.toNatClampNeg maxLevels))
      else raise (.breakLoop (min levels.toNatClampNeg maxLevels)) : Compute Value).Still := by
    intro levels
    split
    · exact .bind (.fail loc _) fun _ => .raise _
    · exact .raise _
  cases args with
  | nil => exact .bind (.pure 1) hleave
  | cons v _ => exact .bind (.ofExcept loc v.toInt) hleave

lemma still_characterAt : (characterAt loc args).Still :=
  .bind (.textOf _) fun _ => .bind (.textOf _) fun _ => .ofExcept loc _

/-- A match is an array of texts and nulls. -/
lemma change_matchPattern (name : String) (s : Store) :
    Change name args s (matchPattern why loc args s).2 := by
  have htext (v : Value) : Compute.textOf v s = (.ok (v.text s), s) := rfl
  rw [matchPattern, bind_of_ok (htext _)]
  cases Pattern.parse? ((argument args 0).text s) with
  | none => exact .none
  | some p =>
    dsimp only
    rw [bind_of_ok (htext _)]
    cases p.find? ((argument args 1).text s) with
    | none => exact .alloc (by simp)
    | some groups =>
      refine .alloc fun v hv => .inr ?_
      obtain ⟨g, -, rfl⟩ := List.mem_map.1 hv
      cases g <;> rfl

lemma change_pushToArray (s : Store) :
    Change "array_push" args s (pushToArray loc args s).2 := by
  have hstill := still_arrayOf loc "array_push" (argument args 0) s
  rcases h : arrayOf "array_push" loc (argument args 0) s with ⟨e | r, t⟩
  · obtain rfl : t = s := by simpa [h] using hstill
    rw [pushToArray, bind_of_error h]
    exact .none
  · obtain rfl : t = s := by simpa [h] using hstill
    rw [pushToArray, bind_of_ok h]
    exact .push rfl

end Builtin

open Builtin in
/-- The computations of the language leave the arrays as they are or make a new one, except for the
one that adds a cell to an array. -/
lemma change_of_compute : ∀ e ∈ builtins why, ∀ c, e.behaviour = .compute c → ∀ loc args s,
    Change e.name args s (c.run loc args s).2 := by
  have hstill {name : String} {run : Location → List Value → Compute Value}
      (h : ∀ loc args, (run loc args).Still) (loc : Location) (args : List Value) (s : Store) :
      Change name args s (run loc args s).2 := by
    rw [h loc args s]
    exact .none
  rw [forall_computations]
  refine ⟨hstill fun _ _ _ => rfl, hstill fun _ _ _ => rfl, fun _ _ _ => .alloc fun _ => .inl,
    hstill still_elementAt, hstill still_sizeOfArray, fun loc args => change_pushToArray loc args,
    hstill fun _ _ _ => rfl, hstill fun _ _ _ => rfl, hstill fun _ _ _ => rfl,
    hstill fun loc args => still_accumulate loc args _ _,
    hstill fun loc args => still_binary loc args _,
    hstill fun loc args => still_accumulate loc args _ _,
    hstill fun loc args => still_binary loc args _, hstill still_remainderOf,
    hstill fun _ _ _ => rfl,
    hstill fun loc args => still_comparison loc args _,
    hstill fun loc args => still_comparison loc args _,
    hstill fun loc args => still_comparison loc args _,
    hstill fun loc args => still_comparison loc args _, hstill fun _ _ _ => rfl,
    hstill still_breakOut, hstill fun _ _ _ => rfl, hstill fun _ _ _ => rfl,
    hstill fun _ _ _ => rfl, hstill fun _ _ _ => rfl, hstill fun _ _ _ => rfl,
    fun loc args => change_matchPattern loc args _, hstill fun _ _ _ => rfl,
    hstill still_characterAt, hstill fun _ _ _ => rfl, hstill fun _ _ _ => rfl,
    hstill fun _ _ _ => rfl, hstill fun _ _ _ => rfl⟩

end CommandScript
