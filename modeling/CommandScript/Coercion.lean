import CommandScript.Failure
import CommandScript.Store

/-!
# Values as numbers, and elements of values

## Main definitions

* `CommandScript.Value.number` — a value as a number.
* `CommandScript.Value.toInt`, `CommandScript.Value.toDouble` — a value as a number of one kind.
* `CommandScript.Value.element` — a character of a text or a cell of an array.
* `CommandScript.Value.bind` — a slot bound to another value.
-/

namespace CommandScript

namespace Value

/-- A value as a number. A truth value counts as zero or one, and a text as the number that it
spells between blanks. -/
def number (v : Value) : Except Cause Number :=
  match v.resolved with
  | int n _ => .ok (.int n)
  | double x _ => .ok (.double x)
  | boolean b _ => .ok (.int (if b then 1 else 0))
  | string s _ =>
    let t := Text.strip s.toList
    match Decimal.int64? t with
    | some n => .ok (.int n)
    | none =>
      match Decimal.double? t with
      | some x => .ok (.double x)
      | none => .error (.notNumeric (String.ofList t))
  | w => .error (.noNumber w.typeName)

/-- A value as an integer; fractions are cut off. -/
def toInt (v : Value) : Except Cause Int64 := v.number.map Number.toInt

/-- A value as a double. -/
def toDouble (v : Value) : Except Cause Float := v.number.map Number.toDouble

/-- The integer that an index spells between blanks. -/
def indexOf (index : String) : Except Cause Int64 :=
  match Decimal.int64? (Text.strip index.toList) with
  | some i => .ok i
  | none => .error (.notIndex index)

/-- The character of a text at an index, as a text at the given place. -/
def character (text index : String) (loc : Location) : Except Cause Value := do
  let i ← indexOf index
  let cs := text.toList
  if i < 0 then throw (.outsideString i cs.length)
  match cs[i.toNatClampNeg]? with
  | some c => return string (String.singleton c) loc
  | none => throw (.outsideString i cs.length)

/-- The position in a list of `n` elements that an index means; a negative index counts from the
end. -/
def position? (i : Int64) (n : Nat) : Option Nat :=
  let p : Int := if i < 0 then n + i.toInt else i.toInt
  if 0 ≤ p ∧ p < n then some p.toNat else none

/-- The element of a text or of an array at an index. -/
def element (s : Store) (v : Value) (index : String) (loc : Location) : Except Cause Value :=
  match v.resolved with
  | string t _ => character t index loc
  | array r _ => do
    let i ← indexOf index
    let cells := s.cells r
    match (position? i cells.size).bind fun p => cells[p]? with
    | some cell => return cell
    | none => throw (.outsideArray i cells.size)
  | w => .error (.notIndexable w.typeName)

/-- The slot bound to another value, unless it is final. Only slots can be bound. -/
def bind (v new : Value) : Except Failure Value :=
  match v with
  | slot name default isOptional isFinal _ loc =>
    if isFinal then .error ⟨.finalSlot name, new.loc⟩
    else .ok (slot name default isOptional isFinal new loc)
  | v => .ok v

end Value

end CommandScript
