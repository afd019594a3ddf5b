import CommandScript.Decimal.Read
import CommandScript.Location
import CommandScript.Text.Blank

/-!
# Values

The values that scripts compute with. A value remembers the place it came from. Arrays are
references to cells kept elsewhere (`CommandScript.Store`), so that two values can share one
array.

## Main definitions

* `CommandScript.Value` — values, with their places.
* `CommandScript.Value.ofText` — the most specific value that a text spells.
* `CommandScript.Value.resolved` — the value behind a chain of slots.
* `CommandScript.Number` — the two kinds of numbers that arithmetic works on.

## Main results

* `CommandScript.Value.resolved_resolved` — following slots twice leads no further.
-/

namespace CommandScript

/-- A reference to an array in a store. -/
abbrev Ref := Nat

/-- The values of the script language. -/
inductive Value where
  /-- A text. -/
  | string (text : String) (loc : Location)
  /-- An integer of 64 bits. -/
  | int (n : Int64) (loc : Location)
  /-- A double. -/
  | double (x : Float) (loc : Location)
  /-- A truth value. -/
  | boolean (b : Bool) (loc : Location)
  /-- An array, by reference. -/
  | array (ref : Ref) (loc : Location)
  /-- A named slot with a default text and the value that it is bound to. -/
  | slot (name default : String) (isOptional isFinal : Bool) (bound : Value) (loc : Location)
  /-- The null value. -/
  | null (loc : Location)
  /-- The result of functions that return nothing; its text is empty. -/
  | void (loc : Location)
  /-- A value of the host, with the name of its type and its text. -/
  | external (typeName text : String) (isDynamic : Bool) (loc : Location)
deriving Inhabited

namespace Value

/-- The place that a value came from. -/
def loc : Value → Location
  | string _ l | int _ l | double _ l | boolean _ l | array _ l | slot _ _ _ _ _ l | null l | void l
  | external _ _ _ l => l

/-- The same value at another place. -/
def relocate (l : Location) : Value → Value
  | string s _ => string s l
  | int n _ => int n l
  | double x _ => double x l
  | boolean b _ => boolean b l
  | array r _ => array r l
  | slot n d o f b _ => slot n d o f b l
  | null _ => null l
  | void _ => void l
  | external t s d _ => external t s d l

@[simp] theorem loc_relocate (l : Location) (v : Value) : (v.relocate l).loc = l := by
  cases v <;> rfl

/-- The name of the sort of value; all host values are of one sort. -/
def sortName : Value → String
  | string .. => "string"
  | int .. => "int"
  | double .. => "double"
  | boolean .. => "boolean"
  | array .. => "array"
  | slot .. => "variable"
  | null .. => "null"
  | void .. => "void"
  | external .. => "ext"

/-- The name of the type of a value; host values have their own. -/
def typeName : Value → String
  | external t _ _ _ => t
  | v => v.sortName

/-- Whether a value may differ the next time it is looked at. -/
def isDynamic : Value → Bool
  | array .. | slot .. => true
  | external _ _ d _ => d
  | _ => false

/-- The value behind a chain of slots. -/
def resolved : Value → Value
  | slot _ _ _ _ b _ => b.resolved
  | v => v

/-- Whether a value, or the value that a slot is bound to, is null. -/
def isNull : Value → Bool
  | null _ => true
  | slot _ _ _ _ b _ => b.isNull
  | _ => false

/-- Whether a value is void; a slot never is. -/
def isVoid : Value → Bool
  | void _ => true
  | _ => false

/-- Whether a value is a slot. -/
def isSlot : Value → Bool
  | slot .. => true
  | _ => false

/-- Following slots ends at a value that is no slot. -/
theorem isSlot_resolved (v : Value) : v.resolved.isSlot = false := by
  fun_induction resolved v with
  | case1 _ _ _ _ b _ ih => exact ih
  | case2 v h => cases v <;> first | rfl | exact absurd rfl (h _ _ _ _ _ _)

/-- A value that is no slot is its own resolution. -/
theorem resolved_of_not_isSlot {v : Value} (h : v.isSlot = false) : v.resolved = v := by
  cases v <;> first | rfl | simp [isSlot] at h

/-- Following slots twice leads no further. -/
theorem resolved_resolved (v : Value) : v.resolved.resolved = v.resolved :=
  resolved_of_not_isSlot (isSlot_resolved v)

/-- The most specific value that a text spells: a keyword, an integer, a finite decimal, or else
the text itself. -/
def ofText (text : String) (loc : Location) : Value :=
  if text = "null" then null loc
  else if text = "true" then boolean true loc
  else if text = "false" then boolean false loc
  else match Decimal.int64? text.toList with
    | some n => int n loc
    | none =>
      match Decimal.double? text.toList with
      | some x => if x.isFinite then double x loc else string text loc
      | none => string text loc

/-- A slot bound to what its default text spells. -/
def newSlot (name default : String) (isOptional isFinal : Bool) (loc : Location) : Value :=
  slot name default isOptional isFinal (ofText default loc) loc

/-- The slot with another default text; its value stays. Only slots have one. -/
def withDefault (text : String) : Value → Value
  | slot n _ o f b l => slot n text o f b l
  | v => v

/-- The slot marked as optional or not. -/
def withOptional (isOptional : Bool) : Value → Value
  | slot n d _ f b l => slot n d isOptional f b l
  | v => v

/-- The slot marked as final or not. -/
def withFinal (isFinal : Bool) : Value → Value
  | slot n d o _ b l => slot n d o isFinal b l
  | v => v

end Value

/-- The numbers that arithmetic works on. -/
inductive Number where
  /-- An integer of 64 bits. -/
  | int (n : Int64)
  /-- A double. -/
  | double (x : Float)
deriving Inhabited

namespace Number

/-- The double nearest to a number. -/
def toDouble : Number → Float
  | int n => Float.ofInt n.toInt
  | double x => x

/-- The word nearest to an integer. -/
def clamp (n : Int) : Int64 :=
  if n < Int64.minValue.toInt then Int64.minValue
  else if Int64.maxValue.toInt < n then Int64.maxValue
  else Int64.ofInt n

/-- A double without its fraction, as the nearest word; what is no number counts as zero. -/
def truncate (x : Float) : Int64 :=
  if x < 0 then clamp (-((-x).toUInt64.toNat : Int)) else clamp (x.toUInt64.toNat : Int)

/-- The integer part of a number. -/
def toInt : Number → Int64
  | int n => n
  | double x => truncate x

/-- A number as a value. -/
def toValue (loc : Location) : Number → Value
  | int n => .int n loc
  | double x => .double x loc

end Number

end CommandScript
