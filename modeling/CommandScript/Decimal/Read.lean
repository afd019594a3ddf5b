/-!
# Reading plain decimal numbers

Integers are an optional sign and ASCII digits, within the range of 64-bit signed words.
Other numbers are plain decimals: an optional minus sign, digits and at most one point, with
no exponent and no spelled-out infinities.

## Main definitions

* `CommandScript.Decimal.int64?` — a text as an integer of 64 bits.
* `CommandScript.Decimal.double?` — a text as a double, rounded to the nearest.
-/

namespace CommandScript.Decimal

/-- The number that a run of ASCII digits spells. -/
def valueOf (digits : List Char) : Nat :=
  digits.foldl (fun n c => 10 * n + (c.toNat - '0'.toNat)) 0

/-- The integer that an optional sign and at least one ASCII digit spell. -/
def int? (cs : List Char) : Option Int :=
  let unsigned (digits : List Char) : Option Nat :=
    if !digits.isEmpty && digits.all Char.isDigit then some (valueOf digits) else none
  match cs with
  | '-' :: digits => (unsigned digits).map fun n => -(n : Int)
  | '+' :: digits => (unsigned digits).map fun n => (n : Int)
  | digits => (unsigned digits).map fun n => (n : Int)

/-- Whether an integer is in the range of 64-bit signed words. -/
def inRange (n : Int) : Bool := Int64.minValue.toInt ≤ n && n ≤ Int64.maxValue.toInt

/-- The word that holds the integer `n`, if `n` is in range. -/
def word? (n : Int) : Option Int64 := if inRange n then some (Int64.ofInt n) else none

/-- A text as an integer of 64 bits. -/
def int64? (cs : List Char) : Option Int64 := (int? cs).bind word?

/-- The parts of a plain decimal before and after the point, for text of digits with at most
one point and at least one digit. -/
def parts? (cs : List Char) : Option (List Char × List Char) :=
  let whole := cs.takeWhile Char.isDigit
  match cs.dropWhile Char.isDigit with
  | [] => if whole.isEmpty then none else some (whole, [])
  | '.' :: fraction =>
    if fraction.all Char.isDigit && !(whole.isEmpty && fraction.isEmpty) then some (whole, fraction)
    else none
  | _ => none

/-- The double nearest to a plain decimal, given by its two parts. -/
def ofParts (whole fraction : List Char) : Float :=
  Float.ofScientific (valueOf (whole ++ fraction)) true fraction.length

/-- A text as a double: a plain decimal with an optional minus sign, rounded to the nearest.
A decimal too large for a finite double gives an infinity. -/
def double? (cs : List Char) : Option Float :=
  match cs with
  | '-' :: body => (parts? body).map fun p => -(ofParts p.1 p.2)
  | body => (parts? body).map fun p => ofParts p.1 p.2

end CommandScript.Decimal
