import CommandScript.Coercion

/-!
# Arithmetic

Arithmetic on integers is exact: a result outside the range of 64 bits is a failure and never
wraps around. With a double among the operands it is the arithmetic of doubles.

## Main definitions

* `CommandScript.Number.combine` — an operation on two numbers.
* `CommandScript.Number.add`, `sub`, `mul`, `div`, `negate` — the operations.
* `CommandScript.Number.remainder` — the remainder of integers, with the sign of the first.
-/

namespace CommandScript.Number

/-- An integer result as a number, or a failure of the function `f` if it is out of range. -/
def exact (f : String) (n : Int) : Except Cause Number :=
  match Decimal.word? n with
  | some w => .ok (.int w)
  | none => .error (.overflow f)

/-- An operation of the function `f` on two numbers. -/
def combine (f : String) (onInts : Int → Int → Int) (onDoubles : Float → Float → Float)
    (a b : Number) : Except Cause Number :=
  match a, b with
  | .int x, .int y => exact f (onInts x.toInt y.toInt)
  | a, b => .ok (.double (onDoubles a.toDouble b.toDouble))

/-- The sum of two numbers. -/
def add (f : String) : Number → Number → Except Cause Number := combine f (· + ·) (· + ·)

/-- The difference of two numbers. -/
def sub (f : String) : Number → Number → Except Cause Number := combine f (· - ·) (· - ·)

/-- The product of two numbers. -/
def mul (f : String) : Number → Number → Except Cause Number := combine f (· * ·) (· * ·)

/-- A number with its sign changed. -/
def negate (f : String) : Number → Except Cause Number
  | .int n => exact f (-n.toInt)
  | .double x => .ok (.double (-x))

/-- The quotient of two numbers, which is an integer only when the division is exact. -/
def div (f : String) (a b : Number) : Except Cause Number :=
  if b.toDouble == 0 then .error .divisionByZero
  else match a, b with
    | .int x, .int y =>
      if x.toInt.tmod y.toInt = 0 then exact f (x.toInt.tdiv y.toInt)
      else .ok (.double (a.toDouble / b.toDouble))
    | a, b => .ok (.double (a.toDouble / b.toDouble))

/-- The remainder of two integers, which has the sign of the first. Like the quotient, it fails
where the quotient is out of range. -/
def remainder (f : String) (x n : Int64) : Except Cause Int64 :=
  if n = 0 then .error .modulusByZero
  else match Decimal.word? (x.toInt.tdiv n.toInt) with
    | some _ => .ok (Int64.ofInt (x.toInt.tmod n.toInt))
    | none => .error (.overflow f)

end CommandScript.Number
