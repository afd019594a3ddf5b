/-!
# Shortest decimals

Every finite double stands for an interval of real numbers that round to it. The shortest
decimal of a double is the one with the fewest digits inside that interval; of two such
decimals the nearer one is taken, and of two equally near ones the larger.

The search runs over decimal grids, from a coarse one to finer ones, and tests on each the two
neighbours of the value; all comparisons are made in exact integer arithmetic.

## Main definitions

* `CommandScript.Decimal.Binary` — a positive double as an integer times a power of two.
* `CommandScript.Decimal.shortest` — digits and exponent of the shortest decimal.
* `CommandScript.Decimal.plain` — a double in positional notation with the fewest digits.
* `CommandScript.Decimal.pointed` — the same, with one decimal for whole numbers.
-/

namespace CommandScript.Decimal

/-- A positive number `significand * 2 ^ exponent`. -/
structure Binary where
  /-- The integer factor. -/
  significand : Nat
  /-- The power of two. -/
  exponent : Int
deriving DecidableEq, Repr

/-- The leading bit of a normal significand, `2 ^ 52`, which is not stored. -/
def hiddenBit : Nat := 0x10000000000000

/-- The magnitude of a finite double, read off its bits. -/
def Binary.ofFloat (x : Float) : Binary :=
  let bits : Nat := x.toBits.toNat
  let biased : Nat := bits / hiddenBit % 0x800
  let fraction : Nat := bits % hiddenBit
  if biased = 0 then ⟨fraction, -1074⟩ else ⟨hiddenBit + fraction, (biased : Int) - 1075⟩

/-- The digits `d` of a decimal and the power of ten `e` that scales them: `d * 10 ^ e`. -/
structure Scaled where
  /-- The digits, read as one number. -/
  digits : Nat
  /-- The power of ten. -/
  exponent : Int
deriving DecidableEq, Repr

/-- What a number and the ends of its rounding interval are in quarters of the last binary
place: the number, the lower end, the upper end, and whether the ends belong to it. -/
structure Interval where
  /-- The number itself. -/
  value : Nat
  /-- The lower end. -/
  low : Nat
  /-- The upper end. -/
  high : Nat
  /-- Whether the ends round to the number. -/
  closed : Bool
  /-- The power of two that scales the three. -/
  exponent : Int
deriving DecidableEq, Repr

/-- The reals that round to `b`. Below a power of two the neighbour is half as far away. The
ends round to the even neighbour. -/
def Binary.interval (b : Binary) : Interval :=
  let v := 4 * b.significand
  { value := v
    low := if b.significand = hiddenBit then v - 1 else v - 2
    high := v + 2
    closed := b.significand % 2 == 0
    exponent := b.exponent - 2 }

/-- The denominator of the factor `2 ^ exponent / 10 ^ g` that takes the interval to the grid of
multiples of `10 ^ g`. -/
def Interval.unit (i : Interval) (g : Int) : Nat :=
  Nat.pow 10 g.toNat * Nat.pow 2 (-i.exponent).toNat

/-- The numerator of that factor. -/
def Interval.scale (i : Interval) (g : Int) : Nat :=
  Nat.pow 10 (-g).toNat * Nat.pow 2 i.exponent.toNat

/-- On the grid of multiples of `10 ^ g`: the neighbour of the number that lies in the interval,
the nearer one if both do, the upper one of two that are equally near. -/
def Interval.onGrid (i : Interval) (g : Int) : Option Nat :=
  let unit := i.unit g
  let scale := i.scale g
  let within (d : Nat) : Bool :=
    if i.closed then decide (0 < d ∧ i.low * scale ≤ d * unit ∧ d * unit ≤ i.high * scale)
    else decide (0 < d ∧ i.low * scale < d * unit ∧ d * unit < i.high * scale)
  let below := i.value * scale / unit
  let above := below + 1
  match within below, within above with
  | true, true =>
    if 2 * (i.value * scale - below * unit) < unit then some below else some above
  | true, false => some below
  | false, true => some above
  | false, false => none

/-- The first grid at or below `10 ^ g` with a neighbour in the interval, looking at `n` grids;
if none has one, the number rounded down on the last grid. -/
def Interval.search (i : Interval) (g : Int) : Nat → Scaled
  | 0 => ⟨i.value * i.scale g / i.unit g, g⟩
  | n + 1 =>
    match i.onGrid g with
    | some d => ⟨d, g⟩
    | none => i.search (g - 1) n

/-- A power of ten above the number, from the number's length in bits. -/
def Binary.ceiling (b : Binary) : Int :=
  let bits : Int := (Nat.log2 b.significand : Int) + 1 + b.exponent
  bits * 30103 / 100000 + 1

/-- The shortest decimal that rounds to `b`. Seventeen digits always suffice, and the search
starts at most two places above the first digit. -/
def shortest (b : Binary) : Scaled := b.interval.search b.ceiling 20

/-- A scaled decimal in positional notation. -/
def Scaled.positional (s : Scaled) : String :=
  let digits := Nat.toDigits 10 s.digits
  match s.exponent with
  | .ofNat e => String.ofList (digits ++ List.replicate e '0')
  | .negSucc e =>
    let places := e + 1
    let padded := List.replicate (places + 1 - digits.length) '0' ++ digits
    let whole := padded.take (padded.length - places)
    let fraction := padded.drop (padded.length - places)
    String.ofList (whole ++ '.' :: fraction)

/-- The minus sign of a double, which negative zero has too. -/
def sign (x : Float) : String := if x.toBits.toNat.testBit 63 then "-" else ""

/-- A double in positional notation with the fewest digits that read back. -/
def plain (x : Float) : String :=
  if x.isNaN then "NaN"
  else if x.isInf then sign x ++ "inf"
  else if x == 0 then sign x ++ "0"
  else sign x ++ (shortest (Binary.ofFloat x)).positional

/-- Whole numbers from here on, `10 ^ 15`, are shown without a decimal. -/
def pointedLimit : Nat := 1000000000000000

/-- The integer that a finite double of magnitude below `10 ^ 15` is equal to, if it is whole,
without its sign. -/
def whole? (x : Float) : Option Nat :=
  let b := Binary.ofFloat x
  match b.exponent with
  | .ofNat e => let n := b.significand * Nat.pow 2 e; if n < pointedLimit then some n else none
  | .negSucc e =>
    let d := Nat.pow 2 (e + 1)
    let n := b.significand / d
    if b.significand % d = 0 ∧ n < pointedLimit then some n else none

/-- A double as scripts show it: whole numbers below `10 ^ 15` keep one decimal, all others
have the fewest digits that read back; there is never an exponent. -/
def pointed (x : Float) : String :=
  if x.isFinite then
    match whole? x with
    | some n => s!"{sign x}{n}.0"
    | none => plain x
  else plain x

end CommandScript.Decimal
