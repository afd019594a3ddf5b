import CommandScript.CharSet

/-!
# Tables of code points

Two ways to write down data about code points: runs that cover all code points from zero on, each
with a name, and ranges that list the code points with a property. The data comes in editions:
patterns go by the sixteenth, all other work on texts by the seventeenth.

## Main definitions

* `CommandScript.Unicode.Edition` — the editions of the data.
* `CommandScript.Unicode.Runs` — a value for each code point, as runs of equal values.
* `CommandScript.Unicode.readSet` — a set of characters, from a text with ranges.
* `CommandScript.Unicode.Shifts` — a change of code points, as distances that hold on ranges.
-/

namespace CommandScript.Unicode

/-- The editions of the data about characters. -/
inductive Edition where
  /-- The edition that patterns go by. -/
  | sixteenth
  /-- The edition that all other work on texts goes by. -/
  | seventeenth
deriving DecidableEq, Repr

/-- A value for each code point from zero on. -/
structure Runs (α : Type) where
  /-- The values, each with the number of code points in a row that have it. -/
  runs : List (α × Nat)

namespace Runs

variable {α : Type}

/-- The words of a text such as `Cc32Zs1`, each a name and a number. -/
def words : List Char → (name : List Char) → (number : Option Nat) → List (String × Nat)
  | [], name, number => number.toList.map (String.ofList name.reverse, ·)
  | c :: cs, name, number =>
    if c.isDigit then words cs name (some (number.getD 0 * 10 + (c.toNat - 48)))
    else match number with
      | some n => (String.ofList name.reverse, n) :: words cs [c] none
      | none => words cs (c :: name) none

/-- The runs that a text spells: for each the name of its value, and its length. -/
def read (value : String → α) (text : List String) : Runs α :=
  ⟨(words (String.join text).toList [] none).map fun w => (value w.1, w.2)⟩

/-- The characters from code point `n` on at which it changes whether their value satisfies a
condition. Whether those before do is `before`. -/
def turnsFrom (p : α → Bool) (before : Bool) (n : Nat) : List (α × Nat) → List Char
  | [] => []
  | (a, length) :: rest =>
    if p a = before then turnsFrom p before (n + length) rest
    else Char.ofNat n :: turnsFrom p (p a) (n + length) rest

/-- The characters whose value satisfies a condition. -/
def filter (r : Runs α) (p : α → Bool) : CharSet := .ofTurns (turnsFrom p false 0 r.runs)

end Runs

/-- The value of a hexadecimal digit. -/
def hexValue (c : Char) : Nat :=
  if c.isDigit then c.toNat - 48 else c.toNat - 87

/-- The number that hexadecimal digits spell. -/
def hexNumber (cs : List Char) : Nat := cs.foldl (fun n c => n * 16 + hexValue c) 0

/-- The number that decimal digits spell. -/
def decimalNumber (cs : List Char) : Nat := cs.foldl (fun n c => n * 10 + (c.toNat - 48)) 0

/-- A range such as `9-d`, or a single code point. -/
def readRange (word : String) : Char × Char :=
  match word.splitOn "-" with
  | [first, last] => (.ofNat (hexNumber first.toList), .ofNat (hexNumber last.toList))
  | _ => (.ofNat (hexNumber word.toList), .ofNat (hexNumber word.toList))

/-- The characters of the ranges that lines of hexadecimal numbers spell, the lower ones first. -/
def readSet (lines : List String) : CharSet :=
  .ofRanges (lines.flatMap fun line => (line.splitOn " ").map readRange)

/-- A distance by which some code points change: those from `first` to `last`, in steps. -/
structure Shift where
  /-- The first code point that changes. -/
  first : Nat
  /-- The last code point that changes. -/
  last : Nat
  /-- The distance between two neighbours that change. -/
  step : Nat
  /-- The distance from a code point to what it changes to. -/
  distance : Int
deriving Repr

/-- Whether a code point changes by this distance. -/
def Shift.covers (s : Shift) (n : Nat) : Bool :=
  s.first ≤ n && n ≤ s.last && (n - s.first) % s.step == 0

/-- The code points that change by this distance. -/
def Shift.sources (s : Shift) : List Nat :=
  (List.range ((s.last - s.first) / s.step + 1)).map (s.first + · * s.step)

/-- A change of code points. Those that no distance covers stay as they are. -/
structure Shifts where
  /-- The distances. -/
  shifts : List Shift

namespace Shifts

/-- The character that a character changes to. -/
def apply (s : Shifts) (c : Char) : Char :=
  match s.shifts.find? (·.covers c.toNat) with
  | some d => Char.ofNat ((c.toNat : Int) + d.distance).toNat
  | none => c

/-- The characters that change. -/
def changed (s : Shifts) : CharSet :=
  .ofChars (s.shifts.flatMap fun d => d.sources.map Char.ofNat)

/-- The characters that change, each with what it changes to. -/
def pairs (s : Shifts) : List (Char × Char) :=
  s.shifts.flatMap fun d =>
    d.sources.map fun n => (Char.ofNat n, Char.ofNat ((n : Int) + d.distance).toNat)

/-- The distance that a word such as `41,5a,1,32` or `100,12e,2,1` spells: two code points, the
step and the distance. -/
def readShift (word : String) : Option Shift :=
  match word.splitOn "," with
  | [first, last, step, distance] =>
    let distance : Int := match distance.toList with
      | '-' :: cs => -(decimalNumber cs : Int)
      | cs => decimalNumber cs
    some ⟨hexNumber first.toList, hexNumber last.toList, decimalNumber step.toList, distance⟩
  | _ => none

/-- The change that lines of distances spell. -/
def read (lines : List String) : Shifts :=
  ⟨lines.flatMap fun line => (line.splitOn " ").filterMap readShift⟩

end Shifts

end CommandScript.Unicode
