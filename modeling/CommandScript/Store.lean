import CommandScript.Decimal.Shortest
import CommandScript.Value

/-!
# Arrays and the text of values

A store holds the cells of all arrays. Values refer to arrays by number, so an array can be
shared, and can contain itself. The text of a value shows an array as its cells between braces;
an array met again inside itself is shown as a mark.

## Main definitions

* `CommandScript.Store` — the cells of all arrays.
* `CommandScript.Store.alloc`, `cells`, `push` — a new array, its cells, and a cell added.
* `CommandScript.Value.text` — the text of a value.
* `CommandScript.Value.isTrue` — a value as a condition.

## Main results

* `CommandScript.Store.cells_alloc`, `CommandScript.Store.cells_push` — what the two changes do
  to the cells of every array.
-/

namespace CommandScript

/-- The cells of all arrays. -/
structure Store where
  /-- The cells of each array, by reference. -/
  arrays : Array (Array Value) := #[]
deriving Inhabited

namespace Store

/-- A store without arrays. -/
def empty : Store := {}

/-- The number of arrays. -/
def size (s : Store) : Nat := s.arrays.size

/-- The cells of an array; a reference to nothing has none. -/
def cells (s : Store) (r : Ref) : Array Value := s.arrays[r]?.getD #[]

/-- A new array with the given cells. -/
def alloc (s : Store) (cells : Array Value) : Ref × Store :=
  (s.arrays.size, ⟨s.arrays.push cells⟩)

/-- The store after a cell is added at the end of an array. -/
def push (s : Store) (r : Ref) (v : Value) : Store := ⟨s.arrays.modify r (·.push v)⟩

/-- A new array holds its cells, and all others keep theirs. -/
theorem cells_alloc (s : Store) (cs : Array Value) (r : Ref) :
    (s.alloc cs).2.cells r = if r = s.size then cs else s.cells r := by
  simp only [alloc, cells, size, Array.getElem?_push]
  split <;> simp_all

/-- A push adds the value to the cells of its array, and all others keep theirs. -/
theorem cells_push (s : Store) (r q : Ref) (v : Value) (h : r < s.size) :
    (s.push r v).cells q = if q = r then (s.cells r).push v else s.cells q := by
  have hr : r < s.arrays.size := h
  simp only [push, cells, Array.getElem?_modify]
  by_cases hq : r = q
  · subst hq
    simp [hr]
  · simp [hq, Ne.symm hq]

/-- How many arrays are not among the given ones. -/
def unopened (s : Store) (opened : List Ref) : Nat :=
  (List.range s.size).countP (!opened.contains ·)

/-- Opening one more array leaves fewer unopened. -/
theorem unopened_cons_lt {s : Store} {opened : List Ref} {r : Ref} (hr : r < s.size)
    (ho : r ∉ opened) : s.unopened (r :: opened) < s.unopened opened := by
  have key : ∀ l : List Nat, r ∈ l →
      l.countP (!(r :: opened).contains ·) < l.countP (!opened.contains ·) := by
    intro l
    induction l with
    | nil => simp
    | cons a l ih =>
      intro hm
      have hle : l.countP (!(r :: opened).contains ·) ≤ l.countP (!opened.contains ·) :=
        List.countP_mono_left fun x _ => by simp
      by_cases ha : a = r
      · subst ha
        simp [ho] at hle ⊢
        omega
      · have hm' : r ∈ l := by simpa [Ne.symm ha] using hm
        have := ih hm'
        simp [List.countP_cons, ha] at this ⊢
        omega
  exact key _ (List.mem_range.2 hr)

end Store

namespace Value

/-- The text of a value that is no array and no slot. -/
def plainText : Value → String
  | string s _ => s
  | int n _ => s!"{n.toInt}"
  | double x _ => Decimal.pointed x
  | boolean b _ => if b then "true" else "false"
  | null _ => "null"
  | external _ s _ _ => s
  | void _ | array .. | slot .. => ""

end Value

/-- The text of an array: its cells between braces, with slots followed to their values. An
array among those already `opened` further out is shown as a mark. -/
def Store.arrayText (s : Store) (opened : List Ref) (r : Ref) : String :=
  if r ∈ opened then "*recursion*"
  else if r < s.size then
    "\x7b" ++ ", ".intercalate ((s.cells r).toList.map fun cell =>
      match cell.resolved with
      | .array q _ => s.arrayText (r :: opened) q
      | v => v.plainText) ++ "\x7d"
  else "\x7b\x7d"
termination_by s.unopened opened
decreasing_by exact Store.unopened_cons_lt ‹_› ‹_›

namespace Value

/-- The text of a value. -/
def text (s : Store) (v : Value) : String :=
  match v.resolved with
  | array r _ => s.arrayText [] r
  | w => w.plainText

/-- A value as a condition: false, zero, null, void, an empty array and the texts that are blank,
`0` or `false` do not hold; all else does. -/
def isTrue (s : Store) (v : Value) : Bool :=
  match v.resolved with
  | boolean b _ => b
  | int n _ => n != 0
  | double x _ => x != 0
  | string t _ =>
    let t := Text.trim t
    !(t.isEmpty || t == "0" || t.map Char.toLower == "false")
  | array r _ => !(s.cells r).isEmpty
  | null _ | void _ | slot .. => false
  | external .. => true

/-- The number of characters of a text or of cells of an array. -/
def size? (s : Store) (v : Value) : Option Nat :=
  match v.resolved with
  | string t _ => some t.length
  | array r _ => some (s.cells r).size
  | _ => none

/-- A copy of a value. The copy of an array has the same cells and can be changed on its own. -/
def duplicate (s : Store) (v : Value) : Value × Store :=
  match v with
  | array r loc =>
    let (q, s) := s.alloc (s.cells r)
    (array q loc, s)
  | v => (v, s)

end Value

end CommandScript
