import CommandScript.Pattern.Escape

/-!
# Sets of characters in brackets

A set in brackets lists characters, ranges, classes and further sets in brackets. Two lists may be
joined by an operation on sets; operations are carried out from left to right.

## Main definitions

* `CommandScript.Pattern.Sized` — a set, and how deeply it was nested.
* `CommandScript.Pattern.Read.bracket` — reads a set in brackets.
-/

namespace CommandScript.Pattern

/-- A set of characters, and how deeply it was nested in the pattern. -/
structure Sized where
  /-- The set. -/
  set : CharSet
  /-- How deeply it was nested. -/
  depth : Nat := 0

/-- The operations on sets. -/
inductive SetOp where
  | inter
  | diff
  | symmDiff
deriving DecidableEq, Repr

/-- The result of an operation on sets. -/
def SetOp.apply (s t : CharSet) : SetOp → CharSet
  | inter => s ∩ t
  | diff => s \ t
  | symmDiff => s.symmDiff t

/-- The union of the items of a list. -/
def Sized.unionAll : List Sized → Sized
  | [] => ⟨.empty, 0⟩
  | [s] => s
  | ss => ⟨.unionAll (ss.map Sized.set), 1 + (ss.map Sized.depth).foldl max 0⟩

/-- An operation that waits for its second set. -/
abbrev Pending : Type := Option (SetOp × Sized)

/-- The result of a waiting operation. -/
def Sized.combine (f : Flags) (p : Pending) (s : Sized) : Sized :=
  match p with
  | none => s
  | some (op, t) => ⟨op.apply (f.fold t.set) (f.fold s.set), 1 + max t.depth s.depth⟩

namespace Read

/-- A character of a range. If only ASCII characters count, it has to be one. -/
def endpoint : Atom → Read Char
  | .literal c _ => do
    if !(← flags).unicode && 128 ≤ c.toNat then failure else return c
  | _ => failure

/-- The set that an item of a list stands for. -/
def itemSet : Atom → Read CharSet
  | .literal c b => return .singleton (← endpoint (.literal c b))
  | .set s => return s
  | .look _ => failure

/-- Reads a character or an escape in brackets. -/
def item : Read Atom := do
  let c ← peek
  skip
  if c = '\\' then escape else return .literal c false

/-- The first character after the next one that is no blank and no start of a comment. -/
def peekSecond? : Read (Option Char) := do
  let s ← get
  let after := s.rest.tail
  if s.flags.extended then
    let skipped := after.dropWhile Text.isBlank
    match skipped with
    | '#' :: cs => return (cs.dropWhile Text.isBlank).head?.or after.head?
    | cs => return cs.head?.or after.head?
  else return after.head?

/-- Reads a character, a class or a range. -/
def rangeOrItem : Read Sized := do
  let first ← item
  skipLayout
  let c ← peek
  let second ← peekSecond?
  if c != '-' || second = some ']' || second = some '-' then return ⟨← itemSet first, 0⟩
  else
    skipOn
    let _ ← peek
    let last ← item
    let lo ← endpoint first
    let hi ← endpoint last
    if lo ≤ hi then return ⟨.range lo hi, 0⟩ else failure

/-- Reads a set of ASCII characters with a name, such as `[:alpha:]`, if there is one. -/
def asciiClass? : Read (Option CharSet) := do
  let before ← get
  if ← skip? "[:" then
    let negated ← skip? "^"
    let s ← get
    let name := s.rest.takeWhile (· != ':')
    set { s with rest := s.rest.drop name.length }
    if ← skip? ":]" then
      match Ascii.named? (String.ofList name) with
      | some c =>
        let f ← flags
        if negated && !f.unicode then failure
        let c := f.fold c
        return some (if negated then c.compl else c)
      | none => pure ()
  set before
  return none

/-- Reads leading hyphens, which stand for themselves. -/
def leadingHyphens : (fuel : Nat) → Read (List Sized)
  | 0 => return []
  | fuel + 1 => do
    if (← peek) = '-' then
      skipOn
      let items ← leadingHyphens fuel
      return ⟨.singleton '-', 0⟩ :: items
    else return []

/-- Reads an opening bracket and what stands for itself right after it: whether the other
characters are meant, and the items. -/
def openBracket : Read (Bool × List Sized) := do
  skipOn
  let negated ← do
    if (← peek) = '^' then
      skipOn
      pure true
    else pure false
  let items ← leadingHyphens ((← get).rest.length + 1)
  if items.isEmpty && (← peek) = ']' then
    skipOn
    let _ ← peek
    return (negated, [⟨.singleton ']', 0⟩])
  else return (negated, items)

/-- The set of a whole pair of brackets. -/
def closed (negated : Bool) (s : Sized) : Read Sized := do
  let f ← flags
  if negated && !f.unicode then failure
  let folded := f.fold s.set
  return ⟨if negated then folded.compl else folded, 1 + s.depth⟩

/-- Reads an operation on sets, if there is one. -/
def setOp? : Read (Option SetOp) := do
  if ← skip? "&&" then return some .inter
  else if ← skip? "--" then return some .diff
  else if ← skip? "~~" then return some .symmDiff
  else return none

/-- Reads the rest of a list of items, up to the closing bracket. -/
def bracketBody : (fuel : Nat) → Pending → (items : List Sized) → Read Sized
  | 0, _, _ => failure
  | fuel + 1, pending, items => do
    skipLayout
    match ← peek with
    | '[' =>
      match ← asciiClass? with
      | some s => bracketBody fuel pending (⟨s, 0⟩ :: items)
      | none =>
        let (negated, inner) ← openBracket
        let s ← closed negated (← bracketBody fuel none inner)
        bracketBody fuel pending (s :: items)
    | ']' =>
      skip
      return (Sized.unionAll items).combine (← flags) pending
    | _ =>
      match ← setOp? with
      | some op =>
        let left := (Sized.unionAll items).combine (← flags) pending
        bracketBody fuel (some (op, left)) []
      | none => bracketBody fuel pending ((← rangeOrItem) :: items)

/-- Reads a set in brackets. -/
def bracket : Read Sized := do
  let (negated, items) ← openBracket
  closed negated (← bracketBody ((← get).rest.length + 1) none items)

end Read

end CommandScript.Pattern
