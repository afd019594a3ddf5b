import CommandScript.Pattern.Expr

/-!
# Joining regular expressions

Expressions are put together in a plain form. Characters in a row are one literal, a set of one
character is that character, what stands in a row or is to choose from is not nested, and
alternatives that begin with the same parts have these parts in common: `x*a|x*b` is `x*(?:a|b)`.
The last rule decides what is preferred, because the common parts are then matched in one way for
all alternatives before one of these is chosen.

## Main definitions

* `CommandScript.Pattern.Expr.ofSet` — one character of a set.
* `CommandScript.Pattern.Expr.repeated` — an expression some number of times.
* `CommandScript.Pattern.Expr.seqAll` — expressions one after another.
* `CommandScript.Pattern.Expr.altAll` — expressions to choose from.
-/

namespace CommandScript.Pattern.Expr

/-! ## Single characters -/

/-- One character of a set. -/
def ofSet (s : CharSet) (ascii : Bool) : Expr :=
  match s.turns with
  | [] => fail
  | c :: _ => if s = .singleton c then literal [c] else set s ascii

/-- The character of a literal that has only one. -/
def char? : Expr → Option Char
  | literal [c] => some c
  | _ => none

/-- The set of an expression that takes one character of several, or matches nothing. -/
def set? : Expr → Option CharSet
  | fail => some .empty
  | set s _ => some s
  | _ => none

/-- One character of some expressions, if each of them is a single character, or each is a set. -/
def union? (es : List Expr) : Option Expr :=
  match es.mapM char? with
  | some cs => some (ofSet (.ofChars cs) false)
  | none => (es.mapM set?).map fun ss => ofSet (.unionAll ss) false

/-! ## Repetition -/

/-- An expression at least and at most some number of times. One that takes no characters is not
tried more than once, and an expression that may not occur at all keeps no text. -/
def repeated (least : Nat) (most : Option Nat) (greedy : Bool) (e : Expr) : Expr :=
  let (least, most) :=
    if e.takesNothing then (min least 1, some (min (most.getD 1) 1)) else (least, most)
  if most = some 0 then empty
  else if least = 1 ∧ most = some 1 then e
  else loop least most greedy e

/-! ## Sequences -/

/-- The expressions that stand in a row. -/
def factors : Expr → List Expr
  | empty => []
  | seq a b => a.factors ++ b.factors
  | e => [e]

/-- Puts an expression before others. Two literals become one. -/
def prepend : Expr → List Expr → List Expr
  | literal cs, literal ds :: es => literal (cs ++ ds) :: es
  | e, es => e :: es

/-- Expressions one after another, as they are given. -/
def chain : List Expr → Expr
  | [] => empty
  | [e] => e
  | e :: es => seq e (chain es)

/-- Expressions one after another. -/
def seqAll (es : List Expr) : Expr := chain ((es.flatMap factors).foldr prepend [])

/-! ## Alternatives -/

/-- The expressions to choose from. -/
def choices : Expr → List Expr
  | alt a b => a.choices ++ b.choices
  | e => [e]

/-- Any of some expressions, the earlier ones preferred, as they are given. -/
def choice : List Expr → Expr
  | [] => fail
  | [e] => e
  | e :: es => alt e (choice es)

/-- Any of some expressions, the earlier ones preferred. Single characters make one set. -/
def anyOf (es : List Expr) : Expr :=
  match es.flatMap choices with
  | [e] => e
  | es => (union? es).getD (choice es)

/-- The longest start that two rows have in common. -/
def commonStart : List Expr → List Expr → List Expr
  | a :: as, b :: bs => if a = b then a :: commonStart as bs else []
  | _, _ => []

/-- What several rows start with. A row of a single expression has no start. -/
def sharedStart : List (List Expr) → List Expr
  | row :: row' :: rows =>
    if (row :: row' :: rows).all (2 ≤ ·.length) then (row' :: rows).foldl commonStart row else []
  | _ => []

/-- Any of some expressions, the earlier ones preferred. What all of them start with stands before
the choice. -/
def altAll (es : List Expr) : Expr :=
  let rows := (es.flatMap choices).map factors
  let start := sharedStart rows
  seqAll (start ++ [anyOf (rows.map fun row => seqAll (row.drop start.length))])

end CommandScript.Pattern.Expr
