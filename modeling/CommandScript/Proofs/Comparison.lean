import CommandScript.Builtin.Numeric
import CommandScript.Eval
import CommandScript.Proofs.Doubles

/-!
# Integers are compared as doubles

The functions that compare two values convert them to doubles first. So of two integers, the doubles
nearest to them are compared.

## Main definitions

* `CommandScript.Entry.Answers` — calls that give a value and do nothing else.
* `CommandScript.Builtin.ComparesAs` — the comparisons of two values answer as for two integers.

## Main results

* `CommandScript.Builtin.comparesAs_nearest` — integers compare as the doubles nearest to them.
* `CommandScript.Builtin.integers_compare_rounded` — when integers compare as they are.
-/

namespace CommandScript

/-- A call that gives a value and changes nothing, with or without a running script. -/
def Entry.Answers (e : Entry) (loc : Location) (args : List Value) (v : Value) : Prop :=
  ∀ lib fuel w, e.exec lib fuel loc args w = (.ok v, w) ∧
    e.execDetached lib fuel loc args w = (.ok v, w)

namespace Builtin

open Double

/-- The five comparisons of two values answer as for two integers. -/
structure ComparesAs (loc : Location) (v v' : Value) (x y : Int) : Prop where
  equals : equals.Answers loc [v, v'] (.boolean (decide (x = y)) loc)
  lt : lt.Answers loc [v, v'] (.boolean (decide (x < y)) loc)
  gt : gt.Answers loc [v, v'] (.boolean (decide (y < x)) loc)
  lte : lte.Answers loc [v, v'] (.boolean (decide (x ≤ y)) loc)
  gte : gte.Answers loc [v, v'] (.boolean (decide (y ≤ x)) loc)

namespace ComparesAs

variable {loc : Location} {v v' : Value} {x y x' y' : Int}

/-- The answers depend on the order of the two integers only. -/
lemma congr (h : ComparesAs loc v v' x y) (hlt : x < y ↔ x' < y') (hgt : y < x ↔ y' < x') :
    ComparesAs loc v v' x' y' := by
  have heq : decide (x' = y') = decide (x = y) := decide_eq_decide.mpr (by omega)
  have hle : decide (x' ≤ y') = decide (x ≤ y) := decide_eq_decide.mpr (by omega)
  have hge : decide (y' ≤ x') = decide (y ≤ x) := decide_eq_decide.mpr (by omega)
  exact ⟨heq ▸ h.equals, decide_eq_decide.mpr hlt ▸ h.lt, decide_eq_decide.mpr hgt ▸ h.gt,
    hle ▸ h.lte, hge ▸ h.gte⟩

/-- The answers tell whether the two integers are equal. -/
lemma eq_iff (h : ComparesAs loc v v' x y) (h' : ComparesAs loc v v' x' y') :
    x = y ↔ x' = y' := by
  have hsame := (h.equals .empty 0 {}).1.symm.trans (h'.equals .empty 0 {}).1
  have hvalue := Value.boolean.inj (Except.ok.inj (Prod.mk.inj hsame).1)
  exact decide_eq_decide.mp hvalue.1

end ComparesAs

/-- Integers of 64 bits are in the range of the doubles. -/
lemma stands_toDouble (x : Int64) : Stands (Number.int x).toDouble (nearest x.toInt) := by
  have hrange : x.toInt.natAbs < 2 ^ 64 := by
    have hlow := x.le_toInt
    have hhigh := x.toInt_lt
    omega
  exact stands_ofInt ((log2_le_of_lt hrange).trans (by decide))

/-- Integers are compared as the doubles nearest to them. -/
lemma comparesAs_nearest (loc l l' : Location) (x y : Int64) :
    ComparesAs loc (.int x l) (.int y l') (nearest x.toInt) (nearest y.toInt) := by
  have hx := stands_toDouble x
  have hy := stands_toDouble y
  constructor
  · have hbeq : decide (nearest x.toInt = nearest y.toInt) =
        ((Number.int x).toDouble == (Number.int y).toDouble) := by
      rw [Bool.eq_iff_iff, decide_eq_true_iff, hx.beq_iff hy]
    rw [hbeq]
    exact fun lib fuel w => ⟨rfl, rfl⟩
  · rw [← decide_eq_decide.mpr (hx.lt_iff hy)]
    exact fun lib fuel w => ⟨rfl, rfl⟩
  · rw [← decide_eq_decide.mpr (hy.lt_iff hx)]
    exact fun lib fuel w => ⟨rfl, rfl⟩
  · rw [← decide_eq_decide.mpr (hx.le_iff hy)]
    exact fun lib fuel w => ⟨rfl, rfl⟩
  · rw [← decide_eq_decide.mpr (hy.le_iff hx)]
    exact fun lib fuel w => ⟨rfl, rfl⟩

/-- Two integers are compared as the doubles nearest to them. So they are compared as they are if
and only if they are not two integers with the same nearest double. This cannot happen if both are
doubles, or if one of them is less than `2 ^ 53`. -/
theorem integers_compare_rounded (loc l l' : Location) (x y : Int64) :
    ComparesAs loc (.int x l) (.int y l') (nearest x.toInt) (nearest y.toInt) ∧
      (ComparesAs loc (.int x l) (.int y l') x.toInt y.toInt ↔
        (nearest x.toInt = nearest y.toInt → x = y)) ∧
      (x.toInt.natAbs < 2 ^ 53 ∨ y.toInt.natAbs < 2 ^ 53 ∨ IsDouble x.toInt ∧ IsDouble y.toInt →
        ComparesAs loc (.int x l) (.int y l') x.toInt y.toInt) := by
  have hnearest := comparesAs_nearest loc l l' x y
  have hexact (hinj : nearest x.toInt = nearest y.toInt → x.toInt = y.toInt) :
      ComparesAs loc (.int x l) (.int y l') x.toInt y.toInt := by
    have hmono : x.toInt ≤ y.toInt → nearest x.toInt ≤ nearest y.toInt := nearest_mono
    have hmono' : y.toInt ≤ x.toInt → nearest y.toInt ≤ nearest x.toInt := nearest_mono
    exact hnearest.congr (by omega) (by omega)
  refine ⟨hnearest, ⟨fun h heq => ?_, fun h => ?_⟩, fun h => hexact (eq_of_nearest_eq h)⟩
  · exact Int64.toInt_inj.mp ((hnearest.eq_iff h).mp heq)
  · exact hexact fun heq => congrArg Int64.toInt (h heq)

/-- A small integer and the largest one, which is no double. -/
theorem integers_compare_rounded_extremes :
    (3 : Int64).toInt.natAbs < 2 ^ 53 ∧
      ComparesAs .unknown (.int 3 .unknown) (.int 9223372036854775807 .unknown)
        (3 : Int64).toInt (9223372036854775807 : Int64).toInt := by
  have hsmall : (3 : Int64).toInt.natAbs < 2 ^ 53 := by decide
  exact ⟨hsmall, (integers_compare_rounded .unknown .unknown .unknown 3 _).2.2 (.inl hsmall)⟩

/-- The integer after `2 ^ 53` is rounded to `2 ^ 53`, which is then not less than it. -/
theorem lt_of_neighbours :
    (9007199254740992 : Int64) < 9007199254740993 ∧
      lt.Answers .unknown [.int 9007199254740992 .unknown, .int 9007199254740993 .unknown]
        (.boolean false .unknown) :=
  ⟨by decide, (comparesAs_nearest .unknown .unknown .unknown 9007199254740992 9007199254740993).lt⟩

end Builtin

end CommandScript
