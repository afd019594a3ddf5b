import CommandScript.Proofs.Comparison

/-!
# Arithmetic on integers is exact

Many values count as integers: integers, truth values, texts that spell an integer, and slots that
are bound to these. On such values the functions of arithmetic give the exact result, or they fail
because it is out of range. Sums and products of many values are taken step by step, and every step
has to be in range. A quotient is an integer only if the division is exact.

## Main definitions

* `CommandScript.Value.Counts` — the integer that a value counts as.
* `CommandScript.Entry.Gives`, `CommandScript.Entry.Refuses` — calls that give an integer, and calls
  that fail.
* `CommandScript.Entry.IsExact` — calls that give an integer as far as it is in range.
* `CommandScript.Builtin.Quotient`, `CommandScript.Builtin.Remainder` — what the division of two
  integers gives.

## Main results

* `CommandScript.Value.counts_iff` — values are taken as the numbers that they count as.
* `CommandScript.Builtin.combineAll_exact`, `CommandScript.Builtin.combineAll_overflow` — combining
  many integers step by step.
* `CommandScript.Number.inRange_tdiv` — the one quotient that is out of range.
* `CommandScript.Builtin.integer_arithmetic_is_exact` — all functions of arithmetic.
-/

namespace CommandScript

/-! ## Values that count as integers -/

/-- The integer that a value counts as. A truth value counts as zero or one, a text as the integer
that it spells between blanks, and a slot as the value that it is bound to. -/
inductive Value.Counts : Value → Int → Prop where
  | int (n : Int64) (loc : Location) : Counts (.int n loc) n.toInt
  | boolean (b : Bool) (loc : Location) : Counts (.boolean b loc) (if b then 1 else 0)
  | text {s : String} {n : Int64} (spells : Decimal.int64? (Text.trim s).toList = some n)
    (loc : Location) : Counts (.string s loc) n.toInt
  | slot (name default : String) (isOptional isFinal : Bool) {b : Value} {x : Int}
    (bound : b.Counts x)
    (loc : Location) : Counts (.slot name default isOptional isFinal b loc) x

namespace Value

/-- The values that count as an integer are those that arithmetic takes as one. -/
lemma counts_iff {v : Value} {x : Int} :
    v.Counts x ↔ ∃ n : Int64, n.toInt = x ∧ v.number = .ok (.int n) := by
  constructor
  · intro h
    induction h with
    | int n loc => exact ⟨n, rfl, rfl⟩
    | boolean b loc => cases b <;> exact ⟨_, rfl, rfl⟩
    | @text s n spells loc =>
      rw [Text.trim, String.toList_ofList] at spells
      refine ⟨n, rfl, ?_⟩
      simp only [number, resolved, spells]
    | slot name default isOptional isFinal bound loc ih => exact ih
  · rintro ⟨n, rfl, h⟩
    induction v with
    | string s loc =>
      simp only [number, resolved] at h
      split at h
      · next m hm =>
        obtain rfl := Number.int.inj (Except.ok.inj h)
        exact .text (by rw [Text.trim, String.toList_ofList, hm]) loc
      · split at h <;> cases h
    | int m loc =>
      obtain rfl := Number.int.inj (Except.ok.inj h)
      exact .int m loc
    | double y loc => cases h
    | boolean b loc =>
      obtain rfl := Number.int.inj (Except.ok.inj h)
      cases b
      · exact .boolean false loc
      · exact .boolean true loc
    | array r loc => cases h
    | slot name default isOptional isFinal b loc ih => exact .slot _ _ _ _ (ih h) loc
    | null loc => cases h
    | void loc => cases h
    | external t s d loc => cases h

end Value

/-! ## Results in range -/

namespace Number

open Decimal (inRange)

lemma inRange_iff {n : Int} : inRange n = true ↔ -2 ^ 63 ≤ n ∧ n < 2 ^ 63 := by
  have hmin : Int64.minValue.toInt = -2 ^ 63 := rfl
  have hmax : Int64.maxValue.toInt = 2 ^ 63 - 1 := rfl
  rw [inRange, hmin, hmax, Bool.and_eq_true, decide_eq_true_iff, decide_eq_true_iff]
  omega

lemma inRange_toInt (n : Int64) : inRange n.toInt = true :=
  inRange_iff.2 ⟨n.le_toInt, n.toInt_lt⟩

/-- A result in range is given as it is. -/
lemma exact_of_inRange (f : String) {n : Int} (h : inRange n = true) :
    ∃ i : Int64, i.toInt = n ∧ exact f n = .ok (.int i) := by
  obtain ⟨hlow, hhigh⟩ := inRange_iff.1 h
  refine ⟨Int64.ofInt n, Int64.toInt_ofInt_of_le hlow hhigh, ?_⟩
  rw [exact, Decimal.word?, if_pos h]

/-- A result out of range is a failure. -/
lemma exact_of_not_inRange (f : String) {n : Int} (h : ¬ inRange n = true) :
    exact f n = .error (.overflow f) := by
  rw [exact, Decimal.word?, if_neg h]

/-- Of the quotients of integers of 64 bits, one is out of range. -/
lemma inRange_tdiv (x : Int64) {y : Int} (hy : y ≠ 0) :
    inRange (x.toInt.tdiv y) = true ↔ ¬ (x.toInt = -2 ^ 63 ∧ y = -1) := by
  rw [inRange_iff]
  constructor
  · rintro ⟨-, h⟩ ⟨hx, rfl⟩
    rw [hx, Int.tdiv_neg, Int.tdiv_one] at h
    omega
  · intro hne
    by_contra hout
    -- a quotient out of range is as large as what is divided, which is then the least integer
    have hlow := x.le_toInt
    have hhigh := x.toInt_lt
    have hle := Int.natAbs_tdiv_le_natAbs x.toInt y
    have hx : x.toInt = -2 ^ 63 := by omega
    have hq : x.toInt.tdiv y = 2 ^ 63 := by omega
    have habs : x.toInt.natAbs / y.natAbs = x.toInt.natAbs := by
      calc x.toInt.natAbs / y.natAbs = (x.toInt.tdiv y).natAbs := (Int.natAbs_tdiv _ _).symm
        _ = x.toInt.natAbs := by rw [hq, hx]; rfl
    have hone : y.natAbs = 1 := (Nat.div_eq_self.1 habs).resolve_left (by omega)
    have hpos : y = 1 := by omega
    rw [hpos, Int.tdiv_one] at hq
    omega

/-- An integer is zero if the double nearest to it is. -/
lemma toDouble_beq_zero (y : Int64) : ((int y).toDouble == 0) = true ↔ y = 0 := by
  have hzero : Double.Stands (0 : Float) 0 := by
    have h := Double.stands_ofNat (n := 0) (by decide)
    rwa [Double.nearestNat_zero] at h
  rw [(Builtin.stands_toDouble y).beq_iff hzero]
  constructor
  · intro h
    have heq : y.toInt = 0 := Double.eq_of_nearest_eq (.inr (.inl (by decide))) h
    exact Int64.toInt_inj.1 heq
  · rintro rfl
    rfl

end Number

/-! ## Calls that give an integer or fail -/

namespace Entry

/-- A call that gives an integer and changes nothing. -/
def Gives (e : Entry) (loc : Location) (args : List Value) (x : Int) : Prop :=
  ∃ n : Int64, n.toInt = x ∧ e.Answers loc args (.int n loc)

/-- A call that fails with a failure of some kind at its place and changes nothing, with or without
a running script. -/
def Refuses (e : Entry) (loc : Location) (args : List Value) (kind : Failure.Kind) : Prop :=
  ∃ c : Cause, c.kind = kind ∧ ∀ lib fuel w,
    e.exec lib fuel loc args w = (.error (.halt (.failure ⟨c, loc⟩)), w) ∧
    e.execDetached lib fuel loc args w = (.error (.halt (.failure ⟨c, loc⟩)), w)

/-- A call that gives an integer under some condition, and fails because it is out of range
otherwise. -/
structure IsExact (e : Entry) (loc : Location) (args : List Value) (x : Int) (fits : Prop) :
    Prop where
  gives : fits → e.Gives loc args x
  refuses : ¬ fits → e.Refuses loc args .range

variable {e : Entry} {c : Computation} {loc : Location} {args : List Value} {v v' : Value} {x : Int}

/-- A call gives one value only. -/
lemma Answers.unique (h : e.Answers loc args v) (h' : e.Answers loc args v') : v = v' := by
  have hsame := (h .empty 0 {}).1.symm.trans (h' .empty 0 {}).1
  exact Except.ok.inj (Prod.mk.inj hsame).1

/-- A call that gives a value does not fail. -/
lemma Answers.not_refuses (h : e.Answers loc args v) (kind : Failure.Kind) :
    ¬ e.Refuses loc args kind := by
  rintro ⟨c, -, hc⟩
  have hsame := (h .empty 0 {}).1.symm.trans (hc .empty 0 {}).1
  cases (Prod.mk.inj hsame).1

/-- A function that computes gives what its computation gives. -/
lemma answers_of_compute (he : e.behaviour = .compute c) (h : c.run loc args = pure v) :
    e.Answers loc args v := by
  intro lib fuel w
  rw [exec, execDetached, he]
  dsimp only
  rw [h]
  exact ⟨rfl, rfl⟩

/-- A function that computes fails as its computation does. -/
lemma refuses_of_compute {cause : Cause} (he : e.behaviour = .compute c)
    (h : c.run loc args = Compute.fail loc cause) : e.Refuses loc args cause.kind := by
  refine ⟨cause, rfl, fun lib fuel w => ?_⟩
  rw [exec, execDetached, he]
  dsimp only
  rw [h]
  exact ⟨rfl, rfl⟩

end Entry

namespace Builtin

open Decimal (inRange)

/-! ## Sums and products -/

section Accumulate

variable {f : String} {onInts : Int → Int → Int} {onDoubles : Float → Float → Float}
  {args : List Value} {xs : List Int}

variable (f onDoubles) in
/-- If the results of combining the first integers are in range, however many of them, then so is
the result of combining all, and it is exact. -/
lemma combineAll_exact (hargs : List.Forall₂ Value.Counts args xs) (acc : Int64)
    (h : ∀ p, p <+: xs → inRange (p.foldl onInts acc.toInt) = true) :
    ∃ n : Int64, n.toInt = xs.foldl onInts acc.toInt ∧
      combineAll (Number.combine f onInts onDoubles) (.int acc) args = .ok (.int n) := by
  induction hargs generalizing acc with
  | nil => exact ⟨acc, rfl, rfl⟩
  | @cons v x args xs hv _ ih =>
    obtain ⟨m, rfl, hnumber⟩ := Value.counts_iff.1 hv
    obtain ⟨next, hnext, hstep⟩ :=
      Number.exact_of_inRange f (h [m.toInt] (List.prefix_append [m.toInt] xs))
    obtain ⟨n, hn, hrest⟩ := ih next fun p hp => by
      rw [hnext]
      exact h (m.toInt :: p) (List.cons_prefix_cons.2 ⟨rfl, hp⟩)
    refine ⟨n, by rw [hn, hnext]; rfl, ?_⟩
    have hcombine : Number.combine f onInts onDoubles (.int acc) (.int m) = .ok (.int next) := hstep
    rw [combineAll, hnumber]
    change (Number.combine f onInts onDoubles (.int acc) (.int m) >>= fun n => _) = _
    rw [hcombine]
    exact hrest

/-- If the result of combining the first integers is out of range, for some number of them, then
combining all fails. -/
lemma combineAll_overflow (hargs : List.Forall₂ Value.Counts args xs) (acc : Int64)
    (h : ¬ ∀ p, p <+: xs → inRange (p.foldl onInts acc.toInt) = true) :
    combineAll (Number.combine f onInts onDoubles) (.int acc) args = .error (.overflow f) := by
  induction hargs generalizing acc with
  | nil =>
    refine absurd (fun p hp => ?_) h
    rw [List.prefix_nil.1 hp]
    exact Number.inRange_toInt acc
  | @cons v x args xs hv _ ih =>
    obtain ⟨m, rfl, hnumber⟩ := Value.counts_iff.1 hv
    rw [combineAll, hnumber]
    change (Number.exact f (onInts acc.toInt m.toInt) >>= fun n => _) = _
    by_cases hfirst : inRange (onInts acc.toInt m.toInt) = true
    · -- the first step is in range, so a later one is not
      obtain ⟨next, hnext, hstep⟩ := Number.exact_of_inRange f hfirst
      rw [hstep]
      refine ih next fun hall => h fun p hp => ?_
      rcases List.prefix_cons_iff.1 hp with rfl | ⟨q, rfl, hq⟩
      · exact Number.inRange_toInt acc
      · rw [List.foldl_cons, ← hnext]
        exact hall q hq
    · rw [Number.exact_of_not_inRange f hfirst]
      rfl

/-- A function that combines its arguments step by step is exact as far as all steps are in range.
-/
lemma isExact_accumulate {e : Entry} (start : Int64) (he : e.behaviour = .compute
      { foldable := true, run := accumulate (.int start) (Number.combine f onInts onDoubles) })
    (loc : Location) (hargs : List.Forall₂ Value.Counts args xs) :
    e.IsExact loc args (xs.foldl onInts start.toInt)
      (∀ p, p <+: xs → inRange (p.foldl onInts start.toInt) = true) := by
  constructor
  · intro h
    obtain ⟨n, hn, hall⟩ := combineAll_exact f onDoubles hargs start h
    refine ⟨n, hn, Entry.answers_of_compute he ?_⟩
    change accumulate _ _ loc args = _
    rw [accumulate, hall]
    rfl
  · intro h
    have hrun : accumulate (.int start) (Number.combine f onInts onDoubles) loc args =
        Compute.fail loc (.overflow f) := by
      rw [accumulate, combineAll_overflow hargs start h]
      rfl
    exact Entry.refuses_of_compute he hrun

lemma isExact_add (loc : Location) (hargs : List.Forall₂ Value.Counts args xs) :
    add.IsExact loc args xs.sum (∀ p, p <+: xs → inRange p.sum = true) := by
  have h := isExact_accumulate (e := add) 0 rfl loc hargs
  simpa only [List.sum_eq_foldl, Int64.toInt_zero] using h

lemma isExact_multiply (loc : Location) (hargs : List.Forall₂ Value.Counts args xs) :
    multiply.IsExact loc args xs.prod (∀ p, p <+: xs → inRange p.prod = true) := by
  have h := isExact_accumulate (e := multiply) 1 rfl loc hargs
  simpa only [List.prod_eq_foldl, Int64.toInt_one] using h

end Accumulate

/-! ## Differences, quotients and remainders -/

section Binary

variable {a b : Value} {x y : Int}

/-- A function of two numbers gives what its operation gives, and fails as it does. -/
lemma ends_binary {e : Entry} {op : Number → Number → Except Cause Number} (he : e.behaviour =
      .compute { foldable := true, run := binary op }) (loc : Location) {m n : Number}
    (ha : a.number = .ok m) (hb : b.number = .ok n) :
    (∀ r, op m n = .ok r → e.Answers loc [a, b] (r.toValue loc)) ∧
      ∀ c, op m n = .error c → e.Refuses loc [a, b] c.kind := by
  have hbinary : binary op loc [a, b] =
      Compute.ofExcept loc (op m n) >>= fun r => pure (r.toValue loc) := by
    change (Compute.ofExcept loc a.number >>= fun m => Compute.ofExcept loc b.number >>= fun n =>
      Compute.ofExcept loc (op m n) >>= fun r => pure (r.toValue loc)) = _
    rw [ha, hb]
    rfl
  refine ⟨fun r h => Entry.answers_of_compute he ?_, fun c h => Entry.refuses_of_compute he ?_⟩
  · exact hbinary.trans (by rw [h]; rfl)
  · exact hbinary.trans (by rw [h]; rfl)

lemma isExact_subtract (loc : Location) (ha : a.Counts x) (hb : b.Counts y) :
    subtract.IsExact loc [a, b] (x - y) (inRange (x - y) = true) := by
  obtain ⟨m, rfl, hm⟩ := Value.counts_iff.1 ha
  obtain ⟨n, rfl, hn⟩ := Value.counts_iff.1 hb
  obtain ⟨hok, herror⟩ := ends_binary (e := subtract) rfl loc hm hn
  constructor
  · intro h
    obtain ⟨i, hi, hexact⟩ := Number.exact_of_inRange "subtract" h
    exact ⟨i, hi, hok _ hexact⟩
  · intro h
    exact herror _ (Number.exact_of_not_inRange "subtract" h)

/-- Two integers whose quotient is not defined or out of range. -/
def Undivided (x y : Int) : Prop := y = 0 ∨ x = -2 ^ 63 ∧ y = -1

/-- What the quotient of two integers is: a failure if it is not defined or out of range, an integer
if the division is exact, and else a double. -/
structure Quotient (loc : Location) (args : List Value) (x y : Int) : Prop where
  refuses : divide.Refuses loc args .range ↔ Undivided x y
  gives : ∀ q, divide.Gives loc args q ↔ ¬ Undivided x y ∧ q * y = x
  double : (∃ d, divide.Answers loc args (.double d loc)) ↔ ¬ Undivided x y ∧ ¬ y ∣ x

/-- What the remainder of two integers is: a failure if their quotient is not defined or out of
range, and else an integer, which is zero or of the sign of the first. -/
structure Remainder (loc : Location) (args : List Value) (x n : Int) : Prop where
  refuses : modulo.Refuses loc args .range ↔ Undivided x n
  gives : ¬ Undivided x n → ∃ r, modulo.Gives loc args r ∧ r.natAbs < n.natAbs ∧ n ∣ x - r ∧
    (r = 0 ∨ r.sign = x.sign)

/-- A quotient is an integer, in range or not, if the division is exact, and else a double. -/
lemma div_int (f : String) (m : Int64) {n : Int64} (hn : n ≠ 0) :
    Number.div f (.int m) (.int n) =
      if n.toInt ∣ m.toInt then Number.exact f (m.toInt.tdiv n.toInt)
      else .ok (.double ((Number.int m).toDouble / (Number.int n).toDouble)) := by
  have hzero : ¬ ((Number.int n).toDouble == 0) = true := fun h =>
    hn ((Number.toDouble_beq_zero n).1 h)
  rw [Number.div, if_neg hzero]
  simp only [Int.dvd_iff_tmod_eq_zero]

/-- The three ends of a division of integers. -/
lemma ends_divide (loc : Location) (ha : a.Counts x) (hb : b.Counts y) :
    (Undivided x y → divide.Refuses loc [a, b] .range) ∧
    (¬ Undivided x y → y ∣ x → divide.Gives loc [a, b] (x.tdiv y)) ∧
    (¬ Undivided x y → ¬ y ∣ x → ∃ d, divide.Answers loc [a, b] (.double d loc)) := by
  obtain ⟨m, rfl, hm⟩ := Value.counts_iff.1 ha
  obtain ⟨n, rfl, hn⟩ := Value.counts_iff.1 hb
  obtain ⟨hok, herror⟩ := ends_binary (e := divide) rfl loc hm hn
  by_cases hzero : n = 0
  · have hundivided : Undivided m.toInt n.toInt := .inl (by rw [hzero]; rfl)
    refine ⟨fun _ => herror .divisionByZero ?_, fun h => absurd hundivided h,
      fun h => absurd hundivided h⟩
    rw [Number.div, if_pos ((Number.toDouble_beq_zero n).2 hzero)]
  · have hne : n.toInt ≠ 0 := fun h => hzero (Int64.toInt_inj.1 h)
    have hrange := Number.inRange_tdiv m hne
    rw [div_int "divide" m hzero] at hok herror
    refine ⟨fun h => ?_, fun h hdvd => ?_, fun h hdvd => ?_⟩
    · obtain ⟨hleast, hminus⟩ := h.resolve_left hne
      have hdvd : n.toInt ∣ m.toInt := by
        rw [hminus]
        exact Int.neg_dvd.2 (one_dvd _)
      rw [if_pos hdvd] at herror
      exact herror _ (Number.exact_of_not_inRange "divide" fun h => hrange.1 h ⟨hleast, hminus⟩)
    · obtain ⟨q, hq, hexact⟩ := Number.exact_of_inRange "divide" (hrange.2 fun h' => h (.inr h'))
      rw [if_pos hdvd] at hok
      exact ⟨q, hq, hok _ hexact⟩
    · rw [if_neg hdvd] at hok
      exact ⟨_, hok _ rfl⟩

/-- The three ends exclude each other, so that each of them tells which integers were divided. -/
lemma quotient_divide (loc : Location) (ha : a.Counts x) (hb : b.Counts y) :
    Quotient loc [a, b] x y := by
  obtain ⟨hrefuses, hgives, hdouble⟩ := ends_divide loc ha hb
  constructor
  · refine ⟨fun h => ?_, hrefuses⟩
    by_contra hdivided
    by_cases hdvd : y ∣ x
    · obtain ⟨q, -, hq⟩ := hgives hdivided hdvd
      exact hq.not_refuses .range h
    · obtain ⟨d, hd⟩ := hdouble hdivided hdvd
      exact hd.not_refuses .range h
  · intro q
    constructor
    · rintro ⟨i, rfl, hi⟩
      have hdivided : ¬ Undivided x y := fun h => hi.not_refuses .range (hrefuses h)
      refine ⟨hdivided, ?_⟩
      by_cases hdvd : y ∣ x
      · obtain ⟨j, hj, hanswer⟩ := hgives hdivided hdvd
        obtain rfl : i = j := (Value.int.inj (hi.unique hanswer)).1
        rw [hj, Int.tdiv_mul_cancel hdvd]
      · obtain ⟨d, hd⟩ := hdouble hdivided hdvd
        cases hi.unique hd
    · rintro ⟨hdivided, rfl⟩
      have hne : y ≠ 0 := fun h => hdivided (.inl h)
      have h := hgives hdivided (Int.dvd_mul_left q y)
      rwa [Int.mul_tdiv_cancel q hne] at h
  · constructor
    · rintro ⟨d, hd⟩
      have hdivided : ¬ Undivided x y := fun h => hd.not_refuses .range (hrefuses h)
      refine ⟨hdivided, fun hdvd => ?_⟩
      obtain ⟨q, -, hq⟩ := hgives hdivided hdvd
      cases hd.unique hq
    · rintro ⟨hdivided, hdvd⟩
      exact hdouble hdivided hdvd

/-- The remainder is less than what it is taken by, so it is in range. -/
lemma toInt_ofInt_tmod (x : Int) {n : Int64} (hn : n.toInt ≠ 0) :
    (Int64.ofInt (x.tmod n.toInt)).toInt = x.tmod n.toInt := by
  have hless : (x.tmod n.toInt).natAbs < n.toInt.natAbs := by
    rw [Int.natAbs_tmod]
    exact Nat.mod_lt _ (by omega)
  have hlow := n.le_toInt
  have hhigh := n.toInt_lt
  exact Int64.toInt_ofInt_of_le (by omega) (by omega)

/-- The two ends of a remainder of integers. -/
lemma ends_modulo (loc : Location) (ha : a.Counts x) (hb : b.Counts y) :
    (Undivided x y → modulo.Refuses loc [a, b] .range) ∧
    (¬ Undivided x y → modulo.Gives loc [a, b] (x.tmod y)) := by
  obtain ⟨m, rfl, hm⟩ := Value.counts_iff.1 ha
  obtain ⟨n, rfl, hn⟩ := Value.counts_iff.1 hb
  have hmodulo : remainderOf loc [a, b] =
      Compute.ofExcept loc (Number.remainder "mod" m n) >>= fun r => pure (.int r loc) := by
    change (Compute.ofExcept loc (a.number.map Number.toInt) >>= fun m =>
      Compute.ofExcept loc (b.number.map Number.toInt) >>= fun n =>
      Compute.ofExcept loc (Number.remainder "mod" m n) >>= fun r => pure (Value.int r loc)) = _
    rw [hm, hn]
    rfl
  have hok (r : Int64) (h : Number.remainder "mod" m n = .ok r) :
      modulo.Answers loc [a, b] (.int r loc) :=
    Entry.answers_of_compute rfl (hmodulo.trans (by rw [h]; rfl))
  have herror (c : Cause) (h : Number.remainder "mod" m n = .error c) :
      modulo.Refuses loc [a, b] c.kind :=
    Entry.refuses_of_compute rfl (hmodulo.trans (by rw [h]; rfl))
  by_cases hzero : n = 0
  · refine ⟨fun _ => herror .modulusByZero ?_, fun h => absurd (.inl (by rw [hzero]; rfl)) h⟩
    rw [Number.remainder, if_pos hzero]
  · have hne : n.toInt ≠ 0 := fun h => hzero (Int64.toInt_inj.1 h)
    have hrange := Number.inRange_tdiv m hne
    refine ⟨fun h => herror (.overflow "mod") ?_, fun h => ?_⟩
    · have hout : ¬ inRange (m.toInt.tdiv n.toInt) = true := fun hin =>
        hrange.1 hin (h.resolve_left hne)
      rw [Number.remainder, if_neg hzero, Decimal.word?, if_neg hout]
    · have hin : inRange (m.toInt.tdiv n.toInt) = true := hrange.2 fun h' => h (.inr h')
      refine ⟨_, toInt_ofInt_tmod m.toInt hne, hok _ ?_⟩
      rw [Number.remainder, if_neg hzero, Decimal.word?, if_pos hin]

lemma remainder_modulo (loc : Location) (ha : a.Counts x) (hb : b.Counts y) :
    Remainder loc [a, b] x y := by
  obtain ⟨hrefuses, hgives⟩ := ends_modulo loc ha hb
  constructor
  · refine ⟨fun h => ?_, hrefuses⟩
    by_contra hdivided
    obtain ⟨r, -, hr⟩ := hgives hdivided
    exact hr.not_refuses .range h
  · intro hdivided
    have hne : y ≠ 0 := fun h => hdivided (.inl h)
    refine ⟨x.tmod y, hgives hdivided, ?_, Int.dvd_self_sub_of_tmod_eq rfl, ?_⟩
    · rw [Int.natAbs_tmod]
      exact Nat.mod_lt _ (by omega)
    · by_cases hdvd : y ∣ x
      · exact .inl (Int.dvd_iff_tmod_eq_zero.1 hdvd)
      · right
        rw [Int.sign_tmod, if_neg hdvd]

end Binary

/-! ## All functions of arithmetic -/

/-- Arithmetic on integers is exact.

On values that count as integers, whatever they are, a sum is the exact sum if the sums of the first
of them are in range, however many, and it fails because of the range otherwise; so is a product. A
difference is exact if it is in range. A quotient fails for a division by zero and for the one
quotient that is out of range; otherwise it is an integer if the division is exact, and a double if
not. A remainder fails in the same cases; otherwise it is less than what it is taken by, differs
from what was divided by a multiple of it, and is zero or of the sign of what was divided. -/
theorem integer_arithmetic_is_exact (loc : Location) {args : List Value} {xs : List Int}
    (hargs : List.Forall₂ Value.Counts args xs) {a b : Value} {x y : Int} (ha : a.Counts x)
    (hb : b.Counts y) :
    add.IsExact loc args xs.sum (∀ p, p <+: xs → inRange p.sum = true) ∧
    multiply.IsExact loc args xs.prod (∀ p, p <+: xs → inRange p.prod = true) ∧
    subtract.IsExact loc [a, b] (x - y) (inRange (x - y) = true) ∧
    Quotient loc [a, b] x y ∧ Remainder loc [a, b] x y :=
  ⟨isExact_add loc hargs, isExact_multiply loc hargs, isExact_subtract loc ha hb,
    quotient_divide loc ha hb, remainder_modulo loc ha hb⟩

/-- The largest integer, the truth value that counts as one, and a text: the sum of the three is in
range, but that of the first two is not. And the least integer, in a slot, divided by a text that
counts as minus one. -/
theorem integer_arithmetic_is_exact_extremes :
    add.Refuses .unknown [.int Int64.maxValue .unknown, .boolean true .unknown,
      .string " -1\n" .unknown] .range ∧
    divide.Refuses .unknown [.slot "x" "" false false (.int Int64.minValue .unknown) .unknown,
      .string "-1" .unknown] .range ∧
    subtract.Gives .unknown [.slot "x" "" false false (.int Int64.minValue .unknown) .unknown,
      .string "-1" .unknown] (-2 ^ 63 + 1) := by
  have hsum : List.Forall₂ Value.Counts [.int Int64.maxValue .unknown, .boolean true .unknown,
      .string " -1\n" .unknown] [2 ^ 63 - 1, 1, -1] :=
    .cons (.int Int64.maxValue _) (.cons (.boolean true _)
      (.cons (.text (n := -1) (by decide +kernel) _) .nil))
  have hleast : (Value.slot "x" "" false false (.int Int64.minValue .unknown) .unknown).Counts
      (-2 ^ 63) := .slot _ _ _ _ (.int Int64.minValue _) _
  have hminus : (Value.string "-1" .unknown).Counts (-1) := .text (n := -1) (by decide +kernel) _
  obtain ⟨hadd, -, hsubtract, hquotient, -⟩ :=
    integer_arithmetic_is_exact .unknown hsum hleast hminus
  refine ⟨hadd.refuses fun h => ?_, hquotient.refuses.2 (.inr ⟨rfl, rfl⟩),
    hsubtract.gives (by decide)⟩
  exact absurd (h [2 ^ 63 - 1, 1] (List.prefix_append _ [-1])) (by decide)

end Builtin

end CommandScript
