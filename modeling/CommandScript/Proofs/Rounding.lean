import Mathlib.Algebra.Order.Ring.Abs
import Mathlib.Algebra.Order.Ring.Int
import Mathlib.Tactic.Lemma
import Mathlib.Tactic.Linarith
import Mathlib.Tactic.Ring

/-!
# Integers rounded to doubles

A double has 53 significant bits. Between two powers of two above that, the integers that are
doubles lie a fixed step apart, and every other integer is rounded to the nearer of its two
neighbours among them, or, half-way, to the one whose last bit is zero.

## Main definitions

* `CommandScript.Double.halfEven` — a quotient rounded to a natural number.
* `CommandScript.Double.nearest` — an integer rounded to a double.
* `CommandScript.Double.IsDouble` — the integers that are doubles.

## Main results

* `CommandScript.Double.halfEven_eq_iff` — rounded quotients are those at most a half away, and even
  if exactly a half away.
* `CommandScript.Double.nearest_mono` — rounding keeps the order.
* `CommandScript.Double.nearest_closest` — no double is nearer to an integer than the one that it is
  rounded to.
* `CommandScript.Double.eq_of_nearest_eq` — rounding tells apart doubles, and integers below `2 ^
  53` from all others.
-/

namespace CommandScript.Double

/-! ## Quotients -/

variable {a b q : Nat}

/-- The natural number nearest to a quotient; half-way between two of them, the even one. -/
def halfEven (a b : Nat) : Nat :=
  if 2 * (a % b) < b ∨ (2 * (a % b) = b ∧ a / b % 2 = 0) then a / b else a / b + 1

/-- A number at most a half away from a quotient, and even if it is exactly a half away. -/
structure IsHalfEven (a b q : Nat) : Prop where
  above : 2 * (b * q) ≤ 2 * a + b
  below : 2 * a ≤ 2 * (b * q) + b
  even : 2 * (b * q) = 2 * a + b ∨ 2 * a = 2 * (b * q) + b → q % 2 = 0

lemma isHalfEven_halfEven (hb : 0 < b) : IsHalfEven a b (halfEven a b) := by
  have hdiv := Nat.div_add_mod a b
  have hmod := Nat.mod_lt a hb
  unfold halfEven
  split
  · next h => constructor <;> omega
  · next h =>
    have hsucc : b * (a / b + 1) = b * (a / b) + b := by ring
    constructor <;> omega

/-- Smaller quotients are not rounded to larger numbers. -/
lemma IsHalfEven.mono {a' q' : Nat} (hb : 0 < b) (h : IsHalfEven a b q) (h' : IsHalfEven a' b q')
    (hle : a ≤ a') : q ≤ q' := by
  by_contra hlt
  -- then the two are neighbours, and both quotients lie half-way between them
  obtain ⟨d, rfl⟩ : ∃ d, q = q' + 1 + d := ⟨q - q' - 1, by omega⟩
  have hmul : b * (q' + 1 + d) = b * q' + b + b * d := by ring
  have habove := h.above
  have hbelow := h'.below
  have hd : b * d = 0 := by omega
  have heven := h.even (.inl (by omega))
  have heven' := h'.even (.inr (by omega))
  have : d = 0 := (Nat.mul_eq_zero.mp hd).resolve_left (by omega)
  omega

lemma halfEven_eq_iff (hb : 0 < b) : halfEven a b = q ↔ IsHalfEven a b q := by
  constructor
  · rintro rfl
    exact isHalfEven_halfEven hb
  · intro h
    exact Nat.le_antisymm ((isHalfEven_halfEven hb).mono hb h le_rfl)
      (h.mono hb (isHalfEven_halfEven hb) le_rfl)

lemma halfEven_mono {a' : Nat} (hb : 0 < b) (hle : a ≤ a') : halfEven a b ≤ halfEven a' b :=
  (isHalfEven_halfEven hb).mono hb (isHalfEven_halfEven hb) hle

lemma halfEven_mul_right {c : Nat} (hb : 0 < b) (hc : 0 < c) :
    halfEven (a * c) (b * c) = halfEven a b := by
  obtain ⟨habove, hbelow, heven⟩ := isHalfEven_halfEven (a := a) hb
  have hscale : ∀ x y : Nat, x * c = y * c → x = y := fun x y => Nat.eq_of_mul_eq_mul_right hc
  refine (halfEven_eq_iff (Nat.mul_pos hb hc)).mpr ⟨?_, ?_, fun h => heven ?_⟩
  · calc 2 * (b * c * halfEven a b) = 2 * (b * halfEven a b) * c := by ring
      _ ≤ (2 * a + b) * c := Nat.mul_le_mul_right c habove
      _ = 2 * (a * c) + b * c := by ring
  · calc 2 * (a * c) = 2 * a * c := by ring
      _ ≤ (2 * (b * halfEven a b) + b) * c := Nat.mul_le_mul_right c hbelow
      _ = 2 * (b * c * halfEven a b) + b * c := by ring
  · refine h.imp (fun h => hscale _ _ ?_) (fun h => hscale _ _ ?_)
    · linarith
    · linarith

lemma halfEven_mul_self (hb : 0 < b) : halfEven (q * b) b = q :=
  (halfEven_eq_iff hb).mpr ⟨by rw [Nat.mul_comm b]; omega, by rw [Nat.mul_comm b]; omega,
    fun h => by rw [Nat.mul_comm b] at h; omega⟩

/-- The rounded quotient is the nearest of all numbers. -/
lemma halfEven_closest (hb : 0 < b) (k : Nat) :
    |(a : Int) - b * halfEven a b| ≤ |(a : Int) - b * k| := by
  obtain ⟨habove, hbelow, -⟩ := isHalfEven_halfEven (a := a) hb
  generalize halfEven a b = q at habove hbelow
  zify at habove hbelow hb
  rcases lt_trichotomy k q with hlt | rfl | hlt
  · have hstep : (b : Int) * (k + 1) ≤ b * q := by
      exact_mod_cast Nat.mul_le_mul_left b hlt
    rw [abs_le, abs_of_nonneg (a := (a : Int) - b * k) (by linarith)]
    constructor <;> linarith
  · exact le_rfl
  · have hstep : (b : Int) * (q + 1) ≤ b * k := by
      exact_mod_cast Nat.mul_le_mul_left b hlt
    rw [abs_le, abs_of_nonpos (a := (a : Int) - b * k) (by linarith)]
    constructor <;> linarith

/-! ## Natural numbers -/

variable {n m : Nat}

/-- The distance between the doubles around a natural number. -/
def spacing (n : Nat) : Nat := 2 ^ (n.log2 - 52)

/-- A natural number rounded to a double. -/
def nearestNat (n : Nat) : Nat := halfEven n (spacing n) * spacing n

lemma spacing_pos : 0 < spacing n := Nat.two_pow_pos _

lemma log2_le_of_lt {k : Nat} (h : n < 2 ^ (k + 1)) : n.log2 ≤ k := by
  by_cases hn : n = 0
  · rw [hn]
    exact Nat.zero_le k
  · exact Nat.le_of_lt_succ ((Nat.log2_lt hn).mpr h)

/-- Numbers below `2 ^ 53` are doubles. -/
lemma nearestNat_of_lt (h : n < 2 ^ 53) : nearestNat n = n := by
  have hlog : n.log2 - 52 = 0 := Nat.sub_eq_zero_of_le (log2_le_of_lt h)
  have hone := halfEven_mul_self (b := 1) (q := n) one_pos
  rw [Nat.mul_one] at hone
  rw [nearestNat, spacing, hlog, pow_zero, hone, Nat.mul_one]

@[simp] lemma nearestNat_zero : nearestNat 0 = 0 := nearestNat_of_lt (by decide)

/-- Powers of two from the first bit of a number on are multiples of the distance around it. -/
lemma spacing_mul_halfEven {k : Nat} (hk : n.log2 ≤ k) :
    halfEven (2 ^ k) (spacing n) * spacing n = 2 ^ k := by
  have hmul : 2 ^ k = 2 ^ (k - (n.log2 - 52)) * spacing n := by
    rw [spacing, ← pow_add]
    congr 1
    omega
  rw [hmul, halfEven_mul_self spacing_pos]

lemma nearestNat_le_two_pow {k : Nat} (hk : n.log2 ≤ k) (h : n ≤ 2 ^ k) : nearestNat n ≤ 2 ^ k :=
  calc nearestNat n ≤ halfEven (2 ^ k) (spacing n) * spacing n :=
        Nat.mul_le_mul_right _ (halfEven_mono spacing_pos h)
    _ = 2 ^ k := spacing_mul_halfEven hk

lemma two_pow_log2_le_nearestNat (h : n ≠ 0) : 2 ^ n.log2 ≤ nearestNat n :=
  calc 2 ^ n.log2 = halfEven (2 ^ n.log2) (spacing n) * spacing n :=
        (spacing_mul_halfEven le_rfl).symm
    _ ≤ nearestNat n := Nat.mul_le_mul_right _ (halfEven_mono spacing_pos (Nat.log2_self_le h))

lemma nearestNat_mono (h : n ≤ m) : nearestNat n ≤ nearestNat m := by
  by_cases hn : n = 0
  · rw [hn, nearestNat_zero]
    exact Nat.zero_le _
  have hm : m ≠ 0 := by omega
  have hlog : n.log2 ≤ m.log2 := (Nat.le_log2 hm).mpr ((Nat.log2_self_le hn).trans h)
  rcases hlog.lt_or_eq with hlt | heq
  · -- a power of two lies between them
    have hpow : n ≤ 2 ^ m.log2 := ((Nat.log2_lt hn).mp hlt).le
    exact (nearestNat_le_two_pow hlog hpow).trans (two_pow_log2_le_nearestNat hm)
  · have hspacing : spacing n = spacing m := by rw [spacing, heq, spacing]
    rw [nearestNat, nearestNat, hspacing]
    exact Nat.mul_le_mul_right _ (halfEven_mono spacing_pos h)

/-- The significant bits of a rounded number. -/
def significand (n : Nat) : Nat := halfEven (n * 2 ^ 52) (2 ^ n.log2)

lemma nearestNat_mul (n : Nat) : nearestNat n * 2 ^ 52 = significand n * 2 ^ n.log2 := by
  rcases Nat.lt_or_ge n.log2 53 with hlog | hlog
  · have hlt : n < 2 ^ 53 :=
      Nat.lt_log2_self.trans_le (Nat.pow_le_pow_right Nat.two_pos hlog)
    have hsplit : n * 2 ^ 52 = n * 2 ^ (52 - n.log2) * 2 ^ n.log2 := by
      rw [Nat.mul_assoc, ← pow_add]
      congr 2
      omega
    rw [nearestNat_of_lt hlt, significand, hsplit, halfEven_mul_self (Nat.two_pow_pos _)]
  · have hsplit : 2 ^ n.log2 = spacing n * 2 ^ 52 := by
      rw [spacing, ← pow_add]
      congr 1
      omega
    rw [significand, hsplit, halfEven_mul_right spacing_pos (by decide), nearestNat]
    ring

lemma le_significand (hn : n ≠ 0) : 2 ^ 52 ≤ significand n :=
  calc 2 ^ 52 = halfEven (2 ^ 52 * 2 ^ n.log2) (2 ^ n.log2) :=
        (halfEven_mul_self (Nat.two_pow_pos _)).symm
    _ ≤ significand n := halfEven_mono (Nat.two_pow_pos _) <| by
        rw [Nat.mul_comm]
        exact Nat.mul_le_mul_right _ (Nat.log2_self_le hn)

/-- Rounding up may give one bit too many. -/
lemma significand_le (n : Nat) : significand n ≤ 2 ^ 53 :=
  calc significand n ≤ halfEven (2 ^ 53 * 2 ^ n.log2) (2 ^ n.log2) :=
        halfEven_mono (Nat.two_pow_pos _) <|
          calc n * 2 ^ 52 ≤ 2 ^ (n.log2 + 1) * 2 ^ 52 := Nat.mul_le_mul_right _ Nat.lt_log2_self.le
            _ = 2 ^ 53 * 2 ^ n.log2 := by ring
    _ = 2 ^ 53 := halfEven_mul_self (Nat.two_pow_pos _)

/-- The natural numbers with at most 53 significant bits. -/
def IsDoubleNat (d : Nat) : Prop := ∃ m e, m < 2 ^ 53 ∧ d = m * 2 ^ e

lemma isDoubleNat_nearestNat (n : Nat) : IsDoubleNat (nearestNat n) := by
  rcases Nat.lt_or_ge n (2 ^ 53) with hn | hn
  · exact ⟨n, 0, hn, by rw [nearestNat_of_lt hn, pow_zero, Nat.mul_one]⟩
  have hlog : 53 ≤ n.log2 := (Nat.le_log2 (by omega)).mpr hn
  have hvalue : nearestNat n = significand n * 2 ^ (n.log2 - 52) := by
    refine Nat.eq_of_mul_eq_mul_right (Nat.two_pow_pos 52) ?_
    rw [nearestNat_mul, Nat.mul_assoc, ← pow_add]
    congr 2
    omega
  rcases (significand_le n).lt_or_eq with hlt | heq
  · exact ⟨_, _, hlt, hvalue⟩
  · exact ⟨1, 53 + (n.log2 - 52), by decide, by rw [hvalue, heq, pow_add, Nat.one_mul]⟩

/-- From the first bit of a number on, doubles are multiples of the distance around it. -/
lemma IsDoubleNat.spacing_dvd {d : Nat} (h : IsDoubleNat d) (hd : 2 ^ n.log2 ≤ d) :
    spacing n ∣ d := by
  obtain ⟨m, e, hm, rfl⟩ := h
  have hlt : 2 ^ n.log2 < 2 ^ (53 + e) :=
    calc 2 ^ n.log2 ≤ m * 2 ^ e := hd
      _ < 2 ^ 53 * 2 ^ e := Nat.mul_lt_mul_of_pos_right hm (Nat.two_pow_pos e)
      _ = 2 ^ (53 + e) := (pow_add ..).symm
  have he : n.log2 - 52 ≤ e := by
    have := (Nat.pow_lt_pow_iff_right Nat.one_lt_two).mp hlt
    omega
  exact (Nat.pow_dvd_pow 2 he).mul_left m

lemma nearestNat_closest {d : Nat} (h : IsDoubleNat d) :
    |(n : Int) - nearestNat n| ≤ |(n : Int) - d| := by
  have hmultiple : ∀ k : Nat, |(n : Int) - nearestNat n| ≤ |(n : Int) - (spacing n * k : Nat)| := by
    intro k
    rw [nearestNat, Nat.mul_comm (halfEven n (spacing n))]
    exact_mod_cast halfEven_closest (a := n) (b := spacing n) spacing_pos k
  rcases Nat.lt_or_ge d (2 ^ n.log2) with hd | hd
  · -- smaller doubles are further away than the power of two below the number
    by_cases hn : n = 0
    · rw [hn, nearestNat_zero]
      simp
    have hlog := Nat.log2_self_le hn
    have hpow := hmultiple (halfEven (2 ^ n.log2) (spacing n))
    rw [Nat.mul_comm, spacing_mul_halfEven le_rfl] at hpow
    refine hpow.trans ?_
    rw [abs_of_nonneg (by omega), abs_of_nonneg (by omega)]
    omega
  · obtain ⟨k, rfl⟩ := h.spacing_dvd hd
    exact hmultiple k

/-! ## Integers -/

/-- An integer rounded to a double. -/
def nearest (n : Int) : Int := n.sign * nearestNat n.natAbs

/-- The integers that are doubles. -/
def IsDouble (d : Int) : Prop := IsDoubleNat d.natAbs

@[simp] lemma nearest_natCast (n : Nat) : nearest n = nearestNat n := by
  by_cases hn : n = 0
  · subst hn
    rfl
  · rw [nearest, Int.sign_natCast_of_ne_zero hn, Int.natAbs_natCast, one_mul]

@[simp] lemma nearest_neg (n : Int) : nearest (-n) = -nearest n := by
  rw [nearest, nearest, Int.sign_neg, Int.natAbs_neg, neg_mul]

lemma natAbs_nearest (n : Int) : (nearest n).natAbs = nearestNat n.natAbs := by
  obtain ⟨k, rfl | rfl⟩ := Int.eq_nat_or_neg n <;> simp

/-- Rounding keeps the order. -/
lemma nearest_mono {m n : Int} (h : m ≤ n) : nearest m ≤ nearest n := by
  obtain ⟨i, rfl | rfl⟩ := Int.eq_nat_or_neg m <;> obtain ⟨j, rfl | rfl⟩ := Int.eq_nat_or_neg n
  all_goals simp only [nearest_neg, nearest_natCast]
  · have := nearestNat_mono (show i ≤ j by omega)
    omega
  · obtain ⟨rfl, rfl⟩ : i = 0 ∧ j = 0 := by omega
    simp
  · omega
  · have := nearestNat_mono (show j ≤ i by omega)
    omega

/-- An integer is rounded to a double, and no double is nearer to it. -/
lemma nearest_closest (n : Int) :
    IsDouble (nearest n) ∧ ∀ d, IsDouble d → |n - nearest n| ≤ |n - d| := by
  constructor
  · rw [IsDouble, natAbs_nearest]
    exact isDoubleNat_nearestNat _
  · intro d hd
    have hsame : |n - nearest n| = |(n.natAbs : Int) - nearestNat n.natAbs| := by
      obtain ⟨k, rfl | rfl⟩ := Int.eq_nat_or_neg n
      · simp
      · rw [nearest_neg, nearest_natCast, Int.natAbs_neg, Int.natAbs_natCast, ← neg_sub', abs_neg]
    calc |n - nearest n| = |(n.natAbs : Int) - nearestNat n.natAbs| := hsame
      _ ≤ |(n.natAbs : Int) - d.natAbs| := nearestNat_closest hd
      _ = |(|n| - |d|)| := by rw [Int.natCast_natAbs, Int.natCast_natAbs]
      _ ≤ |n - d| := abs_abs_sub_abs_le n d

/-- Doubles are not rounded. -/
lemma IsDouble.nearest_eq {d : Int} (h : IsDouble d) : nearest d = d := by
  have := (nearest_closest d).2 d h
  rw [sub_self, abs_zero] at this
  exact (sub_eq_zero.mp (abs_nonpos_iff.mp this)).symm

lemma isDouble_of_lt {n : Int} (h : n.natAbs < 2 ^ 53) : IsDouble n :=
  ⟨n.natAbs, 0, h, by rw [pow_zero, Nat.mul_one]⟩

/-- An integer that is rounded to less than `2 ^ 53` is less than that itself. -/
lemma natAbs_lt_of_nearest {n : Int} (h : (nearest n).natAbs < 2 ^ 53) : n.natAbs < 2 ^ 53 := by
  by_contra hle
  have hmono := nearestNat_mono (Nat.le_of_not_lt hle)
  have hpow : nearestNat (2 ^ 53) = 2 ^ 53 := by decide
  rw [natAbs_nearest] at h
  omega

/-- Integers that are rounded to the same double are the same, if both are doubles or one of them is
less than `2 ^ 53`. -/
lemma eq_of_nearest_eq {m n : Int}
    (h : m.natAbs < 2 ^ 53 ∨ n.natAbs < 2 ^ 53 ∨ IsDouble m ∧ IsDouble n)
    (heq : nearest m = nearest n) : m = n := by
  have hdoubles : IsDouble m ∧ IsDouble n := by
    rcases h with hm | hn | h
    · have hn : n.natAbs < 2 ^ 53 := natAbs_lt_of_nearest <| by
        rw [← heq, (isDouble_of_lt hm).nearest_eq]
        exact hm
      exact ⟨isDouble_of_lt hm, isDouble_of_lt hn⟩
    · have hm : m.natAbs < 2 ^ 53 := natAbs_lt_of_nearest <| by
        rw [heq, (isDouble_of_lt hn).nearest_eq]
        exact hn
      exact ⟨isDouble_of_lt hm, isDouble_of_lt hn⟩
    · exact h
  rw [← hdoubles.1.nearest_eq, heq, hdoubles.2.nearest_eq]

end CommandScript.Double
