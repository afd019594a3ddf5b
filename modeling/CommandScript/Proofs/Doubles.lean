import CommandScript.Proofs.Rounding

/-!
# Doubles that stand for integers

The conversion of an integer to a double shifts the bits of the integer until 53 are left, rounds by
what was shifted out, and packs sign, exponent and mantissa into a word. Here it is followed bit by
bit: what comes out stands for the nearest double of the integer, and the order of doubles is the
order of the integers that they stand for.

## Main definitions

* `CommandScript.Double.Holds` — a quotient as a mantissa and two more bits.
* `CommandScript.Double.Denotes`, `CommandScript.Double.Stands` — doubles that stand for integers,
  unpacked and packed.

## Main results

* `CommandScript.Double.holds_shiftRight` — shifting keeps enough to round by.
* `CommandScript.Double.roundWithAccuracy_eq` — what rounding gives, for all numbers.
* `CommandScript.Double.denotes_roundWithAccuracy` — the bits of a number are rounded to its nearest
  double.
* `CommandScript.Double.Denotes.compare_eq` — doubles have the order of what they stand for.
* `CommandScript.Double.pack_finite`, `CommandScript.Double.unpack_cases` — what is packed, and what
  bits stand for.
* `CommandScript.Double.Denotes.unpack_pack` — packing loses nothing.
* `CommandScript.Double.stands_ofInt` — integers are converted to their nearest doubles.
-/

namespace CommandScript.Double

open Float.Model (Format UnpackedFloat totalExponent)
open Float.Model.UnpackedFloat

/-! ## Shifted mantissas -/

variable {em : ExtendedMantissa} {a b : Nat}

/-- A quotient, as its whole part and two bits on the rest: whether it is at least a half, and
whether it is something else than nothing or a half. -/
structure Holds (em : ExtendedMantissa) (a b : Nat) : Prop where
  mantissa : em.mantissa = a / b
  roundBit : em.roundBit = true ↔ b ≤ 2 * (a % b)
  stickyBit : em.stickyBit = true ↔ a % b ≠ 0 ∧ 2 * (a % b) ≠ b

lemma Holds.shiftRightOne (hb : 0 < b) (h : Holds em a b) : Holds em.shiftRightOne a (b * 2) := by
  have hmod := Nat.mod_lt a hb
  have hsplit : a % (b * 2) = a % b + b * (a / b % 2) := Nat.mod_mul
  refine ⟨?_, ?_, ?_⟩
  · rw [ExtendedMantissa.shiftRightOne, h.mantissa, Nat.div_div_eq_div_mul]
  · rw [ExtendedMantissa.shiftRightOne, h.mantissa, bne_iff_ne, hsplit]
    rcases Nat.mod_two_eq_zero_or_one (a / b) with hbit | hbit <;> rw [hbit] <;> omega
  · rw [ExtendedMantissa.shiftRightOne, Bool.or_eq_true, h.roundBit, h.stickyBit, hsplit]
    rcases Nat.mod_two_eq_zero_or_one (a / b) with hbit | hbit <;> rw [hbit] <;> omega

lemma Holds.shiftRight (hb : 0 < b) (h : Holds em a b) (k : Nat) :
    Holds (em >>> k) a (b * 2 ^ k) := by
  induction k with
  | zero =>
    rw [pow_zero, Nat.mul_one]
    exact h
  | succ k ih =>
    rw [pow_succ, ← Nat.mul_assoc]
    exact ih.shiftRightOne (Nat.mul_pos hb (Nat.two_pow_pos k))

lemma holds_exact (a : Nat) : Holds (ExtendedMantissa.ofMantissaAndAccuracy a .exact) a 1 := by
  have hmod : a % 1 = 0 := Nat.mod_one a
  exact ⟨(Nat.div_one a).symm, iff_of_false Bool.false_ne_true (by omega),
    iff_of_false Bool.false_ne_true (by omega)⟩

lemma holds_shiftRight (a k : Nat) :
    Holds (ExtendedMantissa.ofMantissaAndAccuracy a .exact >>> k) a (2 ^ k) := by
  have h := (holds_exact a).shiftRight Nat.one_pos k
  rwa [Nat.one_mul] at h

lemma Holds.roundedMantissa (hb : 0 < b) (h : Holds em a b) :
    em.roundedMantissa = halfEven a b := by
  obtain ⟨hm, hr, hs⟩ := h
  have hmod := Nat.mod_lt a hb
  rcases em with ⟨m, _ | _, _ | _⟩ <;>
    simp only [Bool.false_eq_true, false_iff, true_iff] at hm hr hs <;>
    simp only [ExtendedMantissa.roundedMantissa, ExtendedMantissa.accuracy,
      Accuracy.roundToNearestEven, halfEven] <;>
    split <;> omega

/-! ## Rounded doubles -/

/-- An unpacked double that stands for an integer. Its mantissa has 53 bits, and `k` is the exponent
of the first of them. -/
inductive Denotes : UnpackedFloat → Int → Prop
  | zero (s : Sign) : Denotes (.zero s) 0
  | finite {s : Sign} {m k n : Nat} {e : Int} {hm : 0 < m} (low : 2 ^ 52 ≤ m) (high : m < 2 ^ 53)
      (exponent : e = k - 52) (bound : k ≤ 1023) (value : m * 2 ^ k = n * 2 ^ 52) :
      Denotes (.finite s m e hm) (s.apply n)

lemma log2_mantissa {m : Nat} (low : 2 ^ 52 ≤ m) (high : m < 2 ^ 53) : m.log2 = 52 :=
  (Nat.log2_eq_iff (by omega)).mpr ⟨low, high⟩

/-- At most 53 bits are kept, and none below the smallest double. -/
lemma targetExponent_totalExponent (m : Nat) (e : Int) :
    Format.binary64.targetExponent (totalExponent m e) = max (m.log2 + e - 52) (-1074) := by
  have htarget (t : Int) : Format.binary64.targetExponent t = max (t - 53) (-1074) := rfl
  rw [htarget, totalExponent]
  omega

/-- The number of bits that a mantissa is shifted by. -/
def shiftAmount (m : Nat) (e : Int) : Nat := (max (m.log2 + e - 52) (-1074) - e).toNat

lemma shiftToTargetExponent_eq (m : Nat) (e : Int) (acc : Accuracy) :
    shiftToTargetExponent .binary64 m e acc =
      (ExtendedMantissa.ofMantissaAndAccuracy m acc >>> shiftAmount m e, e + shiftAmount m e) := by
  rw [shiftToTargetExponent, shiftToExponent, targetExponent_totalExponent]
  rfl

/-- A quotient is shifted and rounded, and what rounding gives is shifted once more if it has too
many bits. -/
lemma roundWithAccuracy_eq {m : Nat} {acc : Accuracy} (hb : 0 < b)
    (h : Holds (ExtendedMantissa.ofMantissaAndAccuracy m acc) a b) (s : Sign) (e : Int)
    {k k' r : Nat} (hk : shiftAmount m e = k) (hr : halfEven a (b * 2 ^ k) = r)
    (hk' : shiftAmount r (e + k) = k') :
    roundWithAccuracy .binary64 s m e acc =
      if hm : r / 2 ^ k' = 0 then .zero s
      else .finite s (r / 2 ^ k') (e + k + k') (Nat.pos_of_ne_zero hm) := by
  have hdef : ∀ p q, shiftToTargetExponent .binary64 m e acc = p →
      shiftToTargetExponent .binary64 p.1.roundedMantissa p.2 .exact = q →
      roundWithAccuracy .binary64 s m e acc = if hm : q.1.mantissa = 0 then .zero s
        else .finite s q.1.mantissa q.2 (Nat.pos_of_ne_zero hm) := by
    rintro _ _ rfl rfl
    rfl
  have hround := (h.shiftRight hb k).roundedMantissa (Nat.mul_pos hb (Nat.two_pow_pos k))
  have hmantissa := (holds_shiftRight r k').mantissa
  rw [hdef _ _ (shiftToTargetExponent_eq m e acc) (shiftToTargetExponent_eq _ _ _), hk, hround, hr,
    hk', hmantissa]

lemma halfEven_shifted {n j : Nat} (h : 52 ≤ n.log2 + j) :
    halfEven (n * 2 ^ j) (2 ^ (n.log2 + j - 52)) = significand n := by
  have hpow : 2 ^ (n.log2 + j - 52) * 2 ^ 52 = 2 ^ n.log2 * 2 ^ j := by
    rw [← pow_add, ← pow_add]
    congr 1
    omega
  calc halfEven (n * 2 ^ j) (2 ^ (n.log2 + j - 52))
      = halfEven (n * 2 ^ j * 2 ^ 52) (2 ^ (n.log2 + j - 52) * 2 ^ 52) :=
        (halfEven_mul_right (Nat.two_pow_pos _) (Nat.two_pow_pos _)).symm
    _ = halfEven (n * 2 ^ 52 * 2 ^ j) (2 ^ n.log2 * 2 ^ j) := by
        rw [hpow, Nat.mul_right_comm]
    _ = significand n := halfEven_mul_right (Nat.two_pow_pos _) (Nat.two_pow_pos _)

lemma log2_mul_two_pow {n : Nat} (hn : n ≠ 0) (j : Nat) : (n * 2 ^ j).log2 = n.log2 + j := by
  refine (Nat.log2_eq_iff (Nat.mul_ne_zero hn (Nat.two_pow_pos j).ne')).mpr ⟨?_, ?_⟩
  · rw [pow_add]
    exact Nat.mul_le_mul_right _ (Nat.log2_self_le hn)
  · rw [Nat.add_right_comm, pow_add]
    exact Nat.mul_lt_mul_of_pos_right Nat.lt_log2_self (Nat.two_pow_pos j)

/-- Rounding up may give one bit too many, and then the last bit is zero. -/
lemma exists_significand {n : Nat} (hn : n ≠ 0) :
    ∃ m c, c ≤ 1 ∧ 2 ^ 52 ≤ m ∧ m < 2 ^ 53 ∧ significand n = m * 2 ^ c := by
  rcases (significand_le n).lt_or_eq with hlt | heq
  · exact ⟨significand n, 0, by decide, le_significand hn, hlt, by rw [pow_zero, Nat.mul_one]⟩
  · exact ⟨2 ^ 52, 1, by decide, by decide, by decide, heq⟩

/-- A number that is written with enough bits after its point is rounded to the nearest double. -/
lemma denotes_roundWithAccuracy {n j : Nat} (hn : n ≠ 0) (hj : 52 ≤ n.log2 + j)
    (hlog : n.log2 ≤ 1022) (s : Sign) :
    Denotes (roundWithAccuracy .binary64 s (n * 2 ^ j) (-j) .exact) (s.apply (nearestNat n)) := by
  obtain ⟨m, c, hc, hlow, hhigh, hsig⟩ := exists_significand hn
  have hfirst : shiftAmount (n * 2 ^ j) (-j) = n.log2 + j - 52 := by
    rw [shiftAmount, log2_mul_two_pow hn]
    omega
  have hround : halfEven (n * 2 ^ j) (1 * 2 ^ (n.log2 + j - 52)) = m * 2 ^ c := by
    rw [Nat.one_mul, halfEven_shifted hj, hsig]
  have hsecond : shiftAmount (m * 2 ^ c) (-j + (n.log2 + j - 52 : Nat)) = c := by
    rw [shiftAmount, log2_mul_two_pow (by omega), log2_mantissa hlow hhigh]
    omega
  have hvalue : m * 2 ^ (n.log2 + c) = nearestNat n * 2 ^ 52 := by
    rw [nearestNat_mul, hsig, pow_add, Nat.mul_right_comm, Nat.mul_assoc]
  rw [roundWithAccuracy_eq Nat.one_pos (holds_exact _) s _ hfirst hround hsecond,
    Nat.mul_div_cancel _ (Nat.two_pow_pos c), dif_neg (by omega)]
  exact .finite hlow hhigh (by omega) (by omega) hvalue

/-! ## Order -/

section Order

variable {m m' k k' n n' : Nat}

lemma pos_of_value (low : 2 ^ 52 ≤ m) (hv : m * 2 ^ k = n * 2 ^ 52) : 0 < n := by
  have hpos : 0 < n * 2 ^ 52 := hv ▸ Nat.mul_pos (by omega) (Nat.two_pow_pos k)
  exact Nat.pos_of_mul_pos_right hpos

lemma value_lt (hv : m * 2 ^ k = n * 2 ^ 52) (hv' : m' * 2 ^ k' = n' * 2 ^ 52)
    (high : m < 2 ^ 53) (low : 2 ^ 52 ≤ m') (h : k < k' ∨ k = k' ∧ m < m') : n < n' := by
  refine Nat.lt_of_mul_lt_mul_right (a := 2 ^ 52) ?_
  rw [← hv, ← hv']
  rcases h with h | ⟨rfl, h⟩
  · calc m * 2 ^ k < 2 ^ 53 * 2 ^ k := Nat.mul_lt_mul_of_pos_right high (Nat.two_pow_pos k)
      _ = 2 ^ 52 * 2 ^ (k + 1) := by ring
      _ ≤ m' * 2 ^ k' := Nat.mul_le_mul low (Nat.pow_le_pow_right Nat.two_pos h)
  · exact Nat.mul_lt_mul_of_pos_right h (Nat.two_pow_pos k)

/-- Of two mantissas with 53 bits, the exponents are compared first. -/
lemma compare_value (hv : m * 2 ^ k = n * 2 ^ 52) (hv' : m' * 2 ^ k' = n' * 2 ^ 52)
    (low : 2 ^ 52 ≤ m) (high : m < 2 ^ 53) (low' : 2 ^ 52 ≤ m') (high' : m' < 2 ^ 53) :
    (compare (k - 52 : Int) (k' - 52)).then (compare m m') = compare (n : Int) n' := by
  rcases lt_trichotomy k k' with hk | rfl | hk
  · have hn := value_lt hv hv' high low' (.inl hk)
    rw [compare_lt_iff_lt.mpr (by omega : (k - 52 : Int) < k' - 52),
      compare_lt_iff_lt.mpr (by omega : (n : Int) < n')]
    rfl
  · rw [compare_eq_iff_eq.mpr (rfl : (k - 52 : Int) = k - 52), Ordering.then]
    rcases lt_trichotomy m m' with hm | rfl | hm
    · have hn := value_lt hv hv' high low' (.inr ⟨rfl, hm⟩)
      rw [compare_lt_iff_lt.mpr hm, compare_lt_iff_lt.mpr (by omega : (n : Int) < n')]
    · have hn : n = n' := Nat.eq_of_mul_eq_mul_right (Nat.two_pow_pos 52) (hv.symm.trans hv')
      rw [hn, compare_eq_iff_eq.mpr rfl, compare_eq_iff_eq.mpr rfl]
    · have hn := value_lt hv' hv high' low (.inr ⟨rfl, hm⟩)
      rw [compare_gt_iff_gt.mpr hm, compare_gt_iff_gt.mpr (by omega : (n' : Int) < n)]
  · have hn := value_lt hv' hv high' low (.inl hk)
    rw [compare_gt_iff_gt.mpr (by omega : (k' - 52 : Int) < k - 52),
      compare_gt_iff_gt.mpr (by omega : (n' : Int) < n)]
    rfl

lemma compare_neg_neg (x y : Int) : compare (-x) (-y) = (compare x y).swap := by
  rcases lt_trichotomy x y with h | rfl | h
  · rw [compare_lt_iff_lt.mpr h, compare_gt_iff_gt.mpr (neg_lt_neg h)]
    rfl
  · rw [compare_eq_iff_eq.mpr rfl, compare_eq_iff_eq.mpr rfl]
    rfl
  · rw [compare_gt_iff_gt.mpr h, compare_lt_iff_lt.mpr (neg_lt_neg h)]
    rfl

/-- Doubles have the order of the integers that they stand for. -/
lemma Denotes.compare_eq {u v : UnpackedFloat} {x y : Int} (hu : Denotes u x) (hv : Denotes v y) :
    u.compare v = some (compare x y) := by
  cases hu with
  | zero =>
    cases hv with
    | zero => rfl
    | @finite s _ _ n _ _ low _ _ _ hv =>
      have hn := pos_of_value low hv
      cases s
      · exact congrArg some (compare_gt_iff_gt.mpr (by simp only [Sign.apply]; omega)).symm
      · exact congrArg some (compare_lt_iff_lt.mpr (by simp only [Sign.apply]; omega)).symm
  | @finite s _ _ n _ _ low high he _ hu =>
    have hn := pos_of_value low hu
    cases hv with
    | zero =>
      cases s
      · exact congrArg some (compare_lt_iff_lt.mpr (by simp only [Sign.apply]; omega)).symm
      · exact congrArg some (compare_gt_iff_gt.mpr (by simp only [Sign.apply]; omega)).symm
    | @finite s' _ _ n' _ _ low' high' he' _ hv =>
      have hn' := pos_of_value low' hv
      have hvalue := compare_value hu hv low high low' high'
      subst he he'
      cases s <;> cases s'
      · have hswap := congrArg Ordering.swap hvalue
        exact congrArg some (hswap.trans (compare_neg_neg _ _).symm)
      · exact congrArg some (compare_lt_iff_lt.mpr (by simp only [Sign.apply]; omega)).symm
      · exact congrArg some (compare_gt_iff_gt.mpr (by simp only [Sign.apply]; omega)).symm
      · exact congrArg some hvalue

end Order

/-! ## Packed doubles -/

lemma ofBitVec_unpackSign (spec : Format) (s : Sign) (e : BitVec spec.exponentBits)
    (m : BitVec spec.mantissaBitsWithoutImplicit) :
    Sign.ofBitVec (unpackSign (packComponents spec s e m)) = s := by
  have hsign : unpackSign (packComponents spec s e m) = s.toBitVec := by
    refine BitVec.eq_of_getLsbD_eq fun i hi => ?_
    obtain rfl : i = 0 := by omega
    delta unpackSign
    simp [packComponents, BitVec.getLsbD_append, BitVec.getElem_append]
  rw [hsign]
  cases s <;> rfl

/-- The first bit of a mantissa is not packed. -/
lemma toNat_implicit {m : Nat} (low : 2 ^ 52 ≤ m) (high : m < 2 ^ 53) :
    (1#1 ++ BitVec.ofNat 52 m).toNat = m := by
  rw [BitVec.toNat_append, ← Nat.shiftLeft_add_eq_or_of_lt (BitVec.isLt _), BitVec.toNat_ofNat]
  simp only [BitVec.toNat_ofNat, Nat.shiftLeft_eq]
  omega

/-- A double is packed as an infinity exactly if it has no room for its exponent. -/
lemma pack_finite (s : Sign) (m : Nat) (e : Int) (hm : 0 < m) :
    UnpackedFloat.pack .binary64 (.finite s m e hm) =
      if 971 < e then packedInfinity .binary64 s
      else packComponents .binary64 s
        (BitVec.ofNat 11 (if m.log2 = 52 then (e + 1075).toNat else 0))
        (BitVec.ofNat 52 m) := by
  have hpack : UnpackedFloat.pack .binary64 (.finite s m e hm) =
      if 2 ^ 11 ≤ (e + Format.binary64.exponentBias + (52 : Nat)).toNat + 1
      then packedInfinity .binary64 s
      else if m.log2 + 1 = 53
      then packComponents .binary64 s
        (BitVec.ofNat 11 (e + Format.binary64.exponentBias + (52 : Nat)).toNat) (BitVec.ofNat 52 m)
      else packComponents .binary64 s 0#11 (BitVec.ofNat 52 m) := rfl
  have hbias : (Format.binary64.exponentBias : Int) = 1023 := rfl
  have hbiased : (e + Format.binary64.exponentBias + (52 : Nat)).toNat = (e + 1075).toNat := by
    omega
  rw [hpack, hbiased]
  by_cases he : 971 < e
  · rw [if_pos he, if_pos (by omega)]
  · rw [if_neg he, if_neg (by omega)]
    by_cases hlog : m.log2 = 52
    · rw [if_pos hlog, if_pos (by omega)]
    · rw [if_neg hlog, if_neg (by omega)]

/-- What bits stand for, by their exponent. If it is all ones, this is an infinity or no number; if
it is all zeros, zero or a small double; and else a double with one more bit than its mantissa. -/
lemma unpack_cases (bits : BitVec Format.binary64.numBits) :
    (unpackExponent bits = -1#11 ∧ (UnpackedFloat.unpack .binary64 bits).isFinite = false) ∨
    (unpackExponent bits = 0#11 ∧ ((∃ s, UnpackedFloat.unpack .binary64 bits = .zero s) ∨
      ∃ s m e hm, e = -1074 ∧ UnpackedFloat.unpack .binary64 bits = .finite s m e hm)) ∨
    unpackExponent bits ≠ -1#11 ∧ unpackExponent bits ≠ 0#11 ∧
      ∃ hm, UnpackedFloat.unpack .binary64 bits =
        .finite (.ofBitVec (unpackSign bits)) (1#1 ++ unpackMantissa bits).toNat
          ((unpackExponent bits).toNat - (Format.binary64.exponentBias + (52 : Nat))) hm := by
  by_cases hones : unpackExponent bits = -1#11
  · have hunpack : UnpackedFloat.unpack .binary64 bits = if unpackMantissa bits = 0#52
        then .infinity (.ofBitVec (unpackSign bits)) else .notANumber := if_pos hones
    refine .inl ⟨hones, ?_⟩
    rw [hunpack]
    split <;> rfl
  by_cases hzero : unpackExponent bits = 0#11
  · refine .inr (.inl ⟨hzero, ?_⟩)
    by_cases hmantissa : unpackMantissa bits = 0#52
    · exact .inl ⟨_, ((if_neg hones).trans (if_pos hzero)).trans (dif_pos hmantissa)⟩
    · have hexponent : ((unpackExponent bits).toNat : Int) -
          (Format.binary64.exponentBias + (52 : Nat)) + 1 = -1074 := by
        rw [hzero]
        rfl
      exact .inr ⟨_, _, _, _, hexponent,
        ((if_neg hones).trans (if_pos hzero)).trans (dif_neg hmantissa)⟩
  · exact .inr (.inr ⟨hones, hzero, _, (if_neg hones).trans (if_neg hzero)⟩)

/-- Nothing is lost when a double is packed. -/
lemma Denotes.unpack_pack {u : UnpackedFloat} {x : Int} (h : Denotes u x) :
    (Float.Model.pack u).unpack = u := by
  cases h with
  | zero s => cases s <;> rfl
  | @finite s m k n e hm low high he hk hv =>
    have hbias : Format.binary64.exponentBias = 1023 := rfl
    have hbiased : (e + 1075).toNat = k + 1023 := by omega
    have hunbiased :
        ((k + 1023 : Nat) : Int) - (Format.binary64.exponentBias + (52 : Nat)) = e := by
      omega
    have hbits : (BitVec.ofNat 11 (k + 1023)).toNat = k + 1023 :=
      Nat.mod_eq_of_lt (by omega)
    have hones : BitVec.ofNat 11 (k + 1023) ≠ -1#11 := fun h => by
      have hnat : (BitVec.ofNat 11 (k + 1023)).toNat = 2047 := congrArg BitVec.toNat h
      omega
    have hzero : BitVec.ofNat 11 (k + 1023) ≠ 0#11 := fun h => by
      have hnat : (BitVec.ofNat 11 (k + 1023)).toNat = 0 := congrArg BitVec.toNat h
      omega
    have hpack : UnpackedFloat.pack .binary64 (.finite s m e hm) =
        packComponents .binary64 s (BitVec.ofNat 11 (k + 1023)) (BitVec.ofNat 52 m) := by
      rw [pack_finite, if_neg (by omega), if_pos (log2_mantissa low high), hbiased]
    change UnpackedFloat.unpack .binary64 (UnpackedFloat.pack .binary64 (.finite s m e hm)) = _
    rw [hpack]
    obtain ⟨h, -⟩ | ⟨h, -⟩ | ⟨-, -, hm', hunpack⟩ := unpack_cases
      (packComponents .binary64 s (BitVec.ofNat 11 (k + 1023)) (BitVec.ofNat 52 m))
    · exact absurd (unpackExponent_packComponents.symm.trans h) hones
    · exact absurd (unpackExponent_packComponents.symm.trans h) hzero
    rw [hunpack, UnpackedFloat.finite.injEq, ofBitVec_unpackSign, unpackMantissa_packComponents,
      unpackExponent_packComponents, hbits]
    exact ⟨rfl, toNat_implicit low high, hunbiased⟩

/-! ## Conversion -/

/-- A double that stands for an integer. -/
def Stands (f : Float) (x : Int) : Prop := Denotes f.toModel.unpack x

lemma Denotes.stands {u : UnpackedFloat} {x : Int} (h : Denotes u x) :
    Stands (.ofModel (.pack u)) x := by
  rw [Stands]
  exact h.unpack_pack.symm ▸ h

lemma Denotes.neg {u : UnpackedFloat} {x : Int} (h : Denotes u x) : Denotes u.neg (-x) := by
  cases h with
  | zero s => exact .zero _
  | @finite s m k n e hm low high he hk hv =>
    have hsign : -s.apply n = (-s).apply n := by cases s <;> simp [Sign.apply]
    rw [hsign]
    exact .finite low high he hk hv

lemma Stands.neg {f : Float} {x : Int} (h : Stands f x) : Stands f.neg (-x) :=
  Denotes.stands (Denotes.neg h)

/-- The exponent of a double that stands for a number. -/
lemma log2_of_value {m k n : Nat} (low : 2 ^ 52 ≤ m) (high : m < 2 ^ 53)
    (hv : m * 2 ^ k = n * 2 ^ 52) : n.log2 = k := by
  have hlog := congrArg Nat.log2 hv
  rw [log2_mul_two_pow (by omega), log2_mul_two_pow (pos_of_value low hv).ne',
    log2_mantissa low high] at hlog
  omega

lemma unpack_one : (Float.ofBits 0x3FF0000000000000).toModel.unpack =
    .finite .positive (2 ^ 52) (-52) (by decide) := by
  rfl

/-- The product of two mantissas is computed with all its bits. -/
lemma mul_finite (s₁ s₂ : Sign) {m₁ m₂ : Nat} (e₁ e₂ : Int) (h₁ : 0 < m₁) (h₂ : 0 < m₂) :
    UnpackedFloat.mul .binary64 (.finite s₁ m₁ e₁ h₁) (.finite s₂ m₂ e₂ h₂) =
      roundWithAccuracy .binary64 (s₁ * s₂) (m₁ * m₂) (e₁ + e₂) .exact := rfl

/-- The product of a double and one is the same double. -/
lemma Denotes.mul_one {u : UnpackedFloat} {n : Nat} (h : Denotes u n) (hn : n < 2 ^ 53) :
    Denotes (u.mul .binary64 (.finite .positive (2 ^ 52) (-52) (by decide))) n := by
  generalize hx : (n : Int) = x at h
  cases h with
  | zero s => exact .zero _
  | @finite s m k n' e hm low high he hk hv =>
    have hn' : n' < 2 ^ 53 := by cases s <;> simp only [Sign.apply] at hx <;> omega
    have hpos := pos_of_value low hv
    have hlog := log2_of_value low high hv
    have hle : k ≤ 52 := hlog ▸ log2_le_of_lt hn'
    have hmantissa : m * 2 ^ 52 = n' * 2 ^ (104 - k) := by
      refine Nat.eq_of_mul_eq_mul_right (Nat.two_pow_pos k) ?_
      calc m * 2 ^ 52 * 2 ^ k = n' * (2 ^ 52 * 2 ^ 52) := by
            rw [Nat.mul_right_comm, hv, Nat.mul_assoc]
        _ = n' * 2 ^ (104 - k) * 2 ^ k := by
            rw [Nat.mul_assoc, ← pow_add, ← pow_add]
            congr 2
            omega
    have hexponent : e + -52 = -((104 - k : Nat) : Int) := by omega
    have hsign : s * .positive = s := by cases s <;> rfl
    have hround := denotes_roundWithAccuracy (j := 104 - k) hpos.ne' (by omega) (by omega) s
    rw [nearestNat_of_lt hn'] at hround
    rw [mul_finite, hmantissa, hexponent, hsign]
    exact hround

/-- A number below `2 ^ 53` is a double as it is. -/
lemma denotes_ofNat {n : Nat} (hn : n < 2 ^ 53) : Denotes (UnpackedFloat.ofNat .binary64 n) n := by
  rw [UnpackedFloat.ofNat, UnpackedFloat.ofInt, UnpackedFloat.normalize]
  by_cases hzero : n = 0
  · subst hzero
    exact .zero _
  have hlog : n.log2 ≤ 52 := log2_le_of_lt hn
  have htarget : max (n.log2 + 0 - 52 : Int) (-1074) = n.log2 - 52 := by omega
  have hamount : (0 - (n.log2 - 52 : Int)).toNat = 52 - n.log2 := by omega
  have hround := denotes_roundWithAccuracy (j := 52 - n.log2) hzero (by omega) (by omega) .positive
  rw [nearestNat_of_lt hn] at hround
  rw [compare_gt_iff_gt.mpr (by omega : (0 : Int) < n)]
  change Denotes (UnpackedFloat.round .binary64 .positive n 0) n
  rw [UnpackedFloat.round, targetExponent_totalExponent, htarget, decreaseExponent, hamount,
    Nat.shiftLeft_eq, zero_sub]
  exact hround

lemma stands_toFloat {n : Nat} (hn : n < 2 ^ 53) : Stands n.toUInt64.toFloat n := by
  have hword : n.toUInt64.toNat = n := Nat.mod_eq_of_lt (by omega)
  rw [UInt64.toFloat, Float.Model.ofUInt64, ofUInt64, hword]
  exact (denotes_ofNat hn).stands

lemma ofScientific_zero {n : Nat} (hn : n ≠ 0) : UnpackedFloat.ofScientific .binary64 n 0 =
    roundWithAccuracy .binary64 .positive (n * 2 ^ 53) (-(53 : Nat)) .exact := by
  have hbits : (0 : Int) ≤ 2 ^ Format.binary64.exponentBits := by positivity
  rw [UnpackedFloat.ofScientific, dif_neg hn, if_neg (by omega), if_neg (by omega), if_pos le_rfl]
  rw [mul_finite, Nat.shiftLeft_eq, Int.toNat_zero, pow_zero, Nat.mul_one, add_zero]
  rfl

/-- A number is converted to the nearest double. -/
lemma stands_ofNat {n : Nat} (h : n.log2 ≤ 1022) : Stands (Float.ofNat n) (nearestNat n) := by
  rw [Float.ofNat]
  change Stands (Float.ofScientific n false 0) _
  unfold Float.ofScientific
  split
  · -- a small number is converted as it is, and then multiplied by a power of ten, which is one
    next hn =>
    rw [nearestNat_of_lt hn.1]
    refine Denotes.stands (u := n.toUInt64.toFloat.toModel.unpack.mul .binary64
      (Float.ofBits 0x3FF0000000000000).toModel.unpack) ?_
    rw [unpack_one]
    exact (stands_toFloat hn.1).mul_one hn.1
  · -- a large one is rounded from its exact value
    next hn =>
    have hlarge : 2 ^ 53 ≤ n := by omega
    refine Denotes.stands (u := UnpackedFloat.ofScientific .binary64 n 0) ?_
    rw [ofScientific_zero (by omega)]
    exact denotes_roundWithAccuracy (by omega) (by omega) h .positive

/-- An integer is converted to the nearest double. -/
lemma stands_ofInt {x : Int} (h : x.natAbs.log2 ≤ 1022) : Stands (Float.ofInt x) (nearest x) := by
  cases x with
  | ofNat n =>
    rw [Int.ofNat_eq_natCast, nearest_natCast]
    exact stands_ofNat h
  | negSucc n =>
    rw [Int.negSucc_eq, nearest_neg, ← Nat.cast_succ, nearest_natCast]
    exact (stands_ofNat h).neg

variable {f g : Float} {x y : Int}

lemma Stands.lt_iff (hf : Stands f x) (hg : Stands g y) : f < g ↔ x < y := by
  have hlt : f < g ↔ f.toModel.unpack.lt g.toModel.unpack = true := decide_eq_true_iff
  rw [hlt, UnpackedFloat.lt, Denotes.compare_eq hf hg, beq_iff_eq, Option.some.injEq,
    compare_lt_iff_lt]

lemma Stands.le_iff (hf : Stands f x) (hg : Stands g y) : f ≤ g ↔ x ≤ y := by
  have hle : f ≤ g ↔ f.toModel.unpack.le g.toModel.unpack = true := decide_eq_true_iff
  rw [hle, UnpackedFloat.le, Denotes.compare_eq hf hg, Option.any_some, Int.isLE_compare]

lemma Stands.beq_iff (hf : Stands f x) (hg : Stands g y) : (f == g) = true ↔ x = y := by
  change (f.toModel.unpack.compare g.toModel.unpack == some .eq) = true ↔ _
  rw [Denotes.compare_eq hf hg, beq_iff_eq, Option.some.injEq, compare_eq_iff_eq]

end CommandScript.Double
