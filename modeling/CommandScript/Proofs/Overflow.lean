import CommandScript.Decimal.Read
import CommandScript.Proofs.Doubles

/-!
# Decimals that are too large for a double

A decimal is converted to the nearest double: the quotient of its digits by a power of ten is
computed with enough bits, rounded, and packed. Packing gives an infinity where the exponent has no
room. Here the exponent is followed through the rounding, for all decimals: what comes out is an
infinity if the decimal is at least half-way from the largest double to the next power of two, and a
finite double otherwise.

## Main definitions

* `CommandScript.Double.Fits`, `CommandScript.Double.Exceeds` — unpacked doubles with and without
  room for their exponent.
* `CommandScript.Double.limit` — the least number that is too large.

## Main results

* `CommandScript.Double.Fits.isFinite_pack`, `CommandScript.Double.Exceeds.isInf_pack` — what
  packing gives.
* `CommandScript.Double.exceeds_roundWithAccuracy`,
  `CommandScript.Double.fits_roundWithAccuracy_of_lt` — what rounding gives.
* `CommandScript.Double.isInf_ofScientific`, `CommandScript.Double.isFinite_ofScientific` — which
  decimals are too large.
-/

namespace CommandScript.Double

open Float.Model (Format UnpackedFloat totalExponent)
open Float.Model.UnpackedFloat

/-! ## Packing -/

/-- A double that has room for its exponent. -/
inductive Fits : UnpackedFloat → Prop
  | zero (s : Sign) : Fits (.zero s)
  | finite {s : Sign} {m : Nat} {e : Int} {hm : 0 < m} (room : e ≤ 971) : Fits (.finite s m e hm)

/-- An infinity, or a double that has no room for its exponent. -/
inductive Exceeds : UnpackedFloat → Prop
  | infinity (s : Sign) : Exceeds (.infinity s)
  | finite {s : Sign} {m : Nat} {e : Int} {hm : 0 < m} (room : 971 < e) : Exceeds (.finite s m e hm)

/-- What is packed with an exponent that is not all ones is finite. -/
lemma isFinite_unpack (s : Sign) (e : BitVec 11) (m : BitVec 52) (he : e ≠ -1#11) :
    (UnpackedFloat.unpack .binary64 (packComponents .binary64 s e m)).isFinite = true := by
  obtain ⟨h, -⟩ | ⟨-, ⟨_, h⟩ | ⟨_, _, _, _, -, h⟩⟩ | ⟨-, -, _, h⟩ :=
    unpack_cases (packComponents .binary64 s e m)
  · exact absurd (unpackExponent_packComponents.symm.trans h) he
  all_goals
    rw [h]
    rfl

lemma Fits.isFinite_pack {u : UnpackedFloat} (h : Fits u) :
    (Float.Model.pack u).unpack.isFinite = true := by
  cases h with
  | zero s => cases s <;> rfl
  | @finite s m e hm room =>
    change (UnpackedFloat.unpack .binary64 (UnpackedFloat.pack .binary64 _)).isFinite = true
    rw [pack_finite, if_neg (by omega)]
    refine isFinite_unpack s _ _ fun h => ?_
    have hnat := congrArg BitVec.toNat h
    rw [BitVec.toNat_ofNat] at hnat
    change _ = 2047 at hnat
    split at hnat <;> omega

lemma Exceeds.isInf_pack {u : UnpackedFloat} (h : Exceeds u) :
    (Float.Model.pack u).unpack.isInf = true := by
  cases h with
  | infinity s => cases s <;> rfl
  | @finite s m e hm room =>
    change (UnpackedFloat.unpack .binary64 (UnpackedFloat.pack .binary64 _)).isInf = true
    rw [pack_finite, if_pos room]
    cases s <;> rfl

/-! ## Rounding -/

variable {a b : Nat}

/-- The rest of a division tells enough to round by. -/
lemma holds_division (a : Nat) (hb : 0 < b) :
    Holds (ExtendedMantissa.ofMantissaAndAccuracy (a / b) (accuracyOfFraction (a % b) b)) a b := by
  rw [accuracyOfFraction]
  split
  · next hzero =>
    exact ⟨rfl, iff_of_false Bool.false_ne_true (by omega),
      iff_of_false Bool.false_ne_true (by omega)⟩
  · next hrest =>
    rcases lt_trichotomy (2 * (a % b)) b with h | h | h
    · rw [compare_lt_iff_lt.mpr h]
      exact ⟨rfl, iff_of_false Bool.false_ne_true (by omega), iff_of_true rfl (by omega)⟩
    · rw [compare_eq_iff_eq.mpr h]
      exact ⟨rfl, iff_of_true rfl (by omega), iff_of_false Bool.false_ne_true (by omega)⟩
    · rw [compare_gt_iff_gt.mpr h]
      exact ⟨rfl, iff_of_true rfl (by omega), iff_of_true rfl (by omega)⟩

lemma mul_two_pow_add (b i j : Nat) : b * 2 ^ (i + j) = 2 ^ i * (b * 2 ^ j) := by
  rw [pow_add, Nat.mul_left_comm]

/-- What is less than `2 ^ 53` is not rounded to anything larger. -/
lemma halfEven_le (hb : 0 < b) (h : a < 2 ^ 53 * b) : halfEven a b ≤ 2 ^ 53 :=
  calc halfEven a b ≤ halfEven (2 ^ 53 * b) b := halfEven_mono hb h.le
    _ = 2 ^ 53 := halfEven_mul_self hb

lemma le_halfEven (hb : 0 < b) (h : 2 ^ 52 * b ≤ a) : 2 ^ 52 ≤ halfEven a b :=
  calc 2 ^ 52 = halfEven (2 ^ 52 * b) b := (halfEven_mul_self hb).symm
    _ ≤ halfEven a b := halfEven_mono hb h

/-- What is less than `2 ^ 53` is rounded to it if it is at most a half away. -/
lemma halfEven_eq_two_pow_iff (hb : 0 < b) (h : a < 2 ^ 53 * b) :
    halfEven a b = 2 ^ 53 ↔ (2 ^ 54 - 1) * b ≤ 2 * a := by
  rw [halfEven_eq_iff hb]
  constructor
  · intro hround
    have habove := hround.above
    omega
  · intro hhalf
    exact ⟨by omega, by omega, fun _ => by norm_num⟩

/-- Half-way from the largest double, which is `(2 ^ 53 - 1) * 2 ^ 971`, to the next power of two.
-/
def limit : Nat := (2 ^ 54 - 1) * 2 ^ 970

lemma limit_eq : limit = (2 ^ 54 - 1) * 2 ^ 970 := rfl

-- the unifier would count up to it
attribute [irreducible] limit

/-- In the last binade, it is the limit that is rounded up to a power of two. -/
lemma halfEven_eq_two_pow_iff_limit {j : Nat} (hb : 0 < b) (h : a < 2 ^ 53 * (b * 2 ^ (971 + j))) :
    halfEven a (b * 2 ^ (971 + j)) = 2 ^ 53 ↔ limit * (b * 2 ^ j) ≤ a := by
  rw [halfEven_eq_two_pow_iff (Nat.mul_pos hb (Nat.two_pow_pos _)) h, limit_eq, mul_two_pow_add]
  constructor <;> intro hle <;> omega

/-- What rounding gives has room for its exponent if there is room for it. -/
lemma fits_rounded {s : Sign} {r : Nat} {e : Int} (room : e ≤ 971) :
    Fits (if hm : r = 0 then .zero s else .finite s r e (Nat.pos_of_ne_zero hm)) := by
  by_cases hm : r = 0
  · rw [dif_pos hm]
    exact .zero s
  · rw [dif_neg hm]
    exact .finite room

section Bits

variable {m : Nat} (hb : 0 < b) (hm : m = a / b)

include hb hm

lemma lt_mul_of_log2 {k : Nat} (hk : m.log2 < 53 + k) : a < 2 ^ 53 * (b * 2 ^ k) := by
  have hlt : m < 2 ^ (53 + k) :=
    Nat.lt_of_lt_of_le Nat.lt_log2_self (Nat.pow_le_pow_right Nat.two_pos hk)
  have hmul : 2 ^ (53 + k) * b = 2 ^ 53 * (b * 2 ^ k) := by ring
  rw [hm] at hlt
  exact hmul ▸ (Nat.div_lt_iff_lt_mul hb).mp hlt

lemma mul_le_of_log2 (hne : m ≠ 0) {k : Nat} (hk : k ≤ m.log2) : b * 2 ^ k ≤ a := by
  have hle : 2 ^ k ≤ a / b :=
    hm ▸ (Nat.pow_le_pow_right Nat.two_pos hk).trans (Nat.log2_self_le hne)
  exact Nat.mul_comm b _ ▸ (Nat.le_div_iff_mul_le hb).mp hle

/-- Numbers that are small enough have room for their exponents after rounding. -/
lemma fits_roundWithAccuracy {acc : Accuracy}
    (h : Holds (ExtendedMantissa.ofMantissaAndAccuracy m acc) a b) (s : Sign) {e : Int}
    (he : e ≤ 970) (hlog : m.log2 + e ≤ 1022) :
    Fits (roundWithAccuracy .binary64 s m e acc) := by
  have hle : halfEven a (b * 2 ^ shiftAmount m e) ≤ 2 ^ 53 := by
    refine halfEven_le (Nat.mul_pos hb (Nat.two_pow_pos _)) (lt_mul_of_log2 hb hm ?_)
    rw [shiftAmount]
    omega
  rw [roundWithAccuracy_eq hb h s e rfl rfl rfl]
  have hbits : (halfEven a (b * 2 ^ shiftAmount m e)).log2 ≤ 53 := log2_le_of_lt (by omega)
  generalize halfEven a (b * 2 ^ shiftAmount m e) = r at hbits ⊢
  refine fits_rounded ?_
  simp only [shiftAmount]
  omega

variable {acc : Accuracy} {j : Nat}

/-- What reaches the limit has no room for its exponent after rounding. -/
lemma exceeds_roundWithAccuracy (h : Holds (ExtendedMantissa.ofMantissaAndAccuracy m acc) a b)
    (s : Sign) (hlimit : limit * (b * 2 ^ j) ≤ a) :
    Exceeds (roundWithAccuracy .binary64 s m (-(j : Int)) acc) := by
  have hlog : 1023 + j ≤ m.log2 := by
    by_contra hsmall
    have hlt := lt_mul_of_log2 hb hm (k := 970 + j) (by omega)
    rw [mul_two_pow_add] at hlt
    rw [limit_eq] at hlimit
    omega
  have hne : m ≠ 0 := by
    rintro rfl
    rw [Nat.log2_zero] at hlog
    omega
  obtain ⟨k, hk⟩ : ∃ k, m.log2 = 52 + k := ⟨m.log2 - 52, by omega⟩
  have hpos : 0 < b * 2 ^ k := Nat.mul_pos hb (Nat.two_pow_pos k)
  have hamount : shiftAmount m (-(j : Int)) = k := by
    rw [shiftAmount]
    omega
  have hlt : a < 2 ^ 53 * (b * 2 ^ k) := lt_mul_of_log2 hb hm (by omega)
  have hle : 2 ^ 52 * (b * 2 ^ k) ≤ a :=
    mul_two_pow_add b 52 k ▸ mul_le_of_log2 hb hm hne hk.ge
  have hlow := le_halfEven hpos hle
  have hhigh := halfEven_le hpos hlt
  -- the mantissa has 53 bits, or it is `2 ^ 53` and the exponent grows once more
  have hagain : 971 < -(j : Int) + k + shiftAmount (halfEven a (b * 2 ^ k)) (-(j : Int) + k) := by
    rcases Nat.lt_or_ge (971 + j) k with hlarge | hedge
    · omega
    · obtain rfl : k = 971 + j := by omega
      rw [(halfEven_eq_two_pow_iff_limit hb hlt).2 hlimit, shiftAmount, Nat.log2_two_pow]
      omega
  have hlog' : (halfEven a (b * 2 ^ k)).log2 ≤ 53 := log2_le_of_lt (by omega)
  have hone : shiftAmount (halfEven a (b * 2 ^ k)) (-(j : Int) + k) ≤ 1 := by
    rw [shiftAmount]
    omega
  rw [roundWithAccuracy_eq hb h s _ hamount rfl rfl, dif_neg]
  · exact .finite hagain
  · have hpow := Nat.pow_le_pow_right Nat.two_pos hone
    exact (Nat.div_pos (by omega) (Nat.two_pow_pos _)).ne'

/-- What does not reach the limit has room for its exponent after rounding. -/
lemma fits_roundWithAccuracy_of_lt (h : Holds (ExtendedMantissa.ofMantissaAndAccuracy m acc) a b)
    (s : Sign) (hlimit : a < limit * (b * 2 ^ j)) :
    Fits (roundWithAccuracy .binary64 s m (-(j : Int)) acc) := by
  by_cases hsmall : m.log2 + -(j : Int) ≤ 1022
  · exact fits_roundWithAccuracy hb hm h s (by omega) hsmall
  have hne : m ≠ 0 := by
    rintro rfl
    rw [Nat.log2_zero] at hsmall
    omega
  have hlog : m.log2 = 1023 + j := by
    by_contra hlarge
    have hle := mul_le_of_log2 hb hm hne (k := 1024 + j) (by omega)
    rw [mul_two_pow_add] at hle
    rw [limit_eq] at hlimit
    omega
  have hpos : 0 < b * 2 ^ (971 + j) := Nat.mul_pos hb (Nat.two_pow_pos _)
  have hlt : a < 2 ^ 53 * (b * 2 ^ (971 + j)) := lt_mul_of_log2 hb hm (by omega)
  have hround : halfEven a (b * 2 ^ (971 + j)) ≠ 2 ^ 53 := fun hround =>
    absurd ((halfEven_eq_two_pow_iff_limit hb hlt).1 hround) (by omega)
  have hhigh := halfEven_le hpos hlt
  have hbits : (halfEven a (b * 2 ^ (971 + j))).log2 ≤ 52 := log2_le_of_lt (by omega)
  have hamount : shiftAmount m (-(j : Int)) = 971 + j := by
    rw [shiftAmount]
    omega
  rw [roundWithAccuracy_eq hb h s _ hamount rfl rfl]
  refine fits_rounded ?_
  rw [shiftAmount]
  omega

end Bits

/-! ## Quotients -/

/-- The quotient of two mantissas is computed with some number of additional bits. -/
lemma div_finite (s₁ s₂ : Sign) {m₁ m₂ : Nat} (e₁ e₂ : Int) (h₁ : 0 < m₁) (h₂ : 0 < m₂) :
    ∃ k : Nat, UnpackedFloat.div .binary64 (.finite s₁ m₁ e₁ h₁) (.finite s₂ m₂ e₂ h₂) =
      roundWithAccuracy .binary64 (s₁ / s₂) (m₁ * 2 ^ k / m₂) (e₁ - e₂ - k)
        (accuracyOfFraction (m₁ * 2 ^ k % m₂) m₂) := by
  have hdiv : UnpackedFloat.div .binary64 (.finite s₁ m₁ e₁ h₁) (.finite s₂ m₂ e₂ h₂) =
      roundWithAccuracy .binary64 (s₁ / s₂) (divCore .binary64 m₁ e₁ m₂ e₂).1
        (divCore .binary64 m₁ e₁ m₂ e₂).2.1 (divCore .binary64 m₁ e₁ m₂ e₂).2.2 := rfl
  rw [hdiv, divCore]
  dsimp only
  generalize Format.binary64.targetExponent (totalExponent m₁ e₁ - totalExponent m₂ e₂) = t
  refine ⟨(e₁ - e₂ - min (e₁ - e₂) t).toNat, ?_⟩
  have hexponent : e₁ - e₂ - (e₁ - e₂ - min (e₁ - e₂) t).toNat = min (e₁ - e₂) t := by omega
  rw [hexponent, Nat.shiftLeft_eq]

/-- The quotient of a mantissa of 53 bits has room for its exponent. -/
lemma fits_div (s₁ s₂ : Sign) {m₁ m₂ : Nat} {e₁ e₂ : Int} (h₁ : 0 < m₁) (h₂ : 0 < m₂)
    (hm : m₁ < 2 ^ 53) (he : e₁ - e₂ ≤ 970) :
    Fits (UnpackedFloat.div .binary64 (.finite s₁ m₁ e₁ h₁) (.finite s₂ m₂ e₂ h₂)) := by
  obtain ⟨k, hdiv⟩ := div_finite s₁ s₂ e₁ e₂ h₁ h₂
  have hlog : (m₁ * 2 ^ k / m₂).log2 ≤ 52 + k := by
    refine log2_le_of_lt ?_
    calc m₁ * 2 ^ k / m₂ ≤ m₁ * 2 ^ k := Nat.div_le_self _ _
      _ < 2 ^ 53 * 2 ^ k := Nat.mul_lt_mul_of_pos_right hm (Nat.two_pow_pos k)
      _ = 2 ^ (52 + k + 1) := by ring
  rw [hdiv]
  exact fits_roundWithAccuracy h₂ rfl (holds_division _ h₂) _ (by omega) (by omega)

/-- The quotient of two numbers has room for its exponent exactly if it does not reach the limit. -/
lemma div_ofNat_cases (s₁ s₂ : Sign) {m₁ m₂ : Nat} (h₁ : 0 < m₁) (h₂ : 0 < m₂) :
    (limit * m₂ ≤ m₁ →
      Exceeds (UnpackedFloat.div .binary64 (.finite s₁ m₁ 0 h₁) (.finite s₂ m₂ 0 h₂))) ∧
    (m₁ < limit * m₂ →
      Fits (UnpackedFloat.div .binary64 (.finite s₁ m₁ 0 h₁) (.finite s₂ m₂ 0 h₂))) := by
  obtain ⟨k, hdiv⟩ := div_finite s₁ s₂ 0 0 h₁ h₂
  rw [hdiv, sub_zero, zero_sub]
  constructor
  · intro h
    refine exceeds_roundWithAccuracy h₂ rfl (holds_division _ h₂) _ ?_
    rw [← Nat.mul_assoc]
    exact Nat.mul_le_mul_right _ h
  · intro h
    refine fits_roundWithAccuracy_of_lt h₂ rfl (holds_division _ h₂) _ ?_
    rw [← Nat.mul_assoc]
    exact Nat.mul_lt_mul_of_pos_right h (Nat.two_pow_pos k)

/-! ## Decimals -/

/-- A positive double with an exponent that is not below that of one. -/
inductive NotSmall : UnpackedFloat → Prop
  | finite {m : Nat} {e : Int} {hm : 0 < m} (he : -52 ≤ e) : NotSmall (.finite .positive m e hm)

/-- The powers of ten that are doubles are no less than one. -/
lemma notSmall_powersOfTen :
    ∀ p ∈ Float.exactlyRepresentablePowersOfTen.toList, NotSmall p.toModel.unpack := by
  unfold Float.exactlyRepresentablePowersOfTen
  simp only [List.forall_mem_cons, List.not_mem_nil, false_implies, implies_true, and_true]
  and_intros <;> exact .finite (by decide)

/-- A decimal of a few digits is no large number. -/
lemma fits_smallDecimal {m k : Nat} (hm : m < 2 ^ 53)
    (hk : k < Float.exactlyRepresentablePowersOfTen.size) :
    Fits (UnpackedFloat.div .binary64 m.toUInt64.toFloat.toModel.unpack
      Float.exactlyRepresentablePowersOfTen[k].toModel.unpack) := by
  have hstands : Denotes m.toUInt64.toFloat.toModel.unpack m := stands_toFloat hm
  have hpower := notSmall_powersOfTen _ (Array.getElem_mem_toList hk)
  generalize Float.exactlyRepresentablePowersOfTen[k].toModel.unpack = p at hpower ⊢
  obtain ⟨he⟩ := hpower
  generalize m.toUInt64.toFloat.toModel.unpack = u at hstands
  generalize hx : (m : Int) = x at hstands
  cases hstands with
  | zero s => exact .zero _
  | @finite s m' j n e' hm' low high exponent bound value =>
    have hn : n < 2 ^ 53 := by cases s <;> simp only [Sign.apply] at hx <;> omega
    have hj : j ≤ 52 := log2_of_value low high value ▸ log2_le_of_lt hn
    exact fits_div _ _ _ _ high (by omega)

lemma lt_ten_pow_of_log2 {m k : Nat} (h : m.log2 < k) : m < 10 ^ k :=
  calc m < 2 ^ (m.log2 + 1) := Nat.lt_log2_self
    _ ≤ 2 ^ k := Nat.pow_le_pow_right Nat.two_pos h
    _ ≤ 10 ^ k := Nat.pow_le_pow_left (by decide) k

lemma le_limit : 2 ^ 53 ≤ limit := by
  rw [limit_eq]
  omega

/-- A decimal of many digits is rounded from its exact value. -/
lemma largeDecimal_cases {m : Nat} (k : Nat) (hm : 0 < m) :
    (limit * 10 ^ k ≤ m → Exceeds (UnpackedFloat.ofScientific .binary64 m (.negOfNat k))) ∧
    (m < limit * 10 ^ k → Fits (UnpackedFloat.ofScientific .binary64 m (.negOfNat k))) := by
  have hlimit := le_limit
  rcases Nat.eq_zero_or_pos k with rfl | hk
  · -- an integer
    have hone : m * 2 ^ 53 = m * 2 ^ 53 / 1 := (Nat.div_one _).symm
    have hzero : Int.negOfNat 0 = 0 := rfl
    rw [hzero, ofScientific_zero hm.ne', pow_zero]
    refine ⟨fun h => exceeds_roundWithAccuracy (j := 53) Nat.one_pos hone (holds_exact _) _ ?_,
      fun h => fits_roundWithAccuracy_of_lt (j := 53) Nat.one_pos hone (holds_exact _) _ ?_⟩
    · rw [Nat.one_mul]
      exact Nat.mul_le_mul_right _ (Nat.mul_one limit ▸ h)
    · rw [Nat.one_mul]
      exact Nat.mul_lt_mul_of_pos_right (Nat.mul_one limit ▸ h) (Nat.two_pow_pos 53)
  · have hbits : (2 : Int) ^ Format.binary64.exponentBits = 2048 := rfl
    have hneg : Int.negOfNat k = -(k : Int) := Int.negOfNat_eq
    have hpower : (- -(k : Int)).toNat = k := by omega
    rw [UnpackedFloat.ofScientific, dif_neg hm.ne', hbits, hneg, if_neg (by omega)]
    by_cases hsmall : -(k : Int) < -(2048 + m.log2)
    · -- less than the smallest double
      rw [if_pos hsmall]
      have hlt := lt_ten_pow_of_log2 (m := m) (k := k) (by omega)
      have hle : 10 ^ k ≤ limit * 10 ^ k := Nat.le_mul_of_pos_left _ (by omega)
      exact ⟨fun h => by omega, fun _ => .zero _⟩
    · rw [if_neg hsmall, if_neg (by omega)]
      refine ⟨fun h => (div_ofNat_cases _ _ _ _).1 ?_, fun h => (div_ofNat_cases _ _ _ _).2 ?_⟩
      · rwa [hpower]
      · rwa [hpower]

/-- A decimal is converted to an infinity exactly if it reaches the limit. -/
lemma exists_ofScientific (m k : Nat) :
    ∃ u, Float.ofScientific m true k = .ofModel (.pack u) ∧ (limit * 10 ^ k ≤ m → Exceeds u) ∧
      (m < limit * 10 ^ k → Fits u) := by
  have hlimit := le_limit
  have hle : limit ≤ limit * 10 ^ k := Nat.le_mul_of_pos_right _ (by positivity)
  unfold Float.ofScientific
  split
  · next h => exact ⟨_, rfl, fun hlarge => by omega, fun _ => fits_smallDecimal h.1 _⟩
  · next h =>
    rcases Nat.eq_zero_or_pos m with rfl | hm
    · exact ⟨_, rfl, fun hlarge => by omega, fun _ => .zero _⟩
    · exact ⟨_, rfl, largeDecimal_cases k hm⟩

/-! ## Signs -/

/-- A finite double that was packed has room for its exponent. -/
lemma fits_unpack (bits : BitVec Format.binary64.numBits)
    (h : (UnpackedFloat.unpack .binary64 bits).isFinite = true) :
    Fits (UnpackedFloat.unpack .binary64 bits) := by
  have hbias : (Format.binary64.exponentBias : Int) = 1023 := rfl
  have hlt : (unpackExponent bits).toNat < 2 ^ 11 := (unpackExponent bits).isLt
  obtain ⟨-, hinfinite⟩ | ⟨-, ⟨_, hzero⟩ | ⟨_, _, _, _, he, hsmall⟩⟩ | ⟨hones, -, _, hnormal⟩ :=
    unpack_cases bits
  · rw [hinfinite] at h
    cases h
  · exact hzero ▸ .zero _
  · exact hsmall ▸ .finite (by omega)
  · have hne : (unpackExponent bits).toNat ≠ 2047 := fun h => hones (BitVec.eq_of_toNat_eq h)
    exact hnormal ▸ .finite (by omega)

lemma isInf_ofScientific {m k : Nat} (h : limit * 10 ^ k ≤ m) :
    (Float.ofScientific m true k).isInf = true := by
  obtain ⟨u, hu, hexceeds, -⟩ := exists_ofScientific m k
  rw [hu]
  exact (hexceeds h).isInf_pack

lemma isFinite_ofScientific {m k : Nat} (h : m < limit * 10 ^ k) :
    (Float.ofScientific m true k).isFinite = true := by
  obtain ⟨u, hu, -, hfits⟩ := exists_ofScientific m k
  rw [hu]
  exact (hfits h).isFinite_pack

lemma not_isFinite_of_isInf {f : Float} (h : f.isInf = true) : ¬ f.isFinite = true := by
  change f.toModel.unpack.isInf = true at h
  change ¬ f.toModel.unpack.isFinite = true
  cases hu : f.toModel.unpack with
  | infinity s => exact Bool.false_ne_true
  | _ => rw [hu] at h; cases h

lemma isFinite_neg {f : Float} (h : f.isFinite = true) : (-f).isFinite = true := by
  have hfits : Fits f.toModel.unpack := fits_unpack f.toModel.toBits.toBitVec h
  have hneg : Fits f.toModel.unpack.neg := by
    generalize f.toModel.unpack = u at hfits
    cases hfits with
    | zero s => exact .zero _
    | finite room => exact .finite room
  exact hneg.isFinite_pack

lemma isInf_neg {f : Float} (h : f.isInf = true) : (-f).isInf = true := by
  change f.toModel.unpack.isInf = true at h
  have hneg : Exceeds f.toModel.unpack.neg := by
    cases hu : f.toModel.unpack with
    | infinity s => exact .infinity _
    | _ => rw [hu] at h; cases h
  exact hneg.isInf_pack

end CommandScript.Double
