import CommandScript.Audit
import Mathlib.Data.List.GetD
import Mathlib.Data.List.Nodup
import Mathlib.Data.Set.Function
import Mathlib.Order.Interval.Set.Defs
import Mathlib.Tactic.Ring

/-!
# The arguments of an audit

An audit tries tuples of sample values. The tuples are numbered: in the base of the number of
values, the digits of a number choose the components. So the numbers below a power of the base
number all tuples, each once. The power is computed in words, and if it does not fit or is too large
then only the tuples with equal components are tried. Over all numbers of arguments that a function
is tried with, the audit meets all these tuples and no others, each once.

## Main definitions

* `CommandScript.Audit.IsTuple` — tuples out of some values.

## Main results

* `CommandScript.Audit.combination_bijOn` — different values have all their tuples numbered, each by
  one number.
* `CommandScript.Audit.total?_eq` — words are large enough to tell which powers are too large.
* `CommandScript.Audit.mem_tuples`, `CommandScript.Audit.nodup_tuples` — the tuples that are tried
  for one number of components.
* `CommandScript.Audit.samples_are_enumerated` — the arguments that an audit tries.
-/

namespace CommandScript

namespace Audit

variable {α β : Type} {values : List α} {n : Nat}

/-! ## Tuples and their numbers -/

/-- A tuple of `n` out of some values. -/
structure IsTuple (values : List α) (n : Nat) (t : List α) : Prop where
  length : t.length = n
  mem : ∀ v ∈ t, v ∈ values

lemma isTuple_zero {t : List α} : IsTuple values 0 t ↔ t = [] := by
  refine ⟨fun h => List.length_eq_zero_iff.1 h.length, ?_⟩
  rintro rfl
  exact ⟨rfl, by simp⟩

lemma isTuple_succ {t : List α} :
    IsTuple values (n + 1) t ↔ ∃ v ∈ values, ∃ u, IsTuple values n u ∧ t = v :: u := by
  constructor
  · rintro ⟨hlen, hmem⟩
    obtain ⟨v, u, rfl⟩ := List.exists_cons_of_length_eq_add_one hlen
    rw [List.forall_mem_cons] at hmem
    exact ⟨v, hmem.1, u, ⟨Nat.succ.inj hlen, hmem.2⟩, rfl⟩
  · rintro ⟨v, hv, u, hu, rfl⟩
    exact ⟨congrArg (· + 1) hu.length, List.forall_mem_cons.2 ⟨hv, hu.mem⟩⟩

/-- A number of one more digit is a last digit and the number of the other digits. -/
lemma lt_pow_succ_iff {b i : Nat} :
    i < b ^ (n + 1) ↔ ∃ p < b, ∃ j < b ^ n, i = p + b * j := by
  rw [pow_succ']
  constructor
  · intro hi
    have hb : 0 < b := Nat.pos_of_mul_pos_right (Nat.zero_lt_of_lt hi)
    exact ⟨i % b, Nat.mod_lt i hb, i / b, Nat.div_lt_of_lt_mul hi, (Nat.mod_add_div i b).symm⟩
  · rintro ⟨p, hp, j, hj, rfl⟩
    calc p + b * j < b + b * j := by omega
      _ = b * (j + 1) := by ring
      _ ≤ b * b ^ n := Nat.mul_le_mul_left b hj

variable [Inhabited α] [Inhabited β]

/-- The last digit of a number chooses the first component, and the other digits choose the rest. -/
lemma combination_add_mul {p : Nat} (hp : p < values.length) (i : Nat) :
    combination values (n + 1) (p + values.length * i) = values[p] :: combination values n i := by
  have hmod : (p + values.length * i) % values.length = p := by
    rw [Nat.add_mul_mod_self_left, Nat.mod_eq_of_lt hp]
  have hdiv : (p + values.length * i) / values.length = i := by
    rw [Nat.add_mul_div_left _ _ (Nat.zero_lt_of_lt hp), Nat.div_eq_of_lt hp, Nat.zero_add]
  rw [combination, hmod, hdiv, List.getD_eq_getElem _ _ hp]

/-- All tuples are numbered, and nothing else is. -/
lemma exists_combination_iff {t : List α} :
    (∃ i < values.length ^ n, combination values n i = t) ↔ IsTuple values n t := by
  induction n generalizing t with
  | zero => simp [isTuple_zero, combination, eq_comm]
  | succ n ih =>
    rw [isTuple_succ]
    constructor
    · rintro ⟨i, hi, rfl⟩
      obtain ⟨p, hp, j, hj, rfl⟩ := lt_pow_succ_iff.1 hi
      rw [combination_add_mul hp]
      exact ⟨values[p], List.getElem_mem hp, _, ih.1 ⟨j, hj, rfl⟩, rfl⟩
    · rintro ⟨v, hv, u, hu, rfl⟩
      obtain ⟨p, hp, rfl⟩ := List.getElem_of_mem hv
      obtain ⟨j, hj, rfl⟩ := ih.2 hu
      exact ⟨p + values.length * j, lt_pow_succ_iff.2 ⟨p, hp, j, hj, rfl⟩, combination_add_mul hp j⟩

/-- Different numbers have different tuples if the values are different. -/
lemma combination_injOn (h : values.Nodup) (n : Nat) :
    Set.InjOn (combination values n) (Set.Iio (values.length ^ n)) := by
  induction n with
  | zero =>
    intro i hi j hj _
    simp only [pow_zero, Set.mem_Iio] at hi hj
    omega
  | succ n ih =>
    intro i hi i' hi' heq
    obtain ⟨p, hp, j, hj, rfl⟩ := lt_pow_succ_iff.1 hi
    obtain ⟨p', hp', j', hj', rfl⟩ := lt_pow_succ_iff.1 hi'
    -- equal first components stand at one position, which is the last digit of both numbers
    rw [combination_add_mul hp, combination_add_mul hp', List.cons.injEq, h.getElem_inj_iff] at heq
    rw [heq.1, ih hj hj' heq.2]

/-- The numbers below the power number all tuples of different values, each once. -/
theorem combination_bijOn (h : values.Nodup) (n : Nat) :
    Set.BijOn (combination values n) (Set.Iio (values.length ^ n)) {t | IsTuple values n t} :=
  ⟨fun i hi => exists_combination_iff.1 ⟨i, hi, rfl⟩, combination_injOn h n,
    fun _ ht => exists_combination_iff.2 ht⟩

/-- The digits alone choose the components, whatever the values are. -/
lemma map_combination (f : α → β) {i : Nat} (hi : i < values.length ^ n) :
    (combination values n i).map f = combination (values.map f) n i := by
  induction n generalizing i with
  | zero => rfl
  | succ n ih =>
    obtain ⟨p, hp, j, hj, rfl⟩ := lt_pow_succ_iff.1 hi
    have hp' : p < (values.map f).length := by rwa [List.length_map]
    have hmap : combination (values.map f) (n + 1) (p + (values.map f).length * j) = _ :=
      combination_add_mul hp' j
    rw [List.length_map, List.getElem_map] at hmap
    rw [combination_add_mul hp, List.map_cons, ih hj, hmap]

/-- The values of a tuple stand at the positions that the tuple of positions with the same number
has. -/
lemma combination_positions {i : Nat} (hi : i < values.length ^ n) :
    (combination values n i).map some =
      (combination (List.range values.length) n i).map (values[·]?) := by
  have hvalues : values.map some = (List.range values.length).map (values[·]?) := by
    refine List.ext_getElem (by simp) fun p hp _ => ?_
    rw [List.length_map] at hp
    simp [hp]
  rw [map_combination some hi, map_combination _ (by rwa [List.length_range]), hvalues]

/-! ## The tuples that are tried -/

/-- A power is found exactly if it fits into a word. -/
lemma power?_eq {size product : Nat} (h : product < UInt64.size) :
    power? size n product =
      if product * size ^ n < UInt64.size then some (product * size ^ n) else none := by
  induction n generalizing product with
  | zero => rw [power?, pow_zero, mul_one, if_pos h]
  | succ n ih =>
    have hassoc : product * size ^ (n + 1) = product * size * size ^ n := by ring
    rw [power?, hassoc]
    by_cases hfits : product * size < UInt64.size
    · rw [if_pos hfits, ih hfits]
    · -- the factors that are left do not make the product smaller
      have hsize : 0 < size := Nat.pos_of_ne_zero (by rintro rfl; simp at hfits)
      have hle : product * size ≤ product * size * size ^ n :=
        Nat.le_mul_of_pos_right _ (Nat.pow_pos hsize)
      rw [if_neg hfits, if_neg (by omega)]

/-- Words are large enough: a power that does not fit, or whose exponent does not, is too large to
try all tuples. -/
theorem total?_eq {size : Nat} (h : 1 < size) (n : Nat) :
    total? size n = if size ^ n ≤ maxCombinations then some (size ^ n) else none := by
  unfold total?
  by_cases hn : n < UInt32.size
  · rw [if_pos hn, power?_eq (by decide), one_mul]
    by_cases hle : size ^ n ≤ maxCombinations
    · have hfits : size ^ n < UInt64.size := hle.trans_lt (by decide)
      rw [if_pos hfits, if_pos hle, Option.filter_some, if_pos (decide_eq_true hle)]
    · rw [if_neg hle]
      split
      · rw [Option.filter_some, if_neg (by simpa using hle)]
      · rfl
  · have hlarge : maxCombinations < size ^ n := calc
      maxCombinations < UInt32.size := by decide
      _ ≤ n := Nat.le_of_not_lt hn
      _ < size ^ n := Nat.lt_pow_self h
    rw [if_neg hn, if_neg (Nat.not_le.2 hlarge)]

variable (h : 1 < values.length)
include h

lemma tuples_of_le (hle : values.length ^ n ≤ maxCombinations) :
    tuples values n = (List.range (values.length ^ n)).map (combination values n) := by
  rw [tuples, total?_eq h, if_pos hle]

lemma tuples_of_lt (hlt : maxCombinations < values.length ^ n) :
    tuples values n = values.map (List.replicate n ·) := by
  rw [tuples, total?_eq h, if_neg (Nat.not_le.2 hlt)]

/-- All tuples are tried, or if these are too many then those with equal components. -/
theorem mem_tuples {t : List α} :
    t ∈ tuples values n ↔ IsTuple values n t ∧
      (values.length ^ n ≤ maxCombinations ∨ ∃ v ∈ values, t = List.replicate n v) := by
  rcases Nat.lt_or_ge maxCombinations (values.length ^ n) with hlt | hle
  · rw [tuples_of_lt h hlt]
    simp only [List.mem_map, Nat.not_le.2 hlt, false_or]
    constructor
    · rintro ⟨v, hv, rfl⟩
      refine ⟨⟨List.length_replicate, fun u hu => ?_⟩, v, hv, rfl⟩
      rwa [List.eq_of_mem_replicate hu]
    · rintro ⟨-, v, hv, rfl⟩
      exact ⟨v, hv, rfl⟩
  · rw [tuples_of_le h hle, ← exists_combination_iff]
    simp [hle]

lemma length_of_mem_tuples {t : List α} (ht : t ∈ tuples values n) : t.length = n :=
  ((mem_tuples h).1 ht).1.length

/-- No tuple is tried twice. -/
theorem nodup_tuples (hvalues : values.Nodup) (n : Nat) : (tuples values n).Nodup := by
  rcases Nat.lt_or_ge maxCombinations (values.length ^ n) with hlt | hle
  · -- there is one empty tuple only, so that these have a component that tells them apart
    have hn : n ≠ 0 := by
      rintro rfl
      exact absurd hlt (by simp [maxCombinations])
    rw [tuples_of_lt h hlt]
    exact hvalues.map (List.replicate_right_injective hn)
  · rw [tuples_of_le h hle]
    refine List.nodup_range.map_on fun i hi j hj heq => ?_
    exact combination_injOn hvalues n (List.mem_range.1 hi) (List.mem_range.1 hj) heq

/-- The lengths of the tuples that are tried. -/
lemma map_length_tuples (n : Nat) :
    (tuples values n).map List.length =
      List.replicate (if values.length ^ n ≤ maxCombinations then values.length ^ n
        else values.length) n := by
  rw [List.eq_replicate_iff, List.length_map]
  constructor
  · split
    · next hle => simp [tuples_of_le h hle]
    · next hlt => simp [tuples_of_lt h (Nat.not_le.1 hlt)]
  · intro k hk
    obtain ⟨t, ht, rfl⟩ := List.mem_map.1 hk
    exact length_of_mem_tuples h ht

/-! ## The arguments that are tried -/

variable (a : Arity)

/-- What is tried with a number of arguments is what is tried of that length. -/
lemma mem_argumentSets {t : List α} :
    t ∈ argumentSets values a ↔ t.length ∈ counts a ∧ t ∈ tuples values t.length := by
  rw [argumentSets, List.mem_flatMap]
  constructor
  · rintro ⟨n, hn, ht⟩
    obtain rfl := length_of_mem_tuples h ht
    exact ⟨hn, ht⟩
  · rintro ⟨hn, ht⟩
    exact ⟨t.length, hn, ht⟩

lemma nodup_argumentSets (hvalues : values.Nodup) (hcounts : (counts a).Nodup) :
    (argumentSets values a).Nodup := by
  rw [argumentSets, List.nodup_flatMap]
  refine ⟨fun n _ => nodup_tuples h hvalues n, hcounts.imp fun {m n} hne t hm hn => ?_⟩
  -- tuples for different counts have different lengths
  exact hne ((length_of_mem_tuples h hm).symm.trans (length_of_mem_tuples h hn))

lemma map_length_argumentSets :
    (argumentSets values a).map List.length = (counts a).flatMap fun n =>
      List.replicate (if values.length ^ n ≤ maxCombinations then values.length ^ n
        else values.length) n := by
  rw [argumentSets, List.map_flatMap]
  simp only [map_length_tuples h]

omit h

/-- The counts that are tried are accepted, and all accepted ones are tried unless any number is
accepted. -/
lemma mem_counts {n : Nat} :
    n ∈ counts a ↔ a.accepts n = true ∧ (a = .unbounded → n ∈ unboundedCounts) := by
  cases a with
  | fixed cs => simp [counts, Arity.accepts]
  | unbounded => simp [counts, Arity.accepts]

lemma nodup_samples (pair : Ref) : (samples pair).Nodup := by
  simp [samples]

/-- The arguments that an audit tries. Read as positions in a list of values, the numbers below the
power of its length number all tuples, each once. For every arity without repeated counts, an audit
tries, in the order of the counts, all tuples of the nine sample values if there are not too many,
and else the nine with equal components; it tries each once, and nothing else. The counts are those
that are accepted, or five of them if any number is. -/
theorem samples_are_enumerated :
    (∀ {α : Type} [Inhabited α] (values : List α) (n : Nat),
      Set.BijOn (combination (List.range values.length) n) (Set.Iio (values.length ^ n))
          {t | IsTuple (List.range values.length) n t} ∧
        ∀ i < values.length ^ n, (combination values n i).map some =
          (combination (List.range values.length) n i).map (values[·]?)) ∧
    ∀ (pair : Ref) (a : Arity), (counts a).Nodup →
      let sets := argumentSets (samples pair) a
      sets.Nodup ∧
        (∀ n ∈ counts a, 9 ^ n ≤ maxCombinations → ∀ t : List Value, t.length = n →
          (t ∈ sets ↔ ∀ v ∈ t, v ∈ samples pair)) ∧
        (∀ n ∈ counts a, maxCombinations < 9 ^ n → ∀ t : List Value, t.length = n →
          (t ∈ sets ↔ ∃ v ∈ samples pair, t = List.replicate n v)) ∧
        (sets.map List.length = (counts a).flatMap fun n =>
          List.replicate (if 9 ^ n ≤ maxCombinations then 9 ^ n else 9) n) ∧
        ∀ n, n ∈ counts a ↔ a.accepts n = true ∧ (a = .unbounded → n ∈ [0, 1, 2, 3, 10]) := by
  refine ⟨fun values n => ⟨?_, fun i hi => combination_positions hi⟩, fun pair a hcounts => ?_⟩
  · have hrange := combination_bijOn (List.nodup_range (n := values.length)) n
    rwa [List.length_range] at hrange
  · have hsize : 1 < (samples pair).length := by simp [samples]
    refine ⟨nodup_argumentSets hsize a (nodup_samples pair) hcounts, ?_, ?_,
      map_length_argumentSets hsize a, fun n => mem_counts a⟩
    · rintro n hn hle t rfl
      have hall : (samples pair).length ^ t.length ≤ maxCombinations := hle
      rw [mem_argumentSets hsize, mem_tuples hsize]
      exact ⟨fun ht => ht.2.1.mem, fun ht => ⟨hn, ⟨rfl, ht⟩, .inl hall⟩⟩
    · rintro n hn hlt t rfl
      have hmany : maxCombinations < (samples pair).length ^ t.length := hlt
      rw [mem_argumentSets hsize, tuples_of_lt hsize hmany, List.mem_map]
      exact ⟨fun ⟨_, v, hv, ht⟩ => ⟨v, hv, ht.symm⟩, fun ⟨v, hv, ht⟩ => ⟨hn, v, hv, ht.symm⟩⟩

/-- A function with seventy arguments or two: the power for seventy does not fit into a word. Values
may be equal, their positions are not. -/
theorem samples_are_enumerated_seventy_or_two :
    let a := Arity.fixed [70, 2]
    let sets := argumentSets (samples 0) a
    let values := ["hi", "hi", "bye"]
    ((counts a).Nodup ∧ UInt64.size < 9 ^ 70 ∧ sets.Nodup ∧
      [.array 0 .unknown, .null .unknown] ∈ sets ∧
      (∀ t : List Value, t.length = 70 → (t ∈ sets ↔ ∃ v ∈ samples 0, t = List.replicate 70 v)) ∧
      sets.map List.length = List.replicate 9 70 ++ List.replicate 81 2) ∧
    Set.BijOn (combination (List.range 3) 2) (Set.Iio (3 ^ 2)) {t | IsTuple (List.range 3) 2 t} ∧
    5 < 3 ^ 2 ∧ (combination values 2 5).map some = [2, 1].map (values[·]?) := by
  intro a sets values
  have hcounts : (counts a).Nodup := by decide
  obtain ⟨hnodup, hall, hequal, hlengths, -⟩ := samples_are_enumerated.2 0 a hcounts
  obtain ⟨hbij, hpositions⟩ := samples_are_enumerated.1 values 2
  have hdigits : combination (List.range values.length) 2 5 = [2, 1] := by decide
  refine ⟨⟨hcounts, by decide, hnodup, ?_, ?_, hlengths⟩, hbij, by decide,
    hdigits ▸ hpositions 5 (by decide)⟩
  · exact (hall 2 (by decide) (by decide) _ rfl).2 (by simp [samples])
  · exact hequal 70 (by decide) (by decide)

end Audit

end CommandScript
