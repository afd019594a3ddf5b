import CommandScript.Coercion
import CommandScript.Environment
import CommandScript.Proofs.Lexeme
import CommandScript.Proofs.Overflow

/-!
# Texts that are read as numbers

A text is taken as a number in two places. Arithmetic takes a text value as the number that it
spells between blanks. A word of a script, and an argument that the host passes to it, become
integers or doubles if they spell one. Both try an integer first and a plain decimal then, but only
the second of them looks at what the decimal was rounded to: it leaves a decimal that is too large
for a double as a text, which arithmetic takes as an infinity. Which decimals are too large is said
by their digits. On all other texts the two agree.

## Main definitions

* `CommandScript.Decimal.Plain`, `CommandScript.Decimal.Spells` — how plain decimals are written.
* `CommandScript.Decimal.Oversized` — a plain decimal that is too large for a double.

## Main results

* `CommandScript.Decimal.double?_eq_some_iff` — what is read as a double.
* `CommandScript.Decimal.isFinite_of_double?`, `CommandScript.Decimal.isInf_of_double?` — whether it
  is finite.
* `CommandScript.Piece.split_eq_singleton_iff` — the texts that are a number in a script.
* `CommandScript.Environment.aliasD_setPositional` — the arguments that the host passes.
* `CommandScript.Value.text_counts_as_it_reads` — the two ways to take a text as a number agree, but
  for decimals that are too large.
-/

namespace CommandScript

/-! ## How decimals are written -/

namespace Decimal

/-- Digits with at most one point among them, and the digits before and after the point. -/
inductive Plain : List Char → (whole fraction : List Char) → Prop where
  | integer {whole : List Char} (hne : whole ≠ []) (hwhole : ∀ c ∈ whole, c.isDigit = true) :
    Plain whole whole []
  | point {whole fraction : List Char} (hne : ¬ (whole = [] ∧ fraction = []))
    (hwhole : ∀ c ∈ whole, c.isDigit = true) (hfraction : ∀ c ∈ fraction, c.isDigit = true) :
    Plain (whole ++ '.' :: fraction) whole fraction

/-- A plain decimal that stands for `m / 10 ^ k`, or for the opposite of that if it has a minus
sign. -/
inductive Spells : List Char → (minus : Bool) → (m k : Nat) → Prop where
  | plain {cs whole fraction : List Char} (h : Plain cs whole fraction) :
    Spells cs false (valueOf (whole ++ fraction)) fraction.length
  | minus {cs whole fraction : List Char} (h : Plain cs whole fraction) :
    Spells ('-' :: cs) true (valueOf (whole ++ fraction)) fraction.length

/-- A plain decimal that reaches the limit of what is rounded to a double. -/
def Oversized (cs : List Char) : Prop :=
  ∃ minus m k, Spells cs minus m k ∧ Double.limit * 10 ^ k ≤ m

variable {cs whole fraction : List Char} {minus : Bool} {m k : Nat}

lemma Plain.isDigit_or_point (h : Plain cs whole fraction) {c : Char} (hc : c ∈ cs) :
    c.isDigit = true ∨ c = '.' := by
  cases h with
  | integer hne hwhole => exact .inl (hwhole c hc)
  | point hne hwhole hfraction =>
    rcases List.mem_append.1 hc with hc | hc
    · exact .inl (hwhole c hc)
    · rcases List.mem_cons.1 hc with rfl | hc
      · exact .inr rfl
      · exact .inl (hfraction c hc)

/-- The sign is no part of a plain decimal. -/
lemma Plain.head_ne (h : Plain cs whole fraction) {c : Char} {ds : List Char}
    (hc : c.isDigit = false ∧ c ≠ '.') : cs ≠ c :: ds := by
  rintro rfl
  rcases h.isDigit_or_point (List.mem_cons_self ..) with hdigit | rfl
  · rw [hc.1] at hdigit
    cases hdigit
  · exact hc.2 rfl

/-- Digits are a decimal without a fraction. -/
lemma Plain.of_isDigit (h : Plain cs whole fraction) (hcs : ∀ c ∈ cs, c.isDigit = true) :
    whole = cs ∧ fraction = [] := by
  cases h with
  | integer hne hwhole => exact ⟨rfl, rfl⟩
  | point hne hwhole hfraction =>
    have hpoint := hcs '.' (List.mem_append_right _ (List.mem_cons_self ..))
    cases hpoint

/-- A text is taken apart at its point exactly if it is a plain decimal. -/
lemma parts?_eq_some_iff : parts? cs = some (whole, fraction) ↔ Plain cs whole fraction := by
  constructor
  · intro h
    have hspan : cs.takeWhile Char.isDigit ++ cs.dropWhile Char.isDigit = cs :=
      List.takeWhile_append_dropWhile
    have hwhole : ∀ c ∈ cs.takeWhile Char.isDigit, c.isDigit = true := fun c hc =>
      List.mem_takeWhile_imp hc
    unfold parts? at h
    dsimp only at h
    split at h
    · next hrest =>
      rw [hrest, List.append_nil] at hspan
      split at h
      · cases h
      · next hne =>
        obtain ⟨rfl, rfl⟩ := Prod.mk.inj (Option.some.inj h)
        rw [hspan] at hwhole hne ⊢
        exact .integer (fun hnil => hne (List.isEmpty_iff.2 hnil)) hwhole
    · next rest hrest =>
      rw [hrest] at hspan
      split at h
      · next hdigits =>
        obtain ⟨rfl, rfl⟩ := Prod.mk.inj (Option.some.inj h)
        simp only [Bool.and_eq_true, List.all_eq_true, Bool.not_eq_true', Bool.and_eq_false_iff,
          List.isEmpty_eq_false_iff] at hdigits
        have hplain :
            Plain (cs.takeWhile Char.isDigit ++ '.' :: rest) (cs.takeWhile Char.isDigit) rest :=
          .point (by tauto) hwhole hdigits.1
        rwa [hspan] at hplain
      · cases h
    · cases h
  · intro h
    cases h with
    | integer hne hwhole =>
      unfold parts?
      rw [List.takeWhile_eq_self_iff.2 hwhole, List.dropWhile_eq_nil_iff.2 hwhole]
      dsimp only
      rw [if_neg (fun hnil => hne (List.isEmpty_iff.1 hnil))]
    | point hne hwhole hfraction =>
      obtain ⟨htake, hdrop⟩ : (whole ++ '.' :: fraction).takeWhile Char.isDigit = whole ∧
          (whole ++ '.' :: fraction).dropWhile Char.isDigit = '.' :: fraction :=
        Piece.span_append hwhole fun d ds hd => by
          obtain ⟨rfl, -⟩ := List.cons.inj hd
          rfl
      have hparts : (fraction.all Char.isDigit && !(whole.isEmpty && fraction.isEmpty)) = true := by
        simp only [Bool.and_eq_true, List.all_eq_true, Bool.not_eq_true', Bool.and_eq_false_iff,
          List.isEmpty_eq_false_iff]
        exact ⟨hfraction, by tauto⟩
      unfold parts?
      rw [htake, hdrop]
      exact if_pos hparts

/-- A double with a sign. -/
def signed (minus : Bool) (x : Float) : Float := if minus then -x else x

/-- What is read as a double is a plain decimal, perhaps behind a minus sign. -/
lemma double?_eq_some_iff {x : Float} : double? cs = some x ↔
    ∃ minus m k, Spells cs minus m k ∧ x = signed minus (Float.ofScientific m true k) := by
  constructor
  · intro h
    unfold double? at h
    split at h
    · obtain ⟨p, hp, rfl⟩ := Option.map_eq_some_iff.1 h
      exact ⟨true, _, _, .minus (parts?_eq_some_iff.1 hp), rfl⟩
    · obtain ⟨p, hp, rfl⟩ := Option.map_eq_some_iff.1 h
      exact ⟨false, _, _, .plain (parts?_eq_some_iff.1 hp), rfl⟩
  · rintro ⟨minus, m, k, hspells, rfl⟩
    cases hspells with
    | minus h =>
      rw [double?, parts?_eq_some_iff.2 h]
      rfl
    | plain h =>
      have hsign : ∀ ds, cs = '-' :: ds → False := fun ds => h.head_ne (by decide)
      rw [double?.eq_2 cs hsign, parts?_eq_some_iff.2 h]
      rfl

/-- A decimal that is too large for a double is read as an infinity. -/
lemma isInf_of_double? {x : Float} (h : double? cs = some x) (hlarge : Oversized cs) :
    x.isInf = true := by
  obtain ⟨minus, m, k, hspells, hlimit⟩ := hlarge
  have hx := double?_eq_some_iff.2 ⟨minus, m, k, hspells, rfl⟩
  obtain rfl := Option.some.inj (h.symm.trans hx)
  have hinf := Double.isInf_ofScientific hlimit
  cases minus
  · exact hinf
  · exact Double.isInf_neg hinf

/-- Any other decimal is read as a finite double. -/
lemma isFinite_of_double? {x : Float} (h : double? cs = some x) (hsmall : ¬ Oversized cs) :
    x.isFinite = true := by
  obtain ⟨minus, m, k, hspells, rfl⟩ := double?_eq_some_iff.1 h
  have hfinite := Double.isFinite_ofScientific (m := m) (k := k) <|
    Nat.lt_of_not_le fun hlimit => hsmall ⟨minus, m, k, hspells, hlimit⟩
  cases minus
  · exact hfinite
  · exact Double.isFinite_neg hfinite

/-- A decimal that is too large for a double is read as a double all the same. -/
lemma Oversized.exists_double? (h : Oversized cs) : ∃ x, double? cs = some x := by
  obtain ⟨minus, m, k, hspells, -⟩ := h
  exact ⟨_, double?_eq_some_iff.2 ⟨minus, m, k, hspells, rfl⟩⟩

/-- What is read as an integer: digits, perhaps behind a sign. -/
lemma int?_eq_some {n : Int} (h : int? cs = some n) : ∃ digits : List Char,
    digits ≠ [] ∧ (∀ c ∈ digits, c.isDigit = true) ∧
      (cs = '-' :: digits ∧ n = -valueOf digits ∨ cs = '+' :: digits ∧ n = valueOf digits ∨
        cs = digits ∧ n = valueOf digits) := by
  unfold int? at h
  dsimp only at h
  split at h <;>
  · split at h
    · next hdigits =>
      simp only [Bool.and_eq_true, Bool.not_eq_true', List.isEmpty_eq_false_iff,
        List.all_eq_true] at hdigits
      obtain rfl := Option.some.inj h
      exact ⟨_, hdigits.1, hdigits.2, by simp⟩
    · cases h

/-- An integer of 64 bits is not too large for a double. -/
lemma not_oversized_of_int64? {n : Int64} (h : int64? cs = some n) : ¬ Oversized cs := by
  rintro ⟨minus, m, k, hspells, hlimit⟩
  obtain ⟨z, hz, hword⟩ := Option.bind_eq_some_iff.1 h
  have hrange : inRange z = true := by
    rw [word?] at hword
    split at hword
    · assumption
    · cases hword
  have hbound : z.natAbs < 2 ^ 64 := by
    simp only [inRange, Bool.and_eq_true, decide_eq_true_eq] at hrange
    have hmin : Int64.minValue.toInt = -2 ^ 63 := rfl
    have hmax : Int64.maxValue.toInt = 2 ^ 63 - 1 := rfl
    omega
  -- the sign and the digits are the same for both readings
  have habs : m = z.natAbs ∧ k = 0 := by
    obtain ⟨digits, -, hdigits, ⟨rfl, rfl⟩ | ⟨rfl, rfl⟩ | ⟨rfl, rfl⟩⟩ := int?_eq_some hz
    · cases hspells with
      | plain h => exact absurd rfl (h.head_ne (by decide))
      | minus h =>
        obtain ⟨rfl, rfl⟩ := h.of_isDigit hdigits
        simp
    · cases hspells with
      | plain h => exact absurd rfl (h.head_ne (by decide))
    · cases hspells with
      | plain h =>
        obtain ⟨rfl, rfl⟩ := h.of_isDigit hdigits
        simp
      | minus h => cases hdigits '-' (List.mem_cons_self ..)
  have hlow : 2 ^ 64 ≤ Double.limit := by
    rw [Double.limit_eq]
    omega
  rw [habs.1, habs.2, pow_zero, Nat.mul_one] at hlimit
  omega

/-- The characters that numbers are written with. -/
def IsNumeralChar (c : Char) : Prop := c.isDigit = true ∨ c = '-' ∨ c = '+' ∨ c = '.'

/-- The codes of the characters of numbers. -/
lemma IsNumeralChar.code {c : Char} (h : IsNumeralChar c) :
    43 ≤ c.toNat ∧ c.toNat ≤ 57 ∧ c.toNat ≠ 44 ∧ c.toNat ≠ 47 := by
  rcases h with h | rfl | rfl | rfl
  · simp only [Char.isDigit, Bool.and_eq_true, decide_eq_true_eq, UInt32.le_iff_toNat_le,
      ge_iff_le] at h
    change 48 ≤ c.toNat ∧ c.toNat ≤ 57 at h
    omega
  all_goals decide

lemma IsNumeralChar.ne {c d : Char} (h : IsNumeralChar c)
    (hd : d.toNat < 43 ∨ d.toNat = 44 ∨ d.toNat = 47 ∨ 57 < d.toNat) : c ≠ d := by
  have hcode := h.code
  rintro rfl
  omega

lemma IsNumeralChar.not_isBlank {c : Char} (h : IsNumeralChar c) : Text.isBlank c = false := by
  have hcode := h.code
  simp [Text.isBlank]
  omega

/-- There are no blanks around a number. -/
lemma trim_of_isNumeralChar {s : String} (h : ∀ c ∈ s.toList, IsNumeralChar c) :
    Text.trim s = s := by
  have hdrop : ∀ cs : List Char, (∀ c ∈ cs, IsNumeralChar c) → cs.dropWhile Text.isBlank = cs := by
    intro cs hcs
    cases cs with
    | nil => rfl
    | cons c cs =>
      rw [List.dropWhile_cons_of_neg]
      simp [(hcs c (List.mem_cons_self ..)).not_isBlank]
  rw [Text.trim, Text.strip, Text.stripStart, hdrop _ h, Text.stripEnd,
    hdrop _ fun c hc => h c (List.mem_reverse.1 hc), List.reverse_reverse, String.ofList_toList]

lemma isNumeralChar_of_int? {n : Int} (h : int? cs = some n) : ∀ c ∈ cs, IsNumeralChar c := by
  intro c hc
  obtain ⟨digits, -, hdigits, ⟨rfl, -⟩ | ⟨rfl, -⟩ | ⟨rfl, -⟩⟩ := int?_eq_some h
  · rcases List.mem_cons.1 hc with rfl | hc
    · exact .inr (.inl rfl)
    · exact .inl (hdigits c hc)
  · rcases List.mem_cons.1 hc with rfl | hc
    · exact .inr (.inr (.inl rfl))
    · exact .inl (hdigits c hc)
  · exact .inl (hdigits c hc)

lemma Spells.isNumeralChar (h : Spells cs minus m k) : ∀ c ∈ cs, IsNumeralChar c := by
  intro c hc
  cases h with
  | plain h => exact (h.isDigit_or_point hc).imp_right fun hpoint => .inr (.inr hpoint)
  | minus h =>
    rcases List.mem_cons.1 hc with rfl | hc
    · exact .inr (.inl rfl)
    · exact (h.isDigit_or_point hc).imp_right fun hpoint => .inr (.inr hpoint)

/-- A text that is read as an integer or as a double has a character, and only those of numbers. -/
lemma isNumeralChar_of_read (h : int64? cs ≠ none ∨ double? cs ≠ none) :
    cs ≠ [] ∧ ∀ c ∈ cs, IsNumeralChar c := by
  constructor
  · rintro rfl
    rcases h with h | h <;> exact h rfl
  · rcases h with h | h
    · obtain ⟨n, hn⟩ := Option.ne_none_iff_exists'.1 h
      obtain ⟨z, hz, -⟩ := Option.bind_eq_some_iff.1 hn
      exact isNumeralChar_of_int? hz
    · obtain ⟨x, hx⟩ := Option.ne_none_iff_exists'.1 h
      obtain ⟨minus, m, k, hspells, -⟩ := double?_eq_some_iff.1 hx
      exact hspells.isNumeralChar

end Decimal

/-! ## What a text is taken as -/

namespace Value

open Decimal (int64? double? Oversized)

variable {s t : String} {loc : Location} {n : Int64} {x : Float}

/-- Arithmetic takes a text as an integer if it can be read as one. -/
lemma number_of_int64? (h : int64? (Text.trim s).toList = some n) :
    (string s loc).number = .ok (.int n) := by
  rw [Text.trim, String.toList_ofList] at h
  simp only [number, resolved, h]

/-- Else arithmetic takes it as a double if it can be read as one. -/
lemma number_of_double? (hint : int64? (Text.trim s).toList = none)
    (h : double? (Text.trim s).toList = some x) : (string s loc).number = .ok (.double x) := by
  rw [Text.trim, String.toList_ofList] at hint h
  simp only [number, resolved, hint, h]

/-- Arithmetic does not take any other text. -/
lemma number_of_neither (hint : int64? (Text.trim s).toList = none)
    (h : double? (Text.trim s).toList = none) :
    (string s loc).number = .error (.notNumeric (Text.trim s)) := by
  rw [Text.trim, String.toList_ofList] at hint h
  simp only [number, resolved, hint, h, Text.trim]

/-- The keywords are no numbers. -/
lemma ne_keyword (h : int64? t.toList ≠ none ∨ double? t.toList ≠ none) :
    t ≠ "null" ∧ t ≠ "true" ∧ t ≠ "false" := by
  refine ⟨?_, ?_, ?_⟩ <;> rintro rfl <;> rcases h with h | h <;> exact h rfl

lemma ofText_of_int64? (h : int64? t.toList = some n) : ofText t loc = int n loc := by
  obtain ⟨hnull, htrue, hfalse⟩ :=
    ne_keyword (t := t) (.inl (by rw [h]; exact Option.some_ne_none n))
  rw [ofText, if_neg hnull, if_neg htrue, if_neg hfalse, h]

lemma ofText_of_double? (loc : Location) (hint : int64? t.toList = none)
    (h : double? t.toList = some x) :
    ofText t loc = if x.isFinite then double x loc else string t loc := by
  obtain ⟨hnull, htrue, hfalse⟩ :=
    ne_keyword (t := t) (.inr (by rw [h]; exact Option.some_ne_none x))
  rw [ofText, if_neg hnull, if_neg htrue, if_neg hfalse, hint, h]

/-- A text that is no number is a keyword, or it stays a text. -/
lemma ofText_of_neither (loc : Location) (hint : int64? t.toList = none)
    (h : double? t.toList = none) :
    ofText t loc = string t loc ∨
      (∃ b, ofText t loc = boolean b loc) ∨ ofText t loc = null loc := by
  unfold ofText
  split
  · exact .inr (.inr rfl)
  · split
    · exact .inr (.inl ⟨true, rfl⟩)
    · split
      · exact .inr (.inl ⟨false, rfl⟩)
      · rw [hint, h]
        exact .inl rfl

/-- Texts, truth values and null are no numbers. -/
lemma ne_toValue {v : Value} {loc' : Location} (k : Number)
    (h : v = string t loc ∨ (∃ b, v = boolean b loc) ∨ v = null loc) : v ≠ k.toValue loc' := by
  rcases h with rfl | ⟨b, rfl⟩ | rfl <;> cases k <;> exact Value.noConfusion

/-- What arithmetic takes a text as, and what the text is read as elsewhere. -/
inductive Reading (s : String) (loc loc' : Location) : Prop where
  /-- An integer, or a decimal that is not too large. -/
  | numeral {k : Number} (counts : (string s loc).number = .ok k)
    (reads : ofText (Text.trim s) loc' = k.toValue loc') (small : ¬ Oversized (Text.trim s).toList)
  /-- A decimal that is too large. -/
  | oversized {x : Float} (counts : (string s loc).number = .ok (.double x))
    (infinite : x.isInf = true) (reads : ofText (Text.trim s) loc' = string (Text.trim s) loc')
    (large : Oversized (Text.trim s).toList)
  /-- A text that is no number. -/
  | other {c : Cause} (cast : c.kind = .cast) (counts : (string s loc).number = .error c)
    (reads : ofText (Text.trim s) loc' = string (Text.trim s) loc' ∨
      (∃ b, ofText (Text.trim s) loc' = boolean b loc') ∨ ofText (Text.trim s) loc' = null loc')
    (small : ¬ Oversized (Text.trim s).toList)

lemma reading (s : String) (loc loc' : Location) : Reading s loc loc' := by
  cases hint : int64? (Text.trim s).toList with
  | some n =>
    exact .numeral (number_of_int64? hint) (ofText_of_int64? hint)
      (Decimal.not_oversized_of_int64? hint)
  | none =>
    cases hdouble : double? (Text.trim s).toList with
    | none =>
      have hsmall : ¬ Oversized (Text.trim s).toList := fun hlarge => by
        obtain ⟨x, hx⟩ := hlarge.exists_double?
        rw [hdouble] at hx
        cases hx
      exact .other rfl (number_of_neither hint hdouble) (ofText_of_neither loc' hint hdouble) hsmall
    | some x =>
      have hreads := ofText_of_double? loc' hint hdouble
      by_cases hlarge : Oversized (Text.trim s).toList
      · have hinf := Decimal.isInf_of_double? hdouble hlarge
        rw [if_neg (Double.not_isFinite_of_isInf hinf)] at hreads
        exact .oversized (number_of_double? hint hdouble) hinf hreads hlarge
      · rw [if_pos (Decimal.isFinite_of_double? hdouble hlarge)] at hreads
        exact .numeral (number_of_double? hint hdouble) hreads hlarge

/-- Arithmetic takes a text as the number that it is read as, if it is not too large. -/
lemma counts_iff_reads {s : String} (loc loc' : Location) (k : Number) :
    (string s loc).number = .ok k ∧ ¬ Oversized (Text.trim s).toList ↔
      ofText (Text.trim s) loc' = k.toValue loc' := by
  cases reading s loc loc' with
  | @numeral k' counts reads small =>
    rw [counts, reads]
    constructor
    · rintro ⟨hk, -⟩
      rw [Except.ok.inj hk]
    · intro hk
      refine ⟨?_, small⟩
      cases k <;> cases k' <;> cases hk <;> rfl
  | oversized counts infinite reads large =>
    exact iff_of_false (fun h => h.2 large) (ne_toValue k (.inl reads))
  | other cast counts reads small =>
    refine iff_of_false (fun h => ?_) (ne_toValue k reads)
    rw [counts] at h
    cases h.1

/-- Arithmetic takes a decimal that is too large as an infinity, but elsewhere it stays a text. -/
lemma reads_of_oversized {s : String} (loc loc' : Location) (h : Oversized (Text.trim s).toList) :
    ofText (Text.trim s) loc' = string (Text.trim s) loc' ∧
      ∃ x, x.isInf = true ∧ (string s loc).number = .ok (.double x) := by
  cases reading s loc loc' with
  | numeral counts reads small => exact absurd h small
  | @oversized x counts infinite reads large => exact ⟨reads, x, infinite, counts⟩
  | other cast counts reads small => exact absurd h small

/-- A text that is read as a double is read as a finite one. -/
lemma isFinite_of_ofText (h : ofText t loc = double x loc) : x.isFinite = true := by
  cases hint : int64? t.toList with
  | some n =>
    rw [ofText_of_int64? hint] at h
    cases h
  | none =>
    cases hdouble : double? t.toList with
    | none => exact absurd h (ne_toValue (.double x) (ofText_of_neither loc hint hdouble))
    | some y =>
      rw [ofText_of_double? loc hint hdouble] at h
      split at h
      · next hfinite =>
        cases h
        exact hfinite
      · cases h

/-- Arithmetic fails on a text exactly if the text is no number. -/
lemma fails_iff_reads {s : String} (loc loc' : Location) :
    (∃ c : Cause, c.kind = .cast ∧ (string s loc).number = .error c) ↔
      ¬ Oversized (Text.trim s).toList ∧ (ofText (Text.trim s) loc' = string (Text.trim s) loc' ∨
        (∃ b, ofText (Text.trim s) loc' = boolean b loc') ∨
        ofText (Text.trim s) loc' = null loc') := by
  cases reading s loc loc' with
  | @numeral k counts reads small =>
    refine iff_of_false ?_ fun h => ne_toValue k h.2 reads
    rintro ⟨c, -, h⟩
    rw [counts] at h
    cases h
  | oversized counts infinite reads large =>
    refine iff_of_false ?_ fun h => h.1 large
    rintro ⟨c, -, h⟩
    rw [counts] at h
    cases h
  | @other c cast counts reads small =>
    exact iff_of_true ⟨c, cast, counts⟩ ⟨small, reads⟩

/-- A text is read as a number, or it stays a text or is a keyword. -/
lemma ofText_cases (t : String) (loc : Location) :
    (∃ k : Number, ofText t loc = k.toValue loc) ∨ ofText t loc = string t loc ∨
      (∃ b, ofText t loc = boolean b loc) ∨ ofText t loc = null loc := by
  cases hint : int64? t.toList with
  | some n => exact .inl ⟨.int n, ofText_of_int64? hint⟩
  | none =>
    cases hdouble : double? t.toList with
    | none => exact .inr (ofText_of_neither loc hint hdouble)
    | some x =>
      rw [ofText_of_double? loc hint hdouble]
      split
      · exact .inl ⟨.double x, rfl⟩
      · exact .inr (.inl rfl)

/-- What is read as a number has the characters of one. -/
lemma isNumeralChar_of_ofText {k : Number} (h : ofText t loc = k.toValue loc) :
    t.toList ≠ [] ∧ ∀ c ∈ t.toList, Decimal.IsNumeralChar c := by
  refine Decimal.isNumeralChar_of_read ?_
  by_contra hneither
  simp only [not_or, not_not] at hneither
  exact ne_toValue k (ofText_of_neither loc hneither.1 hneither.2) h

end Value

/-! ## Words of a script -/

/-- The token that a number is. -/
def Number.toKind : Number → Token.Kind
  | int n => .int n
  | double x => .double x

namespace Piece

open Decimal (IsNumeralChar)

variable {c : Char} {cs : List Char} {kind : Token.Kind} {k : Number}

/-- A text is a single token exactly if it is written as one. -/
lemma split_eq_singleton_iff : split cs = [⟨.token kind, cs⟩] ↔ Token.Lexeme kind cs [] := by
  constructor
  · intro h
    have hwritten := writtenEach_split cs
    rw [h] at hwritten
    cases hwritten.1 with
    | token hlexeme => exact hlexeme
  · intro h
    have hwritten : WrittenEach [⟨.token kind, cs⟩] := ⟨.token h, trivial⟩
    have hsplit := hwritten.eq_split
    rw [List.flatMap_singleton] at hsplit
    exact hsplit.symm

/-- A word is the number that its text is read as. -/
lemma wordKind_eq_iff : wordKind cs = k.toKind ↔
    Value.ofText (String.ofList cs) .unknown = k.toValue .unknown := by
  unfold wordKind
  rcases Value.ofText_cases (String.ofList cs) .unknown with ⟨k', h⟩ | h | ⟨b, h⟩ | h <;> rw [h]
  · cases k <;> cases k' <;> simp [Number.toKind, Number.toValue]
  all_goals cases k <;> simp [Number.toKind, Number.toValue]

/-- No character of a number ends a word. -/
lemma endsWord_of_isNumeralChar (h : IsNumeralChar c) : endsWord c = false := by
  have hparen : c ≠ '(' ∧ c ≠ ')' := ⟨h.ne (by decide), h.ne (by decide)⟩
  have hbracket : c ≠ '[' ∧ c ≠ ']' := ⟨h.ne (by decide), h.ne (by decide)⟩
  have hquote : c ≠ '"' ∧ c ≠ '\'' := ⟨h.ne (by decide), h.ne (by decide)⟩
  have hcomma : c ≠ ',' := h.ne (by decide)
  simp [endsWord, h.not_isBlank, hparen, hbracket, hquote, hcomma]

/-- A number starts like a word. -/
lemma startsWord_of_isNumeralChar (h : IsNumeralChar c) : Token.StartsWord c cs where
  ne_hash := h.ne (by decide)
  not_comment hslash := h.ne (d := '/') (by decide) hslash.1
  not_variable hmark := by
    rcases hmark.1 with hat | hdollar
    · exact h.ne (d := '@') (by decide) hat
    · exact h.ne (d := '$') (by decide) hdollar
  not_control := by
    have hcode := h.code
    simp [Text.isControl]
    omega

/-- A text is the token of a number exactly if it is read as that number. -/
lemma lexeme_number_iff : Token.Lexeme k.toKind cs [] ↔
    Value.ofText (String.ofList cs) .unknown = k.toValue .unknown := by
  constructor
  · intro h
    generalize hkind : k.toKind = kind at h
    cases h with
    | word => exact wordKind_eq_iff.1 hkind.symm
    | sign hsign => cases k <;> subst hkind <;> simp [Token.signs, Number.toKind] at hsign
    | _ => cases k <;> cases hkind
  · intro h
    obtain ⟨hne, hchars⟩ := Value.isNumeralChar_of_ofText h
    rw [String.toList_ofList] at hne hchars
    obtain ⟨c, ds, rfl⟩ := List.exists_cons_of_ne_nil hne
    rw [← wordKind_eq_iff.2 h]
    exact .word (startsWord_of_isNumeralChar (hchars c (List.mem_cons_self ..)))
      (fun d hd => endsWord_of_isNumeralChar (hchars d hd)) (fun d ds hd => by cases hd)
      (fun hname => by cases hname.2)

end Piece

/-! ## Arguments of the host -/

namespace Environment

/-- The environment with variables bound to what some texts spell, from the variable `$j` on. -/
def setPositionalFrom (e : Environment) (j : Nat) (texts : List String) : Environment :=
  (texts.zipIdx j).foldl (fun e p => e.setAlias s!"{p.2}" (.ofText p.1 .unknown)) e

lemma setPositionalFrom_cons (e : Environment) (j : Nat) (text : String) (texts : List String) :
    e.setPositionalFrom j (text :: texts) =
      (e.setAlias (toString j) (.ofText text .unknown)).setPositionalFrom (j + 1) texts := rfl

lemma get?_setAlias (e : Environment) (i j : Nat) (v : Value) :
    (e.setAlias (toString j) v).aliases.get? (toString i) =
      if i = j then some v else e.aliases.get? (toString i) := by
  -- the digits of a number spell it, so different numbers are different names
  have hname : toString i = toString j ↔ i = j := by
    refine ⟨fun h => ?_, congrArg _⟩
    have hdigits : Nat.toDigits 10 i = Nat.toDigits 10 j := by
      rw [← Nat.toList_repr, ← Nat.toList_repr]
      exact congrArg String.toList h
    rw [← Decimal.valueOf_toDigits i, hdigits, Decimal.valueOf_toDigits]
  change (e.aliases.insert (toString j) v).get? (toString i) = _
  rw [Bindings.get?_insert]
  exact if_congr hname rfl rfl

/-- The variables before the first one are left alone. -/
lemma get?_setPositionalFrom_of_lt {i j : Nat} (h : i < j) (e : Environment) (texts : List String) :
    (e.setPositionalFrom j texts).aliases.get? (toString i) = e.aliases.get? (toString i) := by
  induction texts generalizing j e with
  | nil => rfl
  | cons text texts ih =>
    rw [setPositionalFrom_cons, ih (Nat.lt_succ_of_lt h), get?_setAlias, if_neg h.ne]

/-- Each variable is bound to what the text at its position spells. -/
lemma get?_setPositionalFrom (e : Environment) (j : Nat) {texts : List String} {i : Nat}
    {t : String} (h : texts[i]? = some t) :
    (e.setPositionalFrom j texts).aliases.get? (toString (j + i)) = some (.ofText t .unknown) := by
  induction texts generalizing i j e with
  | nil => cases h
  | cons text texts ih =>
    rw [setPositionalFrom_cons]
    cases i with
    | zero =>
      obtain rfl : text = t := Option.some.inj h
      change Bindings.get? _ (toString j) = _
      rw [get?_setPositionalFrom_of_lt (Nat.lt_succ_self j), get?_setAlias, if_pos rfl]
    | succ i =>
      rw [← Nat.add_assoc, Nat.add_right_comm]
      exact ih _ (j + 1) h

/-- An argument of the host is read like any text. -/
lemma aliasD_setPositional (e : Environment) (fallback : Value) {texts : List String} {i : Nat}
    {t : String} (h : texts[i]? = some t) :
    (e.setPositional texts).aliasD (toString (1 + i)) fallback = .ofText t .unknown := by
  have hbound :
      (e.setPositional texts).aliases.get? (toString (1 + i)) = some (.ofText t .unknown) :=
    e.get?_setPositionalFrom 1 h
  rw [aliasD, hbound, Option.getD_some]

end Environment

/-! ## The two readings -/

namespace Value

open Decimal (Oversized)

/-- A text is a number in arithmetic exactly if it is read as that number in a script, unless it is
a decimal that is too large for a double.

Arithmetic takes a text as an integer exactly if its text without surrounding blanks is read as that
integer, and as a finite double exactly if it is read as that double. It fails because of the kind
of the value exactly if the text stays a text or is read as a truth value or as null, and it is not
too large. A decimal that is too large stays a text where it is read, but arithmetic takes it as an
infinity. All other texts that arithmetic takes are single tokens of a script, with that number, and
the host passes that number if it passes the text. -/
theorem text_counts_as_it_reads (s : String) (loc loc' : Location) :
    (∀ n, (string s loc).number = .ok (.int n) ↔ ofText (Text.trim s) loc' = int n loc') ∧
    (∀ x, (string s loc).number = .ok (.double x) ∧ x.isFinite = true ↔
      ofText (Text.trim s) loc' = double x loc') ∧
    ((∃ c : Cause, c.kind = .cast ∧ (string s loc).number = .error c) ↔
      ¬ Oversized (Text.trim s).toList ∧ (ofText (Text.trim s) loc' = string (Text.trim s) loc' ∨
        (∃ b, ofText (Text.trim s) loc' = boolean b loc') ∨
        ofText (Text.trim s) loc' = null loc')) ∧
    (Oversized (Text.trim s).toList → ofText (Text.trim s) loc' = string (Text.trim s) loc' ∧
      ∃ x, x.isInf = true ∧ (string s loc).number = .ok (.double x)) ∧
    ∀ k : Number,
      ((string s loc).number = .ok k ∧ ¬ Oversized (Text.trim s).toList ↔
        Piece.split (Text.trim s).toList = [⟨.token k.toKind, (Text.trim s).toList⟩]) ∧
      ∀ (e : Environment) (fallback : Value) (texts : List String) (i : Nat),
        texts[i]? = some (Text.trim s) →
          ((string s loc).number = .ok k ∧ ¬ Oversized (Text.trim s).toList ↔
            (e.setPositional texts).aliasD (toString (1 + i)) fallback = k.toValue .unknown) := by
  have hlarge := reads_of_oversized (s := s) loc loc'
  refine ⟨fun n => ?_, fun x => ?_, fails_iff_reads loc loc', hlarge, fun k => ⟨?_, ?_⟩⟩
  · have hiff := counts_iff_reads (s := s) loc loc' (.int n)
    refine ⟨fun h => hiff.1 ⟨h, fun hover => ?_⟩, fun h => (hiff.2 h).1⟩
    obtain ⟨-, x, -, hx⟩ := hlarge hover
    cases h.symm.trans hx
  · have hiff := counts_iff_reads (s := s) loc loc' (.double x)
    refine ⟨fun h => hiff.1 ⟨h.1, fun hover => ?_⟩, fun h => ⟨(hiff.2 h).1, isFinite_of_ofText h⟩⟩
    obtain ⟨-, y, hinf, hy⟩ := hlarge hover
    cases h.1.symm.trans hy
    exact Double.not_isFinite_of_isInf hinf h.2
  · rw [Piece.split_eq_singleton_iff, Piece.lexeme_number_iff, String.ofList_toList]
    exact counts_iff_reads loc .unknown k
  · intro e fallback texts i h
    rw [e.aliasD_setPositional fallback h]
    exact counts_iff_reads loc .unknown k

/-- A text with blanks, a sign and leading zeros, in arithmetic, in a script and as an argument. -/
theorem text_counts_as_it_reads_padded :
    (string " -0042 " .unknown).number = .ok (.int (-42)) ∧
    ofText (Text.trim " -0042 ") .unknown = int (-42) .unknown ∧
    Piece.split (Text.trim " -0042 ").toList =
      [⟨.token (.int (-42)), (Text.trim " -0042 ").toList⟩] ∧
    [Text.trim " -0042 "][0]? = some (Text.trim " -0042 ") ∧
    (({} : Environment).setPositional [Text.trim " -0042 "]).aliasD "1" (null .unknown) =
      int (-42) .unknown := by
  have hcounts : (string " -0042 " .unknown).number = .ok (.int (-42)) :=
    number_of_int64? (by decide +kernel)
  have hsmall : ¬ Oversized (Text.trim " -0042 ").toList :=
    Decimal.not_oversized_of_int64? (n := -42) (by decide +kernel)
  obtain ⟨hint, -, -, -, hnumber⟩ := text_counts_as_it_reads " -0042 " .unknown .unknown
  obtain ⟨htoken, hargument⟩ := hnumber (.int (-42))
  exact ⟨hcounts, (hint _).1 hcounts, htoken.1 ⟨hcounts, hsmall⟩, rfl,
    (hargument {} _ _ 0 rfl).1 ⟨hcounts, hsmall⟩⟩

/-- A one and `n` zeros. -/
def powerOfTen (n : Nat) : String := String.ofList ('1' :: List.replicate n '0')

lemma isDigit_powerOfTen (n : Nat) : ∀ c ∈ (powerOfTen n).toList, c.isDigit = true := by
  intro c hc
  rw [powerOfTen, String.toList_ofList, List.mem_cons, List.mem_replicate] at hc
  rcases hc with rfl | ⟨-, rfl⟩ <;> rfl

lemma valueOf_powerOfTen (n : Nat) : Decimal.valueOf (powerOfTen n).toList = 10 ^ n := by
  have hzeros : ∀ a : Nat, (List.replicate n '0').foldl
      (fun n c => 10 * n + (c.toNat - '0'.toNat)) a = a * 10 ^ n := by
    induction n with
    | zero => exact fun a => (Nat.mul_one a).symm
    | succ n ih =>
      intro a
      rw [List.replicate_succ, List.foldl_cons, ih, pow_succ', ← Nat.mul_assoc, Nat.mul_comm a 10]
      rfl
  rw [powerOfTen, String.toList_ofList]
  exact (hzeros 1).trans (Nat.one_mul _)

/-- There are no blanks around a one and zeros, and they are too large from some number of zeros on.
-/
lemma oversized_powerOfTen {n : Nat} (h : Double.limit ≤ 10 ^ n) :
    Text.trim (powerOfTen n) = powerOfTen n ∧ Oversized (powerOfTen n).toList := by
  have hne : (powerOfTen n).toList ≠ [] := by
    rw [powerOfTen, String.toList_ofList]
    exact List.cons_ne_nil _ _
  refine ⟨Decimal.trim_of_isNumeralChar fun c hc => .inl (isDigit_powerOfTen n c hc), false, _, _,
    .plain (.integer hne (isDigit_powerOfTen n)), ?_⟩
  rw [List.append_nil, valueOf_powerOfTen, List.length_nil, pow_zero, Nat.mul_one]
  exact h

/-- A decimal of 310 digits stays a text where it is read, but arithmetic takes it as an infinity.
-/
theorem powerOfTen_counts_as_infinity :
    ofText (Text.trim (powerOfTen 309)) .unknown = string (powerOfTen 309) .unknown ∧
      ∃ x, x.isInf = true ∧ (string (powerOfTen 309) .unknown).number = .ok (.double x) := by
  have hlimit : Double.limit ≤ 10 ^ 309 := by
    rw [Double.limit_eq]
    decide +kernel
  obtain ⟨htrim, hlarge⟩ := oversized_powerOfTen hlimit
  rw [← htrim] at hlarge
  have hreads := reads_of_oversized .unknown .unknown hlarge
  rwa [htrim] at hreads ⊢

end Value

end CommandScript
