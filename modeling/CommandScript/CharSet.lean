/-!
# Sets of characters

A set of characters is given by its turns, the characters at which membership changes when all
characters are gone through in their order. The letters from `a` to `z` have the turns `a` and
`\x7b`, which comes right after `z`. Each set has one list of turns, so sets can be compared, and
two sets are combined by going through their turns together.

## Main definitions

* `CommandScript.CharSet` — sets of characters.
* `CommandScript.CharSet.contains` — membership.
* `CommandScript.CharSet.combine` — the set whose members are told by membership in two others.
* `CommandScript.CharSet.range`, `CommandScript.CharSet.ofRanges`,
  `CommandScript.CharSet.ofChars` — sets by ranges, and by their characters.
* `CommandScript.CharSet.closeUnder` — a set with all characters that are like one of its own.

## Main results

* `CommandScript.CharSet.contains_combine` — membership in a combination of two sets.
* `CommandScript.CharSet.eq_of_contains` — sets with the same characters are equal.
-/

namespace CommandScript

/-- A set of characters. -/
structure CharSet where
  /-- The characters at which membership changes, the least one first. -/
  turns : List Char
  /-- The turns are in increasing order. -/
  increasing : turns.Pairwise (· < ·)
deriving DecidableEq, Repr

namespace CharSet

/-! ## Membership -/

/-- Whether the number of turns up to a character is odd. -/
def inside : (turns : List Char) → (c : Char) → Bool
  | [], _ => false
  | t :: ts, c => t ≤ c && !inside ts c

/-- Whether a character is in a set. -/
def contains (s : CharSet) (c : Char) : Bool := inside s.turns c

theorem inside_eq_false {ts : List Char} {c : Char} (h : ∀ t ∈ ts, c < t) :
    inside ts c = false := by
  cases ts with
  | nil => rfl
  | cons t ts =>
    have : ¬ t ≤ c := Char.not_le.2 (h t (List.mem_cons_self ..))
    simp [inside, this]

theorem inside_cons_of_le {t c : Char} (ts : List Char) (h : t ≤ c) :
    inside (t :: ts) c = !inside ts c := by
  simp [inside, h]

/-! ## Combining two sets -/

/-- Turns before which membership is `before`: with one more at `c` if it is not `after` there. -/
def turnAt (c : Char) (before after : Bool) (rest : List Char) : List Char :=
  if before = after then rest else c :: rest

/-- The turns of a combination of two sets, of which `a` and `b` tell membership so far. -/
def merge (op : Bool → Bool → Bool) (a b : Bool) : List Char → List Char → List Char
  | [], [] => []
  | s :: ss, [] => turnAt s (op a b) (op (!a) b) (merge op (!a) b ss [])
  | [], t :: ts => turnAt t (op a b) (op a (!b)) (merge op a (!b) [] ts)
  | s :: ss, t :: ts =>
    if s < t then turnAt s (op a b) (op (!a) b) (merge op (!a) b ss (t :: ts))
    else if t < s then turnAt t (op a b) (op a (!b)) (merge op a (!b) (s :: ss) ts)
    else turnAt s (op a b) (op (!a) (!b)) (merge op (!a) (!b) ss ts)
termination_by ss ts => ss.length + ts.length
decreasing_by all_goals simp only [List.length_cons]; omega

theorem mem_of_mem_turnAt {x c : Char} {p q : Bool} {rest : List Char}
    (h : x ∈ turnAt c p q rest) : x = c ∨ x ∈ rest := by
  unfold turnAt at h
  split at h
  · exact .inr h
  · exact List.mem_cons.1 h

theorem pairwise_turnAt {c : Char} {p q : Bool} {rest : List Char}
    (h : rest.Pairwise (· < ·)) (low : ∀ x ∈ rest, c < x) :
    (turnAt c p q rest).Pairwise (· < ·) := by
  unfold turnAt
  split
  · exact h
  · exact List.pairwise_cons.2 ⟨low, h⟩

theorem mem_of_mem_merge {op : Bool → Bool → Bool} {a b : Bool} {ss ts : List Char} {x : Char}
    (h : x ∈ merge op a b ss ts) : x ∈ ss ∨ x ∈ ts := by
  fun_induction merge op a b ss ts
  case case1 => simp at h
  case case2 ih | case3 ih | case4 ih | case5 ih | case6 ih =>
    rcases mem_of_mem_turnAt h with rfl | h
    · simp
    · have := ih h
      simp only [List.mem_cons] at this ⊢
      grind

/-- The turns of a combination come after what all turns of both sets come after. -/
theorem lt_of_mem_merge {op : Bool → Bool → Bool} {a b : Bool} {ss ts : List Char} {c x : Char}
    (hs : ∀ s ∈ ss, c < s) (ht : ∀ t ∈ ts, c < t) (h : x ∈ merge op a b ss ts) : c < x :=
  (mem_of_mem_merge h).elim (hs x) (ht x)

theorem pairwise_merge (op : Bool → Bool → Bool) (a b : Bool) {ss ts : List Char}
    (hs : ss.Pairwise (· < ·)) (ht : ts.Pairwise (· < ·)) :
    (merge op a b ss ts).Pairwise (· < ·) := by
  fun_induction merge op a b ss ts
  case case1 => exact .nil
  case case2 ih =>
    rw [List.pairwise_cons] at hs
    exact pairwise_turnAt (ih hs.2 ht) fun _ => lt_of_mem_merge hs.1 (by simp)
  case case3 ih =>
    rw [List.pairwise_cons] at ht
    exact pairwise_turnAt (ih hs ht.2) fun _ => lt_of_mem_merge (by simp) ht.1
  case case4 h ih =>
    rw [List.pairwise_cons] at hs
    refine pairwise_turnAt (ih hs.2 ht) fun _ => lt_of_mem_merge hs.1 fun x hx => ?_
    rcases List.mem_cons.1 hx with rfl | hx
    · exact h
    · exact Char.lt_trans h ((List.pairwise_cons.1 ht).1 x hx)
  case case5 h ih =>
    rw [List.pairwise_cons] at ht
    refine pairwise_turnAt (ih hs ht.2) fun _ => lt_of_mem_merge (fun x hx => ?_) ht.1
    rcases List.mem_cons.1 hx with rfl | hx
    · exact h
    · exact Char.lt_trans h ((List.pairwise_cons.1 hs).1 x hx)
  case case6 h h' ih =>
    obtain rfl := Char.le_antisymm (Char.not_lt.1 h') (Char.not_lt.1 h)
    rw [List.pairwise_cons] at hs ht
    exact pairwise_turnAt (ih hs.2 ht.2) fun _ => lt_of_mem_merge hs.1 ht.1

/-- A turn of a combination changes what is said about the characters from it on. -/
theorem xor_inside_turnAt {c d : Char} (h : c ≤ d) (p q : Bool) (rest : List Char) :
    (p ^^ inside (turnAt c p q rest) d) = (q ^^ inside rest d) := by
  unfold turnAt
  split
  case isTrue eq => rw [eq]
  case isFalse ne => rw [inside_cons_of_le rest h]; revert ne; cases p <;> cases q <;> simp

/-- Turns that are not reached change nothing. -/
theorem xor_inside_merge_of_lt (op : Bool → Bool → Bool) (a b : Bool) {ss ts : List Char} {c : Char}
    (hs : ∀ s ∈ ss, c < s) (ht : ∀ t ∈ ts, c < t) :
    (op a b ^^ inside (merge op a b ss ts) c) = op (a ^^ inside ss c) (b ^^ inside ts c) := by
  rw [inside_eq_false hs, inside_eq_false ht, inside_eq_false fun x => lt_of_mem_merge hs ht]
  simp

theorem lt_of_mem_cons {c t : Char} {ts : List Char} (h : (t :: ts).Pairwise (· < ·))
    (low : c < t) : ∀ x ∈ t :: ts, c < x := by
  intro x hx
  rcases List.mem_cons.1 hx with rfl | hx
  · exact low
  · exact Char.lt_trans low ((List.pairwise_cons.1 h).1 x hx)

theorem xor_inside_merge (op : Bool → Bool → Bool) (a b : Bool) {ss ts : List Char} (c : Char)
    (hs : ss.Pairwise (· < ·)) (ht : ts.Pairwise (· < ·)) :
    (op a b ^^ inside (merge op a b ss ts) c) = op (a ^^ inside ss c) (b ^^ inside ts c) := by
  fun_induction merge op a b ss ts
  case case1 => simp [inside]
  case case2 a b s ss ih =>
    by_cases h : s ≤ c
    · rw [xor_inside_turnAt h, ih hs.of_cons ht, inside_cons_of_le ss h]
      simp
    · have := xor_inside_merge_of_lt op a b (lt_of_mem_cons hs (Char.not_le.1 h))
        (List.forall_mem_nil _)
      rwa [merge] at this
  case case3 a b t ts ih =>
    by_cases h : t ≤ c
    · rw [xor_inside_turnAt h, ih hs ht.of_cons, inside_cons_of_le ts h]
      simp
    · have := xor_inside_merge_of_lt op a b (List.forall_mem_nil _)
        (lt_of_mem_cons ht (Char.not_le.1 h))
      rwa [merge] at this
  case case4 a b s ss t ts lt ih =>
    by_cases h : s ≤ c
    · rw [xor_inside_turnAt h, ih hs.of_cons ht, inside_cons_of_le ss h]
      simp
    · have low := Char.not_le.1 h
      have := xor_inside_merge_of_lt op a b (lt_of_mem_cons hs low)
        (lt_of_mem_cons ht (Char.lt_trans low lt))
      rwa [merge, if_pos lt] at this
  case case5 a b s ss t ts nlt lt ih =>
    by_cases h : t ≤ c
    · rw [xor_inside_turnAt h, ih hs ht.of_cons, inside_cons_of_le ts h]
      simp
    · have low := Char.not_le.1 h
      have := xor_inside_merge_of_lt op a b (lt_of_mem_cons hs (Char.lt_trans low lt))
        (lt_of_mem_cons ht low)
      rwa [merge, if_neg nlt, if_pos lt] at this
  case case6 a b s ss t ts nlt nlt' ih =>
    obtain rfl := Char.le_antisymm (Char.not_lt.1 nlt') (Char.not_lt.1 nlt)
    by_cases h : s ≤ c
    · rw [xor_inside_turnAt h, ih hs.of_cons ht.of_cons, inside_cons_of_le ss h,
        inside_cons_of_le ts h]
      simp
    · have low := Char.not_le.1 h
      have := xor_inside_merge_of_lt op a b (lt_of_mem_cons hs low) (lt_of_mem_cons ht low)
      rwa [merge, if_neg nlt, if_neg nlt'] at this

/-- The set whose members are told by membership in two others, by an operation that leaves out what
is in neither of them. -/
def combine (op : Bool → Bool → Bool) (s t : CharSet) : CharSet where
  turns := merge op false false s.turns t.turns
  increasing := pairwise_merge op false false s.increasing t.increasing

/-- Membership in a combination of two sets. -/
theorem contains_combine {op : Bool → Bool → Bool} (h : op false false = false) (s t : CharSet)
    (c : Char) : (combine op s t).contains c = op (s.contains c) (t.contains c) := by
  have := xor_inside_merge op false false c s.increasing t.increasing
  simpa [h, contains, combine] using this

/-! ## Equality -/

theorem inside_head {t : Char} {ts : List Char} (h : (t :: ts).Pairwise (· < ·)) :
    inside (t :: ts) t = true := by
  rw [inside_cons_of_le ts (Char.le_refl t), inside_eq_false (List.pairwise_cons.1 h).1]
  rfl

theorem turns_eq_of_inside {ss ts : List Char} (hs : ss.Pairwise (· < ·))
    (ht : ts.Pairwise (· < ·)) (h : ∀ c, inside ss c = inside ts c) : ss = ts := by
  induction ss generalizing ts with
  | nil =>
    cases ts with
    | nil => rfl
    | cons t ts => exact absurd (h t) (by rw [inside_head ht]; simp [inside])
  | cons s ss ih =>
    cases ts with
    | nil => exact absurd (h s) (by rw [inside_head hs]; simp [inside])
    | cons t ts =>
      have le : ¬ t < s := fun lt => by
        have := h t
        rw [inside_head ht, inside_eq_false (lt_of_mem_cons hs lt)] at this
        cases this
      have ge : ¬ s < t := fun lt => by
        have := h s
        rw [inside_head hs, inside_eq_false (lt_of_mem_cons ht lt)] at this
        cases this
      obtain rfl := Char.le_antisymm (Char.not_lt.1 le) (Char.not_lt.1 ge)
      rw [ih hs.of_cons ht.of_cons fun c => ?_]
      by_cases low : c < s
      · have above {l : List Char} (hl : (s :: l).Pairwise (· < ·)) : inside l c = false :=
          inside_eq_false fun x hx => Char.lt_trans low ((List.pairwise_cons.1 hl).1 x hx)
        rw [above hs, above ht]
      · have high := Char.not_lt.1 low
        simpa [inside_cons_of_le ss high, inside_cons_of_le ts high] using h c

/-- Sets with the same characters are equal. -/
theorem eq_of_contains {s t : CharSet} (h : ∀ c, s.contains c = t.contains c) : s = t := by
  obtain ⟨ss, hs⟩ := s
  obtain ⟨ts, ht⟩ := t
  obtain rfl := turns_eq_of_inside hs ht h
  rfl

/-! ## Sets by their characters -/

/-- Whether characters are in increasing order. -/
def isIncreasing : List Char → Bool
  | a :: b :: rest => a < b && isIncreasing (b :: rest)
  | _ => true

theorem pairwise_of_isIncreasing {cs : List Char} (h : isIncreasing cs = true) :
    cs.Pairwise (· < ·) := by
  induction cs with
  | nil => exact .nil
  | cons a cs ih =>
    cases cs with
    | nil => simp
    | cons b cs =>
      simp only [isIncreasing, Bool.and_eq_true, decide_eq_true_eq] at h
      exact List.pairwise_cons.2 ⟨lt_of_mem_cons (ih h.2) h.1, ih h.2⟩

/-- The set without characters. -/
def empty : CharSet := ⟨[], .nil⟩

instance : EmptyCollection CharSet := ⟨empty⟩

/-- The set of all characters. -/
def univ : CharSet := ⟨['\x00'], by simp⟩

/-- The set with some turns, which have to be in increasing order. -/
def ofTurns (turns : List Char) : CharSet :=
  if h : isIncreasing turns then ⟨turns, pairwise_of_isIncreasing h⟩ else ∅

/-- Turns for a range of characters before other turns. What follows the range directly is one
range with it. -/
def rangeBefore (first last : Char) (turns : List Char) : List Char :=
  match last.succ? with
  | none => [first]
  | some stop => if turns.head? = some stop then first :: turns.tail else first :: stop :: turns

/-- The set of the characters of some ranges, which have to be in increasing order. -/
def ofRanges (ranges : List (Char × Char)) : CharSet :=
  ofTurns (ranges.foldr (fun r turns => rangeBefore r.1 r.2 turns) [])

/-- The characters from one to another. -/
def range (first last : Char) : CharSet := ofRanges [(first, last)]

/-- The set of one character. -/
def singleton (c : Char) : CharSet := range c c

/-- The set of some characters. -/
def ofChars (cs : List Char) : CharSet :=
  ofRanges ((cs.mergeSort (· ≤ ·)).splitBy (· == ·) |>.filterMap fun same =>
    same.head?.map fun c => (c, c))

/-! ## Operations -/

instance : Union CharSet := ⟨combine (· || ·)⟩

instance : Inter CharSet := ⟨combine (· && ·)⟩

instance : SDiff CharSet := ⟨combine fun a b => a && !b⟩

/-- The characters of exactly one of two sets. -/
def symmDiff (s t : CharSet) : CharSet := combine (· != ·) s t

/-- The characters that are not in a set. -/
def compl (s : CharSet) : CharSet := univ \ s

/-- The characters of any of some sets. -/
def unionAll (ss : List CharSet) : CharSet := ss.foldr (· ∪ ·) ∅

/-- A set with all characters that are like one of its own. -/
def closeUnder (classes : List (List Char)) (s : CharSet) : CharSet :=
  s ∪ ofChars (classes.filter fun cs => cs.any s.contains && !cs.all s.contains).flatten

@[simp]
theorem contains_union (s t : CharSet) (c : Char) :
    (s ∪ t).contains c = (s.contains c || t.contains c) :=
  contains_combine rfl s t c

@[simp]
theorem contains_inter (s t : CharSet) (c : Char) :
    (s ∩ t).contains c = (s.contains c && t.contains c) :=
  contains_combine rfl s t c

@[simp]
theorem contains_sdiff (s t : CharSet) (c : Char) :
    (s \ t).contains c = (s.contains c && !t.contains c) :=
  contains_combine rfl s t c

@[simp]
theorem contains_symmDiff (s t : CharSet) (c : Char) :
    (s.symmDiff t).contains c = (s.contains c != t.contains c) :=
  contains_combine rfl s t c

@[simp]
theorem contains_compl (s : CharSet) (c : Char) : s.compl.contains c = !s.contains c := by
  have all : univ.contains c = true := inside_cons_of_le [] (Nat.zero_le _)
  rw [compl, contains_sdiff, all, Bool.true_and]

end CharSet

end CommandScript
