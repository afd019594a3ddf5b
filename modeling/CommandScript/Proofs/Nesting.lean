import CommandScript.Proofs.Builtin
import CommandScript.Proofs.Grammar

/-!
# How deeply compiled expressions nest

The parser counts levels of nesting: an argument is one level below the slot that holds its call,
and the index at position `k` after an expression is `k + 1` levels below the slot that holds the
expression. The expression in front of an index does not get deeper by it, although in the tree the
index is a call around it. So the calls on a path through a tree may be more than `maxNesting`: a
slot with `r` levels left may hold a call with `r - 2` indices, whose argument is a slot with
`r - 1` levels left. This file gives the exact bound.

## Main definitions

* `CommandScript.Node.Path` — the expressions on a way from the root of a tree to a leaf.
* `CommandScript.Node.nests` — the calls that count as nesting, which are all but those of
  `sconcat`.
* `CommandScript.Grammar.reach` — the most that a path through a slot with some levels left counts.
* `CommandScript.Grammar.tower` — a tree with such a path.

## Main results

* `CommandScript.Grammar.within_slot_indices` — no path through a slot counts more.
* `CommandScript.Grammar.nesting_of_parse` — on a path through a tree that the parser gives there
  are at most 8129 calls, which some tree has.
* `CommandScript.Grammar.nests_callOfIndices` — a script that the parser accepts, with more than
  `maxNesting` calls on a path.
-/

namespace CommandScript

variable {why : String → Option String}

/-! ## Paths through a tree -/

namespace Node

/-- The parts of an expression. -/
def parts : Node → List Node
  | call _ args _ => args
  | _ => []

/-- The expressions on a way from the root of a tree to a leaf. -/
inductive Path : Node → List Node → Prop where
  | leaf {n : Node} (h : n.parts = []) : Path n [n]
  | step {n m : Node} {p : List Node} (h : m ∈ n.parts) (hp : Path m p) : Path n (n :: p)

/-- Calls that count as nesting: all but those of `sconcat`, which stand for expressions side by
side. -/
def nests : Node → Bool
  | call name _ _ => name != "sconcat"
  | _ => false

/-- On no path to a leaf are there more than `b` expressions that count for `q`. -/
def PathsWithin (q : Node → Bool) (b : Nat) (n : Node) : Prop := ∀ p, n.Path p → p.countP q ≤ b

namespace PathsWithin

variable {q : Node → Bool} {a b : Nat} {n : Node}

lemma mono (h : n.PathsWithin q a) (hab : a ≤ b) : n.PathsWithin q b := fun p hp =>
  Nat.le_trans (h p hp) hab

/-- An expression without parts counts once at most. -/
lemma of_leaf (h : n.parts = []) : n.PathsWithin q 1 := by
  intro p hp
  cases hp with
  | leaf => exact List.countP_le_length
  | step hm => simp [h] at hm

/-- A call counts more than its parts only if it counts itself. -/
lemma call {name : String} {args : List Node} {l : Location}
    (h : ∀ m ∈ args, m.PathsWithin q b) (hb : (if q (.call name args l) then 1 else 0) + b ≤ a) :
    (Node.call name args l).PathsWithin q a := by
  intro p hp
  cases hp with
  | leaf =>
    rw [List.countP_singleton]
    omega
  | @step _ m p hm hp =>
    have hle := h m hm p hp
    rw [List.countP_cons]
    omega

end PathsWithin

end Node

namespace Grammar

open Node CommandScript.Parser

/-! ## What the levels allow -/

/-- The most expressions on a path through a slot with some levels of nesting left, if a call of
`sconcat` counts `c` and every other expression counts at most one. With `r + 1` levels left, the
slot holds a call of `sconcat`, under it the indices of a call and the call itself, and under that
an argument with `r` levels left. -/
def reach (c : Nat) : (room : Nat) → Nat
  | 0 => 0
  | r + 1 => c + max 1 r + reach c r

variable {q : Node → Bool} {c : Nat} {m : Nat}

/-- A call counts one more than its arguments at most. -/
lemma within_primary {b : Nat}
    (hslot : ∀ {ts n}, Slot (m + 1) ts n → n.PathsWithin q b) {ts : List Token} {n : Node}
    (h : Primary m ts n) : n.PathsWithin q (1 + b) := by
  cases h with
  | atom h =>
    have hleaf : n.parts = [] := by cases h <;> rfl
    exact (PathsWithin.of_leaf hleaf).mono (Nat.le_add_right 1 b)
  | @call _ name ts args l l₁ l₂ arguments =>
    have hargs : ∀ a ∈ args, a.PathsWithin q b := by
      clear l l₁ l₂
      induction args generalizing ts with
      | nil => simp
      | cons a as ih =>
        cases arguments with
        | last h => exact List.forall_mem_singleton.2 (hslot h)
        | more head tail => exact List.forall_mem_cons.2 ⟨hslot head, ih tail⟩
    refine .call hargs ?_
    split <;> omega

/-- Expressions side by side count what one of them counts, and the call of `sconcat`. -/
lemma within_joined (hc : ∀ args l, (if q (.call "sconcat" args l) then 1 else 0) ≤ c) {b : Nat}
    {ts : List Token} {first : Node} {others : List Node} (h : Exprs m ts (first :: others))
    (hexpr : ∀ {ts n}, Expr m ts n → n.PathsWithin q b) :
    (first.joined others).PathsWithin q (c + b) := by
  have hall : ∀ {ns : List Node} {ts : List Token}, Exprs m ts ns →
      ∀ n ∈ ns, n.PathsWithin q b := by
    intro ns
    induction ns with
    | nil => simp
    | cons n ns ih =>
      intro ts h
      cases h with
      | cons head tail => exact List.forall_mem_cons.2 ⟨hexpr head, ih tail⟩
  cases others with
  | nil => exact (hall h first (.head _)).mono (Nat.le_add_left b c)
  | cons n ns => exact .call (hall h) (Nat.add_le_add_right (hc _ _) b)

/-- No path through a slot with `room` levels of nesting left counts more than these allow, and the
indices of an expression add to what its own paths count no more than there are levels left.

**Proof sketch.** By induction on the levels left. An index makes the paths of the expression in
front of it longer by one, while the paths of the index itself, which has fewer levels left, are
shorter than these. -/
lemma within_slot_indices (hc : ∀ args l, (if q (.call "sconcat" args l) then 1 else 0) ≤ c)
    (room : Nat) :
    (∀ {m ts n}, m + room = maxNesting + 1 → Slot m ts n → n.PathsWithin q (reach c room)) ∧
    ∀ {m n ts n' b}, m + room = maxNesting + 2 → Indices m n ts n' → n.PathsWithin q b →
      reach c room ≤ b → n'.PathsWithin q (b + (room - 1)) := by
  induction room with
  | zero =>
    refine ⟨fun hm h => ?_, fun hm h hn _ => ?_⟩
    · cases h with
      | mk level => omega
    · cases h with
      | nil => exact hn
      | cons head tail =>
        cases head with
        | mk level => omega
  | succ room ih =>
    obtain ⟨ihslot, ihindices⟩ := ih
    refine ⟨fun {m ts n} hm h => ?_, fun {m n ts n' b} hm h hn hb => ?_⟩
    · have hexpr : ∀ {ts n}, Expr m ts n → n.PathsWithin q (max 1 room + reach c room) := by
        intro ts n h
        cases h with
        | mk head tail =>
          have hprimary := within_primary (fun h => ihslot (by omega) h) head
          refine (ihindices (by omega) tail hprimary (by omega)).mono ?_
          omega
      cases h with
      | mk level parts =>
        rw [reach, Nat.add_assoc]
        exact within_joined hc parts hexpr
    · cases h with
      | nil => exact hn.mono (Nat.le_add_right b _)
      | @cons _ _ index _ ts us l l' head tail =>
        have hroom : 0 < room := by
          cases head with
          | mk level => omega
        have hindex := ihslot (by omega) head
        rw [reach] at hb
        have hparts : ∀ a ∈ [n, index], a.PathsWithin q b := by
          simp only [List.forall_mem_cons]
          exact ⟨hn, hindex.mono (by omega), by simp⟩
        have hcall : (Node.call "array_get" [n, index] n.loc).PathsWithin q (b + 1) := by
          refine .call hparts ?_
          split <;> omega
        refine (ihindices (by omega) tail hcall (by omega)).mono ?_
        omega

/-! ## A tree that reaches the bound -/

/-- The tokens of `k` indices. -/
def indexTokens : (k : Nat) → List Token
  | 0 => []
  | k + 1 => ⟨.openBracket, .unknown⟩ :: ⟨.int 0, .unknown⟩ :: ⟨.closeBracket, .unknown⟩ ::
    indexTokens k

/-- An expression with `k` indices. -/
def indexed : (k : Nat) → Node → Node
  | 0, n => n
  | k + 1, n => indexed k (.call "array_get" [n, .literal (.int 0 .unknown)] n.loc)

/-- A primary makes a slot by itself. -/
lemma slot_of_primary {ts : List Token} {n : Node} (h : Primary m ts n) (hm : m ≤ maxNesting) :
    Slot m ts n := by
  have hslot : Slot m ((ts ++ []) ++ []) n := .mk hm (.cons (.mk h .nil) .nil)
  rwa [List.append_nil, List.append_nil] at hslot

/-- An expression with some indices, as many as the levels of nesting allow. -/
lemma indices_indexed (k : Nat) {n : Node} (h : m + k ≤ maxNesting + 1) :
    Indices m n (indexTokens k) (indexed k n) := by
  induction k generalizing m n with
  | zero => exact .nil
  | succ k ih =>
    have hindex := slot_of_primary (.atom (.int 0 .unknown)) (show m ≤ maxNesting by omega)
    exact .cons hindex (ih (by omega))

variable {sig : Signature}

/-- Indices may be written where `array_get` accepts two arguments. -/
lemma checked_indexed (hsig : Allowed sig "array_get" 2) (k : Nat) {n : Node}
    (hn : n.Checked sig) : (indexed k n).Checked sig := by
  induction k generalizing n with
  | zero => exact hn
  | succ k ih =>
    refine ih (.call hsig ?_)
    simp only [List.forall_mem_cons]
    exact ⟨hn, .literal _, by simp⟩

/-- Every index makes a path longer by one call. -/
lemma exists_path_indexed (k : Nat) {n : Node} {p : List Node} (hp : n.Path p) :
    ∃ p', (indexed k n).Path p' ∧ p'.countP nests = k + p.countP nests := by
  induction k generalizing n p with
  | zero => exact ⟨p, hp, (Nat.zero_add _).symm⟩
  | succ k ih =>
    have hstep : (Node.call "array_get" [n, .literal (.int 0 .unknown)] n.loc).Path
        (.call "array_get" [n, .literal (.int 0 .unknown)] n.loc :: p) := .step (.head _) hp
    obtain ⟨p', hp', hcount⟩ := ih hstep
    refine ⟨p', hp', ?_⟩
    rw [hcount, List.countP_cons_of_pos rfl]
    omega

/-- The tokens of a slot that takes `r + 1` levels of nesting: a call with as many indices as there
may be, with such a slot as its argument. -/
def towerTokens : (r : Nat) → List Token
  | 0 => [⟨.functionName "_", .unknown⟩, ⟨.openParen, .unknown⟩, ⟨.closeParen, .unknown⟩]
  | r + 1 => ⟨.functionName "_", .unknown⟩ :: ⟨.openParen, .unknown⟩ ::
    (towerTokens r ++ [⟨.closeParen, .unknown⟩]) ++ indexTokens r

/-- The tree of such a slot. -/
def tower : (r : Nat) → Node
  | 0 => .call "_" [] .unknown
  | r + 1 => indexed r (.call "_" [tower r] .unknown)

/-- The tower is a slot. -/
lemma slot_tower (r : Nat) {m : Nat} (hm : m + r = maxNesting) :
    Slot m (towerTokens r) (tower r) := by
  induction r generalizing m with
  | zero =>
    have hcall : Primary m (towerTokens 0) (tower 0) := .call .none
    exact slot_of_primary hcall (by omega)
  | succ r ih =>
    have hcall : Primary m (⟨.functionName "_", .unknown⟩ :: ⟨.openParen, .unknown⟩ ::
        (towerTokens r ++ [⟨.closeParen, .unknown⟩])) (.call "_" [tower r] .unknown) :=
      .call (.last (ih (by omega)))
    have hexpr := Expr.mk hcall (indices_indexed r (by omega))
    have hslot := Slot.mk (show m ≤ maxNesting by omega) (.cons hexpr .nil)
    rwa [List.append_nil] at hslot

/-- All calls of the tower may be written. -/
lemma checked_tower (hsig : Allowed sig "array_get" 2) (r : Nat) : (tower r).Checked sig := by
  induction r with
  | zero => exact .call (.inl rfl) (by simp)
  | succ r ih => exact checked_indexed hsig r (.call (.inl rfl) (List.forall_mem_singleton.2 ih))

/-- The tower has a path with as many calls as the levels allow. -/
lemma exists_path_tower (r : Nat) :
    ∃ p, (tower r).Path p ∧ p.countP nests = reach 0 (r + 1) := by
  induction r with
  | zero => exact ⟨_, .leaf rfl, rfl⟩
  | succ r ih =>
    obtain ⟨p, hp, hcount⟩ := ih
    have hcall : (Node.call "_" [tower r] .unknown).Path (.call "_" [tower r] .unknown :: p) :=
      .step (.head _) hp
    obtain ⟨p', hp', hcount'⟩ := exists_path_indexed r hcall
    have hreach : reach 0 (r + 2) = max 1 (r + 1) + reach 0 (r + 1) := by simp [reach]
    refine ⟨p', hp', ?_⟩
    rw [hcount', List.countP_cons_of_pos rfl, hcount, hreach]
    omega

/-! ## Scripts -/

/-- How deeply what the parser gives may nest. On a path from the root of a statement to a leaf
there are at most 8129 calls other than those of `sconcat`, and at most 8257 expressions in all.
If indices may be written at all, there is a script with 8129 such calls on a path. -/
theorem nesting_of_parse (sig : Signature) :
    (∀ ts nodes, parse sig ts = .ok nodes → ∀ n ∈ nodes, ∀ p, n.Path p →
      p.countP nests ≤ 8129 ∧ p.length ≤ 8257) ∧
    (Allowed sig "array_get" 2 → ∃ ts n p, parse sig ts = .ok [n] ∧ n.Path p ∧
      p.countP nests = 8129) := by
  have hcalls : reach 0 maxNesting = 8129 := by decide +kernel
  have hall : reach 1 maxNesting = 8257 := by decide +kernel
  refine ⟨fun ts nodes h n hn p hp => ?_, fun hsig => ?_⟩
  · obtain ⟨us, hslot⟩ := (script_of_parse h).1.slot_of_mem hn
    have hnests := (within_slot_indices (q := nests) (c := 0) (fun _ _ => Nat.le_refl 0)
      maxNesting).1 (Nat.add_comm 1 _) hslot p hp
    have hlength := (within_slot_indices (q := fun _ => true) (c := 1) (fun _ _ => Nat.le_refl 1)
      maxNesting).1 (Nat.add_comm 1 _) hslot p hp
    rw [List.countP_true] at hlength
    omega
  · obtain ⟨p, hp, hcount⟩ := exists_path_tower 127
    have hparse := parse_of_statement (slot_tower 127 rfl) (checked_tower hsig 127)
    exact ⟨towerTokens 127, tower 127, p, hparse, hp, hcount.trans hcalls⟩

/-! ## More calls than levels -/

/-- The script `not(@a[0]…[0])[0][0][0]`, with 125 indices in the argument. -/
def callOfIndices : List Token :=
  ⟨.functionName "not", .unknown⟩ :: ⟨.openParen, .unknown⟩ ::
    ((⟨.ivar "a", .unknown⟩ :: indexTokens 125) ++ [⟨.closeParen, .unknown⟩]) ++ indexTokens 3

/-- The tree of that script. -/
def callOfIndicesTree : Node :=
  indexed 3 (.call "not" [indexed 125 (.ivar "a" .unknown)] .unknown)

lemma allowed_not : Allowed (Library.builtin why).signature "not" 1 :=
  .inr ⟨.fixed [1], by rw [Library.signature, Library.find?_builtin]; rfl, rfl⟩

lemma allowed_arrayGet : Allowed (Library.builtin why).signature "array_get" 2 :=
  .inr ⟨.fixed [2], by rw [Library.signature, Library.find?_builtin]; rfl, rfl⟩

/-- The script is accepted. Its deepest slot is the last index of the argument, of measure
`maxNesting`. -/
lemma parse_callOfIndices : parse (Library.builtin why).signature callOfIndices =
    .ok [callOfIndicesTree] := by
  have hargument := Slot.mk (m := 2) (by decide) (.cons (.mk (.atom (.ivar "a" .unknown))
    (indices_indexed 125 (by decide))) .nil)
  rw [List.append_nil] at hargument
  have hcall : Primary 1 (⟨.functionName "not", .unknown⟩ :: ⟨.openParen, .unknown⟩ ::
      ((⟨.ivar "a", .unknown⟩ :: indexTokens 125) ++ [⟨.closeParen, .unknown⟩]))
      (.call "not" [indexed 125 (.ivar "a" .unknown)] .unknown) := .call (.last hargument)
  have hslot := Slot.mk (m := 1) (by decide) (.cons (.mk hcall
    (indices_indexed 3 (by decide))) .nil)
  rw [List.append_nil] at hslot
  refine parse_of_statement hslot ?_
  refine checked_indexed allowed_arrayGet 3 (.call allowed_not (List.forall_mem_singleton.2 ?_))
  exact checked_indexed allowed_arrayGet 125 (.ivar "a" .unknown)

/-- On a path of a script that the parser accepts there may be more than `maxNesting` calls: here
there are 129, of which none is one of `sconcat`. -/
theorem nests_callOfIndices : ∃ n p, parse Library.builtin.signature callOfIndices = .ok [n] ∧
    n.Path p ∧ maxNesting < p.countP nests := by
  obtain ⟨p, hp, hcount⟩ := exists_path_indexed 125 (n := .ivar "a" .unknown) (.leaf rfl)
  have hcall : (Node.call "not" [indexed 125 (.ivar "a" .unknown)] .unknown).Path
      (.call "not" [indexed 125 (.ivar "a" .unknown)] .unknown :: p) := .step (.head _) hp
  obtain ⟨p', hp', hcount'⟩ := exists_path_indexed 3 hcall
  refine ⟨callOfIndicesTree, p', parse_callOfIndices, hp', ?_⟩
  rw [hcount', List.countP_cons_of_pos rfl, hcount]
  decide

/-- The bounds at that script, and one that reaches the first of them in the language. -/
theorem nesting_of_parse_callOfIndices :
    (parse Library.builtin.signature callOfIndices = .ok [callOfIndicesTree] ∧
      ∀ p, callOfIndicesTree.Path p → p.countP nests ≤ 8129 ∧ p.length ≤ 8257) ∧
    Allowed Library.builtin.signature "array_get" 2 ∧ ∃ ts n p,
      parse Library.builtin.signature ts = .ok [n] ∧ n.Path p ∧ p.countP nests = 8129 := by
  obtain ⟨hbound, hreached⟩ := nesting_of_parse Library.builtin.signature
  refine ⟨⟨parse_callOfIndices, ?_⟩, allowed_arrayGet, hreached allowed_arrayGet⟩
  exact hbound _ _ parse_callOfIndices _ (.head _)

end Grammar

end CommandScript
