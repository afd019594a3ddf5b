import CommandScript.Script
import Mathlib.Tactic.Lemma
import Mathlib.Logic.Basic

/-!
# What the parser reads

One equation for each function of the parser: when it gives a tree and leaves some tokens. The
equations say nothing of errors, and nothing of the proofs that the parser carries along to show
that it ends.

## Main definitions

* `CommandScript.Parser.Yields` — a reader gives a result and leaves some tokens.
* `CommandScript.Node.Allowed` — a call that names an existing function, with a number of arguments
  that it accepts, or a procedure.

## Main results

* `CommandScript.Parser.many_cons`, `CommandScript.Parser.yields_arguments` — the two loops.
* `CommandScript.Node.yields_primary`, `CommandScript.Node.yields_slot`,
  `CommandScript.Node.yields_indices` — the parts of a statement.
* `CommandScript.Node.parse_cons` — the statements of a script.
-/

namespace CommandScript

namespace Parser

/-- A reader of tokens gives the result `a` and leaves the tokens `rest`. -/
def Yields {α : Type} {p : List Token → Prop} (x : Except CompileError (α × { r // p r })) (a : α)
    (rest : List Token) : Prop :=
  ∃ h, x = .ok (a, ⟨rest, h⟩)

variable {α β : Type} {p q : List Token → Prop}

/-- A reader that is at its end. -/
lemma yields_pure {a b : α} {u rest : List Token} {h : p u} :
    Yields (pure (a, ⟨u, h⟩) : Except CompileError (α × { r // p r })) b rest ↔
      b = a ∧ rest = u := by
  constructor
  · rintro ⟨h', heq⟩
    cases heq
    exact ⟨rfl, rfl⟩
  · rintro ⟨rfl, rfl⟩
    exact ⟨h, rfl⟩

lemma not_yields_error {e : CompileError} {a : α} {rest : List Token} :
    ¬ Yields (.error e : Except CompileError (α × { r // p r })) a rest := by
  rintro ⟨h, heq⟩
  cases heq

/-- A reader that goes on with another one. -/
lemma yields_bind {x : Except CompileError (α × { r // p r })}
    {f : α × { r // p r } → Except CompileError (β × { r // q r })} {b : β} {rest : List Token} :
    Yields (x >>= f) b rest ↔
      ∃ a u, ∃ h : p u, x = .ok (a, ⟨u, h⟩) ∧ Yields (f (a, ⟨u, h⟩)) b rest := by
  constructor
  · intro h
    cases x with
    | error e => exact absurd h not_yields_error
    | ok ar => exact ⟨ar.1, ar.2.1, ar.2.2, rfl, h⟩
  · rintro ⟨a, u, h, rfl, hf⟩
    exact hf

/-- A reader that goes on after a check. -/
lemma yields_bind_check {x : Except CompileError α}
    {f : α → Except CompileError (β × { r // q r })} {b : β} {rest : List Token} :
    Yields (x >>= f) b rest ↔ ∃ a, x = .ok a ∧ Yields (f a) b rest := by
  cases x with
  | error e =>
    refine ⟨fun h => absurd h not_yields_error, ?_⟩
    rintro ⟨a, h, -⟩
    cases h
  | ok a =>
    refine ⟨fun h => ⟨a, rfl, h⟩, ?_⟩
    rintro ⟨a, h, hf⟩
    cases h
    exact hf

/-! ## Loops -/

variable {stop : Token.Kind → Bool} {reader : Parser α}

lemma many_nil {as : List α} {rest : List Token} :
    Yields (many stop reader []) as rest ↔ as = [] ∧ rest = [] := by
  rw [many]
  exact yields_pure

/-- The loop ends at once where it is told to stop. -/
lemma many_stop {t : Token} {ts : List Token} (h : stop t.kind = true) {as : List α}
    {rest : List Token} :
    Yields (many stop reader (t :: ts)) as rest ↔ as = [] ∧ rest = t :: ts := by
  rw [many, if_pos h]
  exact yields_pure

/-- Elsewhere the loop reads one more part. -/
lemma many_cons {t : Token} {ts : List Token} (h : stop t.kind = false) {as : List α}
    {rest : List Token} : Yields (many stop reader (t :: ts)) as rest ↔
      ∃ a as' u, as = a :: as' ∧ Yields (reader (t :: ts)) a u ∧
        Yields (many stop reader u) as' rest := by
  rw [many, if_neg (by simp [h]), yields_bind]
  simp only [yields_bind, yields_pure]
  constructor
  · rintro ⟨a, u, hu, ha, as', u', hu', has, rfl, rfl⟩
    exact ⟨a, as', u, rfl, ⟨hu, ha⟩, ⟨hu', has⟩⟩
  · rintro ⟨a, as', u, rfl, ⟨hu, ha⟩, ⟨hu', has⟩⟩
    exact ⟨a, u, hu, ha, as', rest, hu', has, rfl, rfl⟩

/-- The arguments of a call: one, and after a comma more, up to the closing parenthesis. -/
lemma yields_arguments {name : String} {reader : Parser Node} {ts : List Token} {as : List Node}
    {rest : List Token} : Yields (arguments name reader ts) as rest ↔
      ∃ a u, Yields (reader ts) a u ∧
        ((∃ l v as', u = ⟨.comma, l⟩ :: v ∧ as = a :: as' ∧
            Yields (arguments name reader v) as' rest) ∨
          ∃ l, u = ⟨.closeParen, l⟩ :: rest ∧ as = [a]) := by
  rw [arguments, yields_bind]
  constructor
  · rintro ⟨a, u, hu, ha, hrest⟩
    refine ⟨a, u, ⟨hu, ha⟩, ?_⟩
    dsimp only at hrest
    split at hrest
    · rename_i l v hv
      rw [yields_bind] at hrest
      obtain ⟨as', u', hu', has, hrest⟩ := hrest
      obtain ⟨rfl, rfl⟩ := yields_pure.1 hrest
      exact .inl ⟨l, v, as', rfl, rfl, ⟨hu', has⟩⟩
    · obtain ⟨rfl, rfl⟩ := yields_pure.1 hrest
      exact .inr ⟨_, rfl, rfl⟩
    · exact absurd hrest not_yields_error
  · rintro ⟨a, u, ⟨hu, ha⟩, ⟨l, v, as', rfl, rfl, ⟨hu', has⟩⟩ | ⟨l, rfl, rfl⟩⟩
    · refine ⟨a, _, hu, ha, ?_⟩
      exact yields_bind.2 ⟨as', rest, hu', has, yields_pure.2 ⟨rfl, rfl⟩⟩
    · exact ⟨a, _, hu, ha, yields_pure.2 ⟨rfl, rfl⟩⟩

end Parser

namespace Node

open CommandScript.Parser

/-! ## Checks -/

/-- A call that may be written: of a procedure, or of an existing function with a number of
arguments that it accepts. -/
def Allowed (sig : Signature) (name : String) (count : Nat) : Prop :=
  isProcedureName name = true ∨ ∃ arity, sig name = some arity ∧ arity.accepts count = true

/-- One expression, or the call of `sconcat` on several. -/
def joined (first : Node) : List Node → Node
  | [] => first
  | others => call "sconcat" (first :: others) first.loc

variable {sig : Signature}

/-- A call is made exactly if it may be written. -/
lemma checkedCall_eq_ok {name : String} {args : List Node} {loc : Location} {n : Node} :
    checkedCall sig name args loc = .ok n ↔
      n = call name args loc ∧ Allowed sig name args.length := by
  unfold checkedCall Allowed
  by_cases hp : isProcedureName name = true
  · rw [if_pos hp]
    simp only [hp, true_or, and_true, Except.ok.injEq]
    exact eq_comm
  · rw [if_neg hp]
    cases hs : sig name with
    | none => simp [hp]
    | some arity =>
      by_cases ha : arity.accepts args.length = true
      · simp only [ha, if_true, hp, Except.ok.injEq, Option.some.injEq, exists_eq_left', or_true,
          and_true]
        exact eq_comm
      · simp [ha, hp]

/-- Expressions side by side are joined, where two or more make a call. -/
lemma juxtapose_eq_ok {first n : Node} {others : List Node} :
    juxtapose sig others first = .ok n ↔
      n = joined first others ∧ (others ≠ [] → Allowed sig "sconcat" (others.length + 1)) := by
  cases others with
  | nil =>
    simp only [juxtapose, joined, Except.ok.injEq, ne_eq, not_true, false_implies, and_true]
    exact eq_comm
  | cons m ms =>
    rw [juxtapose, checkedCall_eq_ok]
    · simp only [joined, List.length_cons, ne_eq, reduceCtorEq, not_false_eq_true, true_implies]
    · exact List.cons_ne_nil m ms

/-! ## Parts of a statement -/

/-- A primary is a single token, a call without arguments, or a call with arguments. -/
lemma yields_primary {reader : Parser Node} {ts : List Token} {n : Node} {rest : List Token} :
    Yields (primary sig reader ts) n rest ↔
      (∃ t, ts = t :: rest ∧ ofToken? t = some n) ∨
      (∃ name l l₁ l₂,
        ts = ⟨.functionName name, l⟩ :: ⟨.openParen, l₁⟩ :: ⟨.closeParen, l₂⟩ :: rest ∧
        n = call name [] l ∧ Allowed sig name 0) ∨
      ∃ name l l₁ us args, ts = ⟨.functionName name, l⟩ :: ⟨.openParen, l₁⟩ :: us ∧
        (∀ l₂ vs, us ≠ ⟨.closeParen, l₂⟩ :: vs) ∧ Yields (arguments name reader us) args rest ∧
        n = call name args l ∧ Allowed sig name args.length := by
  constructor
  · intro h
    unfold primary at h
    split at h
    · exact absurd h not_yields_error
    · split at h
      · rw [yields_bind_check] at h
        obtain ⟨m, hm, h⟩ := h
        obtain ⟨rfl, rfl⟩ := yields_pure.1 h
        exact .inr (.inl ⟨_, _, _, _, rfl, checkedCall_eq_ok.1 hm⟩)
      · rename_i hne
        rw [yields_bind] at h
        obtain ⟨args, u, hu, hargs, h⟩ := h
        rw [yields_bind_check] at h
        obtain ⟨m, hm, h⟩ := h
        obtain ⟨rfl, rfl⟩ := yields_pure.1 h
        exact .inr (.inr ⟨_, _, _, _, args, rfl, fun l₂ vs h => hne l₂ vs h, ⟨hu, hargs⟩,
          checkedCall_eq_ok.1 hm⟩)
      · exact absurd h not_yields_error
    · split at h
      · rename_i hm
        obtain ⟨rfl, rfl⟩ := yields_pure.1 h
        exact .inl ⟨_, rfl, hm⟩
      · exact absurd h not_yields_error
  · rintro (⟨t, rfl, ht⟩ | ⟨name, l, l₁, l₂, rfl, rfl, ha⟩ |
      ⟨name, l, l₁, us, args, rfl, hne, ⟨hu, hargs⟩, rfl, ha⟩)
    · -- a token that stands for an expression is no function name
      obtain ⟨kind, l⟩ := t
      cases kind <;> cases ht <;> exact yields_pure.2 ⟨rfl, rfl⟩
    · exact yields_bind_check.2 ⟨_, checkedCall_eq_ok.2 ⟨rfl, ha⟩, yields_pure.2 ⟨rfl, rfl⟩⟩
    · have hcall : checkedCall sig name args l = .ok (call name args l) :=
        checkedCall_eq_ok.2 ⟨rfl, ha⟩
      rcases us with _ | ⟨⟨kind, l₂⟩, vs⟩
      · exact yields_bind.2 ⟨args, rest, hu, hargs,
          yields_bind_check.2 ⟨_, hcall, yields_pure.2 ⟨rfl, rfl⟩⟩⟩
      · cases kind
        case closeParen => exact absurd rfl (hne l₂ vs)
        all_goals exact yields_bind.2 ⟨args, rest, hu, hargs,
          yields_bind_check.2 ⟨_, hcall, yields_pure.2 ⟨rfl, rfl⟩⟩⟩

/-- Expressions side by side: at least one, and all up to where the reader is told to stop. -/
lemma yields_juxtaposed {stop : Token.Kind → Bool} {reader : Parser Node} {ts : List Token}
    {n : Node} {rest : List Token} : Yields (juxtaposed sig stop reader ts) n rest ↔
      ∃ first others, Yields (many stop reader ts) (first :: others) rest ∧
        n = joined first others ∧ (others ≠ [] → Allowed sig "sconcat" (others.length + 1)) := by
  cases ts with
  | nil =>
    refine ⟨fun h => absurd h not_yields_error, ?_⟩
    rintro ⟨first, others, h, -⟩
    exact absurd (many_nil.1 h).1 (List.cons_ne_nil _ _)
  | cons t ts =>
    rw [juxtaposed]
    by_cases hs : stop t.kind = true
    · rw [if_pos hs]
      refine ⟨fun h => absurd h not_yields_error, ?_⟩
      rintro ⟨first, others, h, -⟩
      exact absurd ((many_stop hs).1 h).1 (List.cons_ne_nil _ _)
    · rw [if_neg hs, yields_bind]
      rw [Bool.not_eq_true] at hs
      simp only [yields_bind]
      simp only [yields_bind_check, yields_pure, many_cons hs]
      constructor
      · rintro ⟨first, u, hu, hfirst, others, u', hu', hothers, n, hn, rfl, rfl⟩
        exact ⟨first, others, ⟨first, others, u, rfl, ⟨hu, hfirst⟩, ⟨hu', hothers⟩⟩,
          juxtapose_eq_ok.1 hn⟩
      · rintro ⟨first, others, ⟨_, _, u, heq, ⟨hu, hfirst⟩, ⟨hu', hothers⟩⟩, hn⟩
        cases heq
        exact ⟨first, u, hu, hfirst, others, rest, hu', hothers, n, juxtapose_eq_ok.2 hn, rfl, rfl⟩

/-- What is left after some tokens of a shorter list is shorter. -/
lemma shorter_of_noLonger {ts rest rest' : List Token} (h : rest.length < ts.length)
    (h' : rest'.length ≤ rest.length) : rest'.length < ts.length := Nat.lt_of_le_of_lt h' h

/-- The reader of one expression of a slot with `room` levels of nesting left in it. -/
def expression (sig : Signature) (room : Nat) : Parser Node := fun ts => do
  let (node, ⟨rest, h⟩) ← primary sig (slot sig room Token.Kind.endsArgument) ts
  let (node', ⟨rest', h'⟩) ← indices sig room node rest
  return (node', ⟨rest', shorter_of_noLonger h h'⟩)

/-- An expression is a primary and the indices that follow it. -/
lemma yields_expression {room : Nat} {ts : List Token} {n : Node} {rest : List Token} :
    Yields (expression sig room ts) n rest ↔
      ∃ m u, Yields (primary sig (slot sig room Token.Kind.endsArgument) ts) m u ∧
        Yields (indices sig room m u) n rest := by
  rw [expression, yields_bind]
  simp only [yields_bind, yields_pure]
  constructor
  · rintro ⟨m, u, hu, hm, n, u', hu', hn, rfl, rfl⟩
    exact ⟨m, u, ⟨hu, hm⟩, ⟨hu', hn⟩⟩
  · rintro ⟨m, u, ⟨hu, hm⟩, ⟨hu', hn⟩⟩
    exact ⟨m, u, hu, hm, n, rest, hu', hn, rfl, rfl⟩

/-- No slot can be read without a level of nesting. -/
lemma not_yields_slot_zero {stop : Token.Kind → Bool} {ts : List Token} {n : Node}
    {rest : List Token} : ¬ Yields (slot sig 0 stop ts) n rest := by
  rw [slot]
  exact not_yields_error

/-- A slot is made of expressions side by side. -/
lemma yields_slot {room : Nat} {stop : Token.Kind → Bool} {ts : List Token} {n : Node}
    {rest : List Token} : Yields (slot sig (room + 1) stop ts) n rest ↔
      ∃ first others, Yields (many stop (expression sig room) ts) (first :: others) rest ∧
        n = joined first others ∧ (others ≠ [] → Allowed sig "sconcat" (others.length + 1)) := by
  rw [slot]
  exact yields_juxtaposed

/-- Where no index follows, the expression is at its end. -/
lemma yields_indices_end {room : Nat} {m n : Node} {ts rest : List Token}
    (h : ∀ l us, ts ≠ ⟨.openBracket, l⟩ :: us) :
    Yields (indices sig room m ts) n rest ↔ n = m ∧ rest = ts := by
  rcases ts with _ | ⟨⟨kind, l⟩, us⟩
  · cases room <;> exact yields_pure
  · cases kind
    case openBracket => exact absurd rfl (h l us)
    all_goals cases room <;> exact yields_pure

/-- No index can be read without a level of nesting. -/
lemma not_yields_indices_zero {m n : Node} {l : Location} {us rest : List Token} :
    ¬ Yields (indices sig 0 m (⟨.openBracket, l⟩ :: us)) n rest := by
  rw [indices]
  exact not_yields_error

/-- An index is a slot between square brackets; after it more may follow, with one level of nesting
less. -/
lemma yields_indices {room : Nat} {m n : Node} {l : Location} {us rest : List Token} :
    Yields (indices sig (room + 1) m (⟨.openBracket, l⟩ :: us)) n rest ↔
      ∃ index l' vs,
        Yields (slot sig room Token.Kind.endsIndex us) index (⟨.closeBracket, l'⟩ :: vs) ∧
        Allowed sig "array_get" 2 ∧
        Yields (indices sig room (call "array_get" [m, index] m.loc) vs) n rest := by
  rw [indices]
  dsimp only
  rw [yields_bind]
  constructor
  · rintro ⟨index, u, hu, hindex, h⟩
    dsimp only at h
    split at h
    · rw [yields_bind_check] at h
      obtain ⟨node, hnode, h⟩ := h
      rw [yields_bind] at h
      obtain ⟨n, u', hu', hn, h⟩ := h
      obtain ⟨rfl, hallowed⟩ := checkedCall_eq_ok.1 hnode
      obtain ⟨rfl, rfl⟩ := yields_pure.1 h
      exact ⟨index, _, _, ⟨hu, hindex⟩, hallowed, ⟨hu', hn⟩⟩
    · exact absurd h not_yields_error
  · rintro ⟨index, l', vs, ⟨hu, hindex⟩, hallowed, ⟨hu', hn⟩⟩
    refine ⟨index, _, hu, hindex, yields_bind_check.2 ⟨_, checkedCall_eq_ok.2 ⟨rfl, hallowed⟩, ?_⟩⟩
    exact yields_bind.2 ⟨n, rest, hu', hn, yields_pure.2 ⟨rfl, rfl⟩⟩

/-! ## Scripts -/

/-- A script without tokens has no statements. -/
lemma parse_nil {nodes : List Node} : parse sig [] = .ok nodes ↔ nodes = [] := by
  rw [parse, statements, Except.ok.injEq]
  exact eq_comm

/-- A line break between statements stands for nothing. -/
lemma parse_newline {t : Token} {ts : List Token} (h : t.kind.isNewline = true) :
    parse sig (t :: ts) = parse sig ts := by
  rw [parse, statements, if_pos h, parse]

/-- Elsewhere a script starts with a statement. -/
lemma parse_cons {t : Token} {ts : List Token} (h : t.kind.isNewline = false) {nodes : List Node} :
    parse sig (t :: ts) = .ok nodes ↔
      ∃ n ns u, nodes = n :: ns ∧ Yields (slot sig maxNesting Token.Kind.isNewline (t :: ts)) n u ∧
        parse sig u = .ok ns := by
  unfold parse
  rw [statements, if_neg (by simp [h])]
  constructor
  · intro hok
    cases hs : slot sig maxNesting Token.Kind.isNewline (t :: ts) with
    | error e =>
      rw [hs] at hok
      cases hok
    | ok nu =>
      obtain ⟨n, ⟨u, hu⟩⟩ := nu
      rw [hs] at hok
      cases hr : statements (slot sig maxNesting Token.Kind.isNewline) u with
      | error e =>
        simp only [bind, Except.bind, hr] at hok
        cases hok
      | ok ns =>
        simp only [bind, Except.bind, hr] at hok
        cases hok
        exact ⟨n, ns, u, rfl, ⟨hu, rfl⟩, hr⟩
  · rintro ⟨n, ns, u, rfl, ⟨hu, hs⟩, hr⟩
    rw [hs]
    simp only [bind, Except.bind, hr]
    rfl

end Node

end CommandScript
