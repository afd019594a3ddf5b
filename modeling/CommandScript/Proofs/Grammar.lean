import CommandScript.Proofs.Parser

/-!
# The grammar of scripts

The grammar of scripts as relations between tokens and trees, and the parser that accepts exactly
what they derive. A statement has measure one. An argument has one more than the slot that holds its
call, and the index at position `k` after an expression, counted from one, has `k + 1` more than the
slot that holds the expression. No slot has a measure above `maxNesting`.

## Main definitions

* `CommandScript.Grammar.Slot` — a statement, an argument or an index of some measure; with the
  relations for its parts.
* `CommandScript.Grammar.Script` — a script.
* `CommandScript.Node.Checked` — a tree all of whose calls may be written.

## Main results

* `CommandScript.Grammar.slot_indices_of_yields` — what the parser reads as a slot is one, and what
  it reads as indices are some.
* `CommandScript.Grammar.yields_of_slot_indices` — every slot is read by the parser, and so are all
  indices.
* `CommandScript.Grammar.parse_eq_ok_iff` — the parser gives exactly the trees of the grammar.
-/

namespace CommandScript

namespace Grammar

/-! ## Productions -/

/-- A token that stands for an expression by itself. -/
inductive Atom : Token → Node → Prop where
  | quoted (s : String) (l : Location) : Atom ⟨.quoted s, l⟩ (.literal (.string s l))
  | word (s : String) (l : Location) : Atom ⟨.word s, l⟩ (.literal (.string s l))
  | int (n : Int64) (l : Location) : Atom ⟨.int n, l⟩ (.literal (.int n l))
  | double (x : Float) (l : Location) : Atom ⟨.double x, l⟩ (.literal (.double x l))
  | boolean (b : Bool) (l : Location) : Atom ⟨.boolean b, l⟩ (.literal (.boolean b l))
  | null (l : Location) : Atom ⟨.null, l⟩ (.literal (.null l))
  | ivar (name : String) (l : Location) : Atom ⟨.ivar name, l⟩ (.ivar name l)
  | var (name : String) (l : Location) : Atom ⟨.var name, l⟩ (.var name l)

mutual

/-- A statement, an argument or an index of measure `m`: one or more expressions side by side. -/
inductive Slot : (m : Nat) → List Token → Node → Prop where
  | mk {m : Nat} {ts : List Token} {first : Node} {others : List Node} (level : m ≤ maxNesting)
    (parts : Exprs m ts (first :: others)) : Slot m ts (first.joined others)

/-- Expressions side by side in a slot of measure `m`. -/
inductive Exprs : (m : Nat) → List Token → List Node → Prop where
  | nil {m : Nat} : Exprs m [] []
  | cons {m : Nat} {ts us : List Token} {n : Node} {ns : List Node} (head : Expr m ts n)
    (tail : Exprs m us ns) : Exprs m (ts ++ us) (n :: ns)

/-- An expression in a slot of measure `m`: a primary and the indices that follow it, of which the
first has measure `m + 2`. -/
inductive Expr : (m : Nat) → List Token → Node → Prop where
  | mk {m : Nat} {ts us : List Token} {n n' : Node} (head : Primary m ts n)
    (tail : Indices (m + 2) n us n') : Expr m (ts ++ us) n'

/-- The indices that follow the expression `n`, of which the first has measure `m` and each one more
than the one before, and what they make of it. -/
inductive Indices : (m : Nat) → (n : Node) → List Token → Node → Prop where
  | nil {m : Nat} {n : Node} : Indices m n [] n
  | cons {m : Nat} {n index n' : Node} {ts us : List Token} {l l' : Location}
    (head : Slot m ts index) (tail : Indices (m + 1) (.call "array_get" [n, index] n.loc) us n') :
    Indices m n (⟨.openBracket, l⟩ :: (ts ++ ⟨.closeBracket, l'⟩ :: us)) n'

/-- A primary in a slot of measure `m`: a single token, or a name with arguments in parentheses. -/
inductive Primary : (m : Nat) → List Token → Node → Prop where
  | atom {m : Nat} {t : Token} {n : Node} (h : Atom t n) : Primary m [t] n
  | call {m : Nat} {name : String} {ts : List Token} {args : List Node} {l l₁ l₂ : Location}
    (arguments : Arguments (m + 1) ts args) :
    Primary m (⟨.functionName name, l⟩ :: ⟨.openParen, l₁⟩ :: (ts ++ [⟨.closeParen, l₂⟩]))
      (.call name args l)

/-- Arguments of measure `m`, with commas between them. -/
inductive Arguments : (m : Nat) → List Token → List Node → Prop where
  | none {m : Nat} : Arguments m [] []
  | last {m : Nat} {ts : List Token} {n : Node} (h : Slot m ts n) : Arguments m ts [n]
  | more {m : Nat} {ts us : List Token} {n a : Node} {as : List Node} {l : Location}
    (head : Slot m ts n) (tail : Arguments m us (a :: as)) :
    Arguments m (ts ++ ⟨.comma, l⟩ :: us) (n :: a :: as)

end

/-- A script: statements with one or more line breaks between them; there may be line breaks before
the first and after the last. -/
inductive Script : List Token → List Node → Prop where
  | nil : Script [] []
  | newline {ts : List Token} {ns : List Node} {l : Location} (rest : Script ts ns) :
    Script (⟨.newline, l⟩ :: ts) ns
  | last {ts : List Token} {n : Node} (h : Slot 1 ts n) : Script ts [n]
  | statement {ts us : List Token} {n : Node} {ns : List Node} {l : Location} (head : Slot 1 ts n)
    (rest : Script us ns) : Script (ts ++ ⟨.newline, l⟩ :: us) (n :: ns)

end Grammar

/-- A tree all of whose calls may be written: each is of a procedure, or of an existing function
with a number of arguments that it accepts. -/
inductive Node.Checked (sig : Signature) : Node → Prop where
  | literal (v : Value) : Checked sig (literal v)
  | ivar (name : String) (l : Location) : Checked sig (ivar name l)
  | var (name : String) (l : Location) : Checked sig (var name l)
  | call {name : String} {args : List Node} {l : Location}
    (allowed : Allowed sig name args.length) (parts : ∀ n ∈ args, Checked sig n) :
    Checked sig (call name args l)

/-! ## Where expressions start and end -/

/-- Whether an expression can start with the token. -/
def Token.Kind.startsExpr : Token.Kind → Bool
  | functionName _ | word _ | quoted _ | int _ | double _ | boolean _ | null | ivar _ | var _ =>
    true
  | _ => false

namespace Grammar

open Node CommandScript.Parser

/-- The tokens left do not go on with an index. -/
def NoIndex (rest : List Token) : Prop := ∀ l us, rest ≠ ⟨.openBracket, l⟩ :: us

/-- The tokens left are at an end, or start with a token at which to stop. -/
def Ends (stop : Token.Kind → Bool) (rest : List Token) : Prop :=
  ∀ t us, rest = t :: us → stop t.kind = true

/-- Tokens at which to stop neither start an expression nor an index. -/
def Stops (stop : Token.Kind → Bool) : Prop :=
  ∀ k, stop k = true → k.startsExpr = false ∧ k ≠ .openBracket

lemma stops_isNewline : Stops Token.Kind.isNewline := by
  intro k hk
  cases k <;> cases hk
  exact ⟨rfl, by simp⟩

lemma stops_endsArgument : Stops Token.Kind.endsArgument := by
  intro k hk
  cases k <;> cases hk <;> exact ⟨rfl, by simp⟩

lemma stops_endsIndex : Stops Token.Kind.endsIndex := by
  intro k hk
  cases k <;> cases hk
  exact ⟨rfl, by simp⟩

/-- The expression of a single token. -/
lemma ofToken?_eq_some {t : Token} {n : Node} : ofToken? t = some n ↔ Atom t n := by
  constructor
  · intro h
    obtain ⟨kind, l⟩ := t
    cases kind <;> cases h <;> constructor
  · rintro (_ | _ | _ | _ | _ | _ | _ | _) <;> rfl

/-- An expression starts with a token of its own. -/
lemma Expr.starts {m : Nat} {ts : List Token} {n : Node} (h : Expr m ts n) :
    ∃ t us, ts = t :: us ∧ t.kind.startsExpr = true := by
  cases h with
  | mk head tail =>
    cases head with
    | atom h =>
      refine ⟨_, _, rfl, ?_⟩
      cases h <;> rfl
    | call arguments => exact ⟨_, _, rfl, rfl⟩

/-! ## What the parser reads derives from the grammar -/

variable {sig : Signature} {m room : Nat}

/-- The call of `sconcat` may be written if its parts may be, and it accepts that many. -/
lemma checked_joined {first : Node} {others : List Node}
    (hall : ∀ n ∈ first :: others, n.Checked sig)
    (hallowed : others ≠ [] → Allowed sig "sconcat" (others.length + 1)) :
    (first.joined others).Checked sig := by
  cases others with
  | nil => exact hall first (.head _)
  | cons n ns => exact .call (hallowed (List.cons_ne_nil n ns)) hall

/-- What is read as expressions side by side is that, if what is read as one expression is one. -/
lemma exprs_of_many {stop : Token.Kind → Bool}
    (hexpr : ∀ {ts n rest}, Yields (expression sig room ts) n rest →
      ∃ us, ts = us ++ rest ∧ Expr m us n ∧ n.Checked sig)
    {ts : List Token} {ns : List Node} {rest : List Token}
    (h : Yields (many stop (expression sig room) ts) ns rest) :
    ∃ us, ts = us ++ rest ∧ Exprs m us ns ∧ (∀ n ∈ ns, n.Checked sig) ∧ Ends stop rest := by
  induction ns generalizing ts with
  | nil =>
    cases ts with
    | nil =>
      obtain ⟨-, rfl⟩ := many_nil.1 h
      exact ⟨[], rfl, .nil, by simp, fun t us h => by cases h⟩
    | cons t ts =>
      cases hs : stop t.kind with
      | true =>
        obtain ⟨-, rfl⟩ := (many_stop hs).1 h
        refine ⟨[], rfl, .nil, by simp, ?_⟩
        rintro t' us ⟨⟩
        exact hs
      | false =>
        obtain ⟨_, _, _, heq, -⟩ := (many_cons hs).1 h
        cases heq
  | cons n ns ih =>
    cases ts with
    | nil =>
      obtain ⟨heq, -⟩ := many_nil.1 h
      cases heq
    | cons t ts =>
      cases hs : stop t.kind with
      | true =>
        obtain ⟨heq, -⟩ := (many_stop hs).1 h
        cases heq
      | false =>
        obtain ⟨_, _, u, heq, hn, hns⟩ := (many_cons hs).1 h
        cases heq
        obtain ⟨us, hus, hexp, hchecked⟩ := hexpr hn
        obtain ⟨vs, rfl, hexps, hall, hend⟩ := ih hns
        refine ⟨us ++ vs, by rw [hus, List.append_assoc], .cons hexp hexps, ?_, hend⟩
        exact List.forall_mem_cons.2 ⟨hchecked, hall⟩

/-- What is read as arguments is that, followed by a closing parenthesis, if what is read as one
argument is one. -/
lemma arguments_of_yields {name : String} {reader : Parser Node}
    (hslot : ∀ {ts n rest}, Yields (reader ts) n rest →
      ∃ us, ts = us ++ rest ∧ Slot m us n ∧ n.Checked sig)
    {ts : List Token} {as : List Node} {rest : List Token}
    (h : Yields (arguments name reader ts) as rest) :
    ∃ us l, ts = us ++ ⟨.closeParen, l⟩ :: rest ∧ Arguments m us as ∧ as ≠ [] ∧
      ∀ n ∈ as, n.Checked sig := by
  induction as generalizing ts with
  | nil =>
    obtain ⟨_, _, _, ⟨_, _, _, _, heq, _⟩ | ⟨_, _, heq⟩⟩ := yields_arguments.1 h <;> cases heq
  | cons a as ih =>
    obtain ⟨_, u, ha, ⟨l, v, as', rfl, heq, has⟩ | ⟨l, rfl, heq⟩⟩ := yields_arguments.1 h
    · cases heq
      obtain ⟨us, rfl, hs, hchecked⟩ := hslot ha
      obtain ⟨vs, l', rfl, hargs, hne, hall⟩ := ih has
      obtain ⟨b, bs, rfl⟩ := List.exists_cons_of_ne_nil hne
      refine ⟨us ++ ⟨.comma, l⟩ :: vs, l', by simp, .more hs hargs, List.cons_ne_nil _ _, ?_⟩
      exact List.forall_mem_cons.2 ⟨hchecked, hall⟩
    · cases heq
      obtain ⟨us, rfl, hs, hchecked⟩ := hslot ha
      exact ⟨us, l, rfl, .last hs, List.cons_ne_nil _ _, by simpa using hchecked⟩

/-- What is read as a primary is one, if what is read as an argument is one. -/
lemma primary_of_yields {reader : Parser Node}
    (hslot : ∀ {ts n rest}, Yields (reader ts) n rest →
      ∃ us, ts = us ++ rest ∧ Slot (m + 1) us n ∧ n.Checked sig)
    {ts : List Token} {n : Node} {rest : List Token} (h : Yields (primary sig reader ts) n rest) :
    ∃ us, ts = us ++ rest ∧ Primary m us n ∧ n.Checked sig := by
  obtain ⟨t, rfl, ht⟩ | ⟨name, l, l₁, l₂, rfl, rfl, ha⟩ |
    ⟨name, l, l₁, us, args, rfl, -, hargs, rfl, ha⟩ := yields_primary.1 h
  · have hatom := ofToken?_eq_some.1 ht
    refine ⟨[t], rfl, .atom hatom, ?_⟩
    cases hatom <;> constructor
  · exact ⟨⟨.functionName name, l⟩ :: ⟨.openParen, l₁⟩ :: ([] ++ [⟨.closeParen, l₂⟩]), rfl,
      .call .none, .call ha (by simp)⟩
  · obtain ⟨vs, l₂, rfl, harguments, -, hall⟩ := arguments_of_yields hslot hargs
    exact ⟨⟨.functionName name, l⟩ :: ⟨.openParen, l₁⟩ :: (vs ++ [⟨.closeParen, l₂⟩]), by simp,
      .call harguments, .call ha hall⟩

/-- What the parser reads as a slot with `room` levels of nesting left is a slot, and what it reads
as indices are indices.

**Proof sketch.** By induction on the levels left. A slot is made of expressions; the arguments in
them are slots with one level less, and so are the slots of the first indices. Each further index
has one level less than the one before. -/
lemma slot_indices_of_yields (room : Nat) :
    (∀ {m stop ts n rest}, m + room = maxNesting + 1 → Yields (slot sig room stop ts) n rest →
      ∃ us, ts = us ++ rest ∧ Slot m us n ∧ n.Checked sig ∧ Ends stop rest) ∧
    ∀ {m node ts n rest}, m + room = maxNesting + 2 → node.Checked sig →
      Yields (indices sig room node ts) n rest →
      ∃ us, ts = us ++ rest ∧ Indices m node us n ∧ n.Checked sig := by
  -- where no index follows, the levels left do not matter
  have hend : ∀ {room m node ts n rest}, NoIndex ts → node.Checked sig →
      Yields (indices sig room node ts) n rest →
      ∃ us, ts = us ++ rest ∧ Indices m node us n ∧ n.Checked sig := by
    intro room m node ts n rest hno hnode h
    obtain ⟨rfl, rfl⟩ := (yields_indices_end hno).1 h
    exact ⟨[], rfl, .nil, hnode⟩
  induction room with
  | zero =>
    refine ⟨fun _ h => absurd h not_yields_slot_zero, fun {m node ts n rest} _ hnode h => ?_⟩
    by_cases hno : NoIndex ts
    · exact hend hno hnode h
    · simp only [NoIndex, ne_eq, not_forall, not_not] at hno
      obtain ⟨l, us, rfl⟩ := hno
      exact absurd h not_yields_indices_zero
  | succ room ih =>
    obtain ⟨ihslot, ihindices⟩ := ih
    refine ⟨fun {m stop ts n rest} hm h => ?_, fun {m node ts n rest} hm hnode h => ?_⟩
    · have hexpr : ∀ {ts n rest}, Yields (expression sig room ts) n rest →
          ∃ us, ts = us ++ rest ∧ Expr m us n ∧ n.Checked sig := by
        intro ts n rest h
        obtain ⟨node, u, hnode, hn⟩ := yields_expression.1 h
        obtain ⟨us, rfl, hprimary, hchecked⟩ := primary_of_yields (m := m) (fun h => by
          obtain ⟨vs, hvs, hs, hc, -⟩ := ihslot (m := m + 1) (by omega) h
          exact ⟨vs, hvs, hs, hc⟩) hnode
        obtain ⟨vs, rfl, hindices, hchecked⟩ := ihindices (m := m + 2) (by omega) hchecked hn
        exact ⟨us ++ vs, by rw [List.append_assoc], .mk hprimary hindices, hchecked⟩
      obtain ⟨first, others, hmany, rfl, hallowed⟩ := yields_slot.1 h
      obtain ⟨us, rfl, hexprs, hall, hstop⟩ := exprs_of_many hexpr hmany
      exact ⟨us, rfl, .mk (by omega) hexprs, checked_joined hall hallowed, hstop⟩
    · by_cases hno : NoIndex ts
      · exact hend hno hnode h
      · simp only [NoIndex, ne_eq, not_forall, not_not] at hno
        obtain ⟨l, us, rfl⟩ := hno
        obtain ⟨index, l', vs, hindex, hallowed, hn⟩ := yields_indices.1 h
        obtain ⟨us, rfl, hslot, hchecked, -⟩ := ihslot (m := m) (by omega) hindex
        obtain ⟨ws, rfl, hindices, hn⟩ := ihindices (m := m + 1) (by omega)
          (.call hallowed (by simp [hnode, hchecked])) hn
        refine ⟨⟨.openBracket, l⟩ :: (us ++ ⟨.closeBracket, l'⟩ :: ws), by simp, ?_, hn⟩
        exact .cons hslot hindices

/-! ## What derives from the grammar is read -/

/-- The parts of a call that may be written may be written. -/
lemma checked_call {name : String} {args : List Node} {l : Location}
    (h : (call name args l).Checked sig) :
    Allowed sig name args.length ∧ ∀ n ∈ args, n.Checked sig := by
  cases h with
  | call allowed parts => exact ⟨allowed, parts⟩

/-- The parts of expressions side by side may be written if the whole may. -/
lemma checked_of_joined {first : Node} {others : List Node}
    (h : (first.joined others).Checked sig) :
    (∀ n ∈ first :: others, n.Checked sig) ∧
      (others ≠ [] → Allowed sig "sconcat" (others.length + 1)) := by
  cases others with
  | nil => exact ⟨List.forall_mem_singleton.2 h, fun hne => absurd rfl hne⟩
  | cons n ns =>
    obtain ⟨hallowed, hall⟩ := checked_call h
    exact ⟨hall, fun _ => hallowed⟩

/-- An expression may be written if it may with indices after it.

**Proof sketch.** By induction on the number of tokens of the indices. -/
lemma Indices.checked {n n' : Node} {ts : List Token} (h : Indices m n ts n')
    (hn' : n'.Checked sig) : n.Checked sig := by
  induction hlen : ts.length using Nat.strongRecOn generalizing m n ts with
  | _ k ih =>
    cases h with
    | nil => exact hn'
    | cons head tail =>
      subst hlen
      have hcall := ih _ (by simp; omega) tail rfl
      exact (checked_call hcall).2 n (.head _)

/-- Expressions side by side are read up to a token at which to stop, if each expression is. -/
lemma many_of_exprs {stop : Token.Kind → Bool} (hstop : Stops stop)
    (hexpr : ∀ {us n rest}, Expr m us n → n.Checked sig → NoIndex rest →
      Yields (expression sig room (us ++ rest)) n rest)
    {us : List Token} {ns : List Node} {rest : List Token} (h : Exprs m us ns)
    (hall : ∀ n ∈ ns, n.Checked sig) (hend : Ends stop rest) :
    Yields (many stop (expression sig room) (us ++ rest)) ns rest := by
  induction ns generalizing us with
  | nil =>
    cases h
    cases rest with
    | nil => exact many_nil.2 ⟨rfl, rfl⟩
    | cons t ts => exact (many_stop (hend t ts rfl)).2 ⟨rfl, rfl⟩
  | cons n ns ih =>
    cases h with
    | @cons _ ts us _ _ head tail =>
      obtain ⟨hn, hns⟩ := List.forall_mem_cons.1 hall
      -- what follows the first expression is no index
      have hno : NoIndex (us ++ rest) := by
        intro l vs heq
        cases ns with
        | nil =>
          cases tail
          exact (hstop _ (hend _ _ heq)).2 rfl
        | cons n' ns =>
          cases tail with
          | cons head' tail' =>
            obtain ⟨t, ws, rfl, ht⟩ := head'.starts
            cases heq
            cases ht
      have hfirst := hexpr head hn hno
      obtain ⟨t, ws, rfl, ht⟩ := head.starts
      have hgo : stop t.kind = false := by
        cases hs : stop t.kind with
        | false => rfl
        | true =>
          rw [(hstop _ hs).1] at ht
          cases ht
      rw [List.append_assoc]
      exact (many_cons hgo).2 ⟨n, ns, us ++ rest, rfl, hfirst, ih tail hns⟩

/-- Arguments are read up to the closing parenthesis, if each argument is. -/
lemma yields_of_arguments {name : String} {reader : Parser Node}
    (hslot : ∀ {us n rest}, Slot m us n → n.Checked sig → Ends Token.Kind.endsArgument rest →
      Yields (reader (us ++ rest)) n rest)
    {us : List Token} {as : List Node} {l : Location} {rest : List Token} (h : Arguments m us as)
    (hne : as ≠ []) (hall : ∀ n ∈ as, n.Checked sig) :
    Yields (arguments name reader (us ++ ⟨.closeParen, l⟩ :: rest)) as rest := by
  induction as generalizing us with
  | nil => exact absurd rfl hne
  | cons a as ih =>
    cases h with
    | last hs =>
      have hend : Ends Token.Kind.endsArgument (⟨.closeParen, l⟩ :: rest) := by
        rintro t us ⟨⟩
        rfl
      exact yields_arguments.2 ⟨a, _, hslot hs (hall a (.head _)) hend, .inr ⟨l, rfl, rfl⟩⟩
    | @more _ ts us _ b bs l' head tail =>
      obtain ⟨ha, hbs⟩ := List.forall_mem_cons.1 hall
      have hend : Ends Token.Kind.endsArgument
          (⟨.comma, l'⟩ :: (us ++ ⟨.closeParen, l⟩ :: rest)) := by
        rintro t us ⟨⟩
        rfl
      have hrest := ih tail (List.cons_ne_nil b bs) hbs
      rw [List.append_assoc]
      exact yields_arguments.2 ⟨a, _, hslot head ha hend, .inl ⟨l', _, _, rfl, rfl, hrest⟩⟩

/-- A slot starts with an expression. -/
lemma Slot.starts {us : List Token} {n : Node} (h : Slot m us n) :
    ∃ t ws, us = t :: ws ∧ t.kind.startsExpr = true := by
  cases h with
  | mk level parts =>
    cases parts with
    | cons head tail =>
      obtain ⟨t, ws, rfl, ht⟩ := head.starts
      exact ⟨t, _, rfl, ht⟩

/-- A primary is read, if each argument is. -/
lemma yields_of_primary {reader : Parser Node}
    (hslot : ∀ {us n rest}, Slot (m + 1) us n → n.Checked sig → Ends Token.Kind.endsArgument rest →
      Yields (reader (us ++ rest)) n rest)
    {us : List Token} {n : Node} {rest : List Token} (h : Primary m us n) (hn : n.Checked sig) :
    Yields (primary sig reader (us ++ rest)) n rest := by
  refine yields_primary.2 ?_
  cases h with
  | atom h => exact .inl ⟨_, rfl, ofToken?_eq_some.2 h⟩
  | @call _ name ts args l l₁ l₂ harguments =>
    obtain ⟨hallowed, hall⟩ := checked_call hn
    cases args with
    | nil =>
      cases harguments
      exact .inr (.inl ⟨name, l, l₁, l₂, rfl, rfl, hallowed⟩)
    | cons a as =>
      have hread : Yields (arguments name reader (ts ++ ⟨.closeParen, l₂⟩ :: rest)) (a :: as)
          rest :=
        yields_of_arguments hslot harguments (List.cons_ne_nil a as) hall
      refine .inr (.inr ⟨name, l, l₁, ts ++ ⟨.closeParen, l₂⟩ :: rest, a :: as, by simp, ?_, hread,
        rfl, hallowed⟩)
      have hstart : ∃ t ws, ts = t :: ws ∧ t.kind.startsExpr = true := by
        cases harguments with
        | last hs => exact hs.starts
        | more head tail =>
          obtain ⟨t, ws, rfl, ht⟩ := head.starts
          exact ⟨t, _, rfl, ht⟩
      obtain ⟨t, ws, rfl, ht⟩ := hstart
      rintro l' vs ⟨⟩
      cases ht

/-- A slot is read with as many levels of nesting left as its measure leaves, up to a token at which
to stop, and indices are read where no further index follows.

**Proof sketch.** By induction on the levels left, as the parser does it. -/
lemma yields_of_slot_indices (room : Nat) :
    (∀ {m stop us n rest}, m + room = maxNesting + 1 → Stops stop → Slot m us n → n.Checked sig →
      Ends stop rest → Yields (slot sig room stop (us ++ rest)) n rest) ∧
    ∀ {m node us n rest}, m + room = maxNesting + 2 → Indices m node us n → n.Checked sig →
      NoIndex rest → Yields (indices sig room node (us ++ rest)) n rest := by
  induction room with
  | zero =>
    refine ⟨fun {m stop us n rest} hm _ h _ _ => ?_, fun {m node us n rest} hm h hn hno => ?_⟩
    · cases h with
      | mk level => omega
    · cases h with
      | nil => exact (yields_indices_end hno).2 ⟨rfl, rfl⟩
      | cons head tail =>
        cases head with
        | mk level => omega
  | succ room ih =>
    obtain ⟨ihslot, ihindices⟩ := ih
    refine ⟨fun {m stop us n rest} hm hstop h hn hend => ?_,
      fun {m node us n rest} hm h hn hno => ?_⟩
    · have hexpr : ∀ {us n rest}, Expr m us n → n.Checked sig → NoIndex rest →
          Yields (expression sig room (us ++ rest)) n rest := by
        intro us n rest h hn hno
        cases h with
        | @mk _ ts us node _ head tail =>
          have hprimary : Yields (primary sig (slot sig room Token.Kind.endsArgument)
              (ts ++ (us ++ rest))) node (us ++ rest) :=
            yields_of_primary (m := m) (fun hs hc he =>
              ihslot (by omega) stops_endsArgument hs hc he) head (tail.checked hn)
          rw [List.append_assoc]
          exact yields_expression.2 ⟨node, _, hprimary, ihindices (by omega) tail hn hno⟩
      cases h with
      | mk level parts =>
        obtain ⟨hall, hallowed⟩ := checked_of_joined hn
        exact yields_slot.2 ⟨_, _, many_of_exprs hstop hexpr parts hall hend, rfl, hallowed⟩
    · cases h with
      | nil => exact (yields_indices_end hno).2 ⟨rfl, rfl⟩
      | @cons _ _ index _ ts us l l' head tail =>
        obtain ⟨hallowed, hparts⟩ := checked_call (tail.checked hn)
        have hend : Ends Token.Kind.endsIndex (⟨.closeBracket, l'⟩ :: (us ++ rest)) := by
          rintro t us ⟨⟩
          rfl
        have hindex := ihslot (by omega) stops_endsIndex head (hparts index (by simp)) hend
        have hrest : Yields (indices sig room (call "array_get" [node, index] node.loc)
            (us ++ rest)) n rest := ihindices (by omega) tail hn hno
        rw [List.cons_append, List.append_assoc]
        exact yields_indices.2 ⟨index, l', us ++ rest, hindex, hallowed, hrest⟩

/-! ## Scripts -/

/-- What the parser reads as a script is one, and all its calls may be written.

**Proof sketch.** By induction on the number of tokens. A statement that the parser reads ends at
the end of the tokens or at a line break, which the parser then skips. -/
lemma script_of_parse {ts : List Token} {nodes : List Node} (h : parse sig ts = .ok nodes) :
    Script ts nodes ∧ ∀ n ∈ nodes, n.Checked sig := by
  induction hlen : ts.length using Nat.strongRecOn generalizing ts nodes with
  | _ k ih =>
    subst hlen
    cases ts with
    | nil =>
      obtain rfl := parse_nil.1 h
      exact ⟨.nil, by simp⟩
    | cons t ts =>
      cases ht : t.kind.isNewline with
      | true =>
        obtain ⟨kind, l⟩ := t
        obtain rfl : kind = .newline := by cases kind <;> first | rfl | cases ht
        rw [parse_newline rfl] at h
        obtain ⟨hscript, hall⟩ := ih _ (by simp) h rfl
        exact ⟨.newline hscript, hall⟩
      | false =>
        obtain ⟨n, ns, u, rfl, hn, hns⟩ := (parse_cons ht).1 h
        obtain ⟨us, hus, hslot, hchecked, hend⟩ :=
          (slot_indices_of_yields maxNesting).1 (m := 1) (by omega) hn
        obtain ⟨t', us', rfl, -⟩ := hslot.starts
        cases u with
        | nil =>
          obtain rfl := parse_nil.1 hns
          rw [hus, List.append_nil]
          exact ⟨.last hslot, List.forall_mem_singleton.2 hchecked⟩
        | cons b u =>
          have hb := hend b u rfl
          obtain ⟨kind, l⟩ := b
          obtain rfl : kind = .newline := by cases kind <;> first | rfl | cases hb
          rw [parse_newline rfl] at hns
          have hshort : u.length < (t :: ts).length := by
            rw [hus]
            simp
            omega
          obtain ⟨hscript, hall⟩ := ih _ hshort hns rfl
          rw [hus]
          exact ⟨.statement hslot hscript, List.forall_mem_cons.2 ⟨hchecked, hall⟩⟩

/-- A statement and what follows it are read, if it ends where the tokens end or at a line break. -/
lemma parse_of_slot {ts rest : List Token} {n : Node} {ns : List Node} (h : Slot 1 ts n)
    (hn : n.Checked sig) (hend : Ends Token.Kind.isNewline rest) (hns : parse sig rest = .ok ns) :
    parse sig (ts ++ rest) = .ok (n :: ns) := by
  have hread := (yields_of_slot_indices maxNesting).1 (by omega) stops_isNewline h hn hend
  obtain ⟨t, us, rfl, ht⟩ := h.starts
  have hstart : t.kind.isNewline = false := by
    cases hs : t.kind.isNewline with
    | false => rfl
    | true =>
      rw [(stops_isNewline _ hs).1] at ht
      cases ht
  exact (parse_cons hstart).2 ⟨n, ns, rest, rfl, hread, hns⟩

/-- A single statement is read. -/
lemma parse_of_statement {ts : List Token} {n : Node} (h : Slot 1 ts n) (hn : n.Checked sig) :
    parse sig ts = .ok [n] := by
  have hread : parse sig (ts ++ []) = .ok [n] :=
    parse_of_slot h hn (fun t us h => by cases h) (parse_nil.2 rfl)
  rwa [List.append_nil] at hread

/-- The statements of a script are slots of measure one. -/
lemma Script.slot_of_mem {ts : List Token} {nodes : List Node} (h : Script ts nodes) {n : Node}
    (hn : n ∈ nodes) : ∃ us, Slot 1 us n := by
  induction h with
  | nil => cases hn
  | newline _ ih => exact ih hn
  | last h =>
    obtain rfl := List.mem_singleton.1 hn
    exact ⟨_, h⟩
  | statement head _ ih =>
    rcases List.mem_cons.1 hn with rfl | hn
    · exact ⟨_, head⟩
    · exact ih hn

/-- The parser accepts exactly its grammar: it gives some trees for a list of tokens if and only if
the tokens derive from the grammar as a script with these trees, with no slot of a measure above
`maxNesting`, and every call in them, also one of `sconcat` or `array_get` that stands for
expressions side by side or an index, may be written. -/
theorem parse_eq_ok_iff (sig : Signature) (ts : List Token) (nodes : List Node) :
    parse sig ts = .ok nodes ↔ Script ts nodes ∧ ∀ n ∈ nodes, n.Checked sig := by
  refine ⟨script_of_parse, ?_⟩
  rintro ⟨h, hall⟩
  induction h with
  | nil => exact parse_nil.2 rfl
  | newline rest ih =>
    rw [parse_newline rfl]
    exact ih hall
  | @last ts n h =>
    have hread : parse sig (ts ++ []) = .ok [n] :=
      parse_of_slot h (hall n (.head _)) (fun t us h => by cases h) (parse_nil.2 rfl)
    rwa [List.append_nil] at hread
  | statement head rest ih =>
    obtain ⟨hn, hns⟩ := List.forall_mem_cons.1 hall
    refine parse_of_slot head hn ?_ ?_
    · rintro t us ⟨⟩
      rfl
    · rw [parse_newline rfl]
      exact ih hns

end Grammar

end CommandScript
