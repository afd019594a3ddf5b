import CommandScript.Proofs.Folding

/-!
# The normal form of folding

Folding could be done in sweeps: each goes over all expressions from the innermost calls outward,
replaces the calls of foldable functions on constants, and notes whether it replaced any; sweeps are
repeated until one replaces none. What they compute is what folding computes. The first sweep leaves
nothing to replace, so that the second one, if there is one, is the last. Whatever the functions of
a library do, only foldable ones are computed, on constants; a call that is left keeps its name, its
place and the number of its arguments.

## Main definitions

* `CommandScript.Invocation`, `CommandScript.Invocation.Permitted` — a call that is computed while a
  script is compiled, and the calls that may be.
* `CommandScript.Node.sweep`, `CommandScript.Node.Sweeps` — a sweep that records the calls that it
  computes, and sweeps until nothing changes.
* `CommandScript.Node.Redex`, `CommandScript.Node.IsNormal` — a call that can be replaced, and an
  expression without one.
* `CommandScript.Node.Remains` — what may be left of an expression.

## Main results

* `CommandScript.Node.sweepAll_follows` — a sweep gives what folding gives, and computes only what
  may be computed.
* `CommandScript.Node.foldAll_ok` — folded expressions are normal, and are what may be left.
* `CommandScript.Node.sweepAll_of_isNormal` — a sweep leaves normal expressions as they are.
* `CommandScript.Library.folding_reaches_normal_form` — sweeps come to an end, in the normal form
  that folding gives.
-/

namespace CommandScript

/-! ## Sweeps -/

/-- A call of a function that is computed while a script is compiled. -/
structure Invocation where
  name : String
  computation : Computation
  loc : Location
  args : List Value

namespace Invocation

/-- The calls that may be computed while a script is compiled: those of foldable functions, but not
of procedures, on constants that stay the same at every look. -/
structure Permitted (lib : Library) (i : Invocation) : Prop where
  function : isProcedureName i.name = false
  found : ∃ e, lib.find? i.name = some e ∧ e.behaviour = .compute i.computation
  foldable : i.computation.foldable = true
  static : ∀ v ∈ i.args, v.isDynamic = false

end Invocation

/-- Compiling, with a record of the calls that were computed so far. -/
abbrev Recorded : Type → Type := ExceptT CompileError (StateM (Store × List Invocation))

/-- The value of a call, which is recorded. -/
def Invocation.compute (i : Invocation) : Recorded Value := fun p =>
  let q := i.computation.fold i.name i.loc i.args p.1
  (q.1, q.2, p.2 ++ [i])

namespace Node

/-- A call whose arguments were swept over, replaced by its value if it can be; and whether anything
was replaced in it. -/
def sweepCall (lib : Library) (name : String) (args : List Node) (loc : Location)
    (changed : Bool) : Recorded (Node × Bool) :=
  match foldable? lib name args with
  | some (c, values) => do
    let v ← Invocation.compute ⟨name, c, loc, values⟩
    return (literal (v.relocate loc), true)
  | none => return (call name args loc, changed)

mutual

/-- A sweep over an expression: what it becomes, and whether anything was replaced. -/
def sweep (lib : Library) : Node → Recorded (Node × Bool)
  | call name args loc => do
    let p ← sweepAll lib args
    sweepCall lib name p.1 loc p.2
  | n => return (n, false)

/-- A sweep over expressions, from the first to the last. -/
def sweepAll (lib : Library) : List Node → Recorded (List Node × Bool)
  | [] => return ([], false)
  | n :: ns => do
    let p ← sweep lib n
    let q ← sweepAll lib ns
    return (p.1 :: q.1, p.2 || q.2)

end

/-- Sweeps over expressions until one fails or replaces nothing: from the arrays and the record
before them to what they give, with the arrays and the record after them. -/
inductive Sweeps (lib : Library) : List Node → Store × List Invocation →
    Except CompileError (List Node) × Store × List Invocation → Prop where
  | fails {ns : List Node} {p q : Store × List Invocation} {e : CompileError}
    (h : sweepAll lib ns p = (.error e, q)) : Sweeps lib ns p (.error e, q)
  | stable {ns ns' : List Node} {p q : Store × List Invocation}
    (h : sweepAll lib ns p = (.ok (ns', false), q)) : Sweeps lib ns p (.ok ns', q)
  | again {ns ns' : List Node} {p q : Store × List Invocation}
    {out : Except CompileError (List Node) × Store × List Invocation}
    (h : sweepAll lib ns p = (.ok (ns', true), q)) (hrest : Sweeps lib ns' q out) :
    Sweeps lib ns p out

/-! ## A sweep gives what folding gives -/

variable {lib : Library}

/-- A sweep gives what folding gives, changes the arrays in the same way, and computes only what may
be computed. -/
def Follows {α : Type} (lib : Library) (x : Recorded (α × Bool)) (y : Compile α) : Prop :=
  ∀ s log, ∃ calls changed, (∀ i ∈ calls, Invocation.Permitted lib i) ∧
    x (s, log) = ((y s).1.map (·, changed), (y s).2, log ++ calls)

namespace Follows

variable {α β : Type}

lemma pure (a : α) (changed : Bool) : Follows lib (pure (a, changed)) (pure a) := by
  intro s log
  refine ⟨[], changed, by simp, ?_⟩
  rw [List.append_nil]
  rfl

/-- Sweeps one after the other give what folding one after the other gives. -/
lemma bind {x : Recorded (α × Bool)} {y : Compile α} {f : α × Bool → Recorded (β × Bool)}
    {g : α → Compile β} (hx : Follows lib x y) (hf : ∀ p, Follows lib (f p) (g p.1)) :
    Follows lib (x >>= f) (y >>= g) := by
  intro s log
  obtain ⟨calls, changed, hcalls, hrun⟩ := hx s log
  rcases hy : y s with ⟨e | a, t⟩
  · rw [hy] at hrun
    refine ⟨calls, changed, hcalls, ?_⟩
    rw [bind_of_error hrun, bind_of_error hy]
    rfl
  · rw [hy] at hrun
    obtain ⟨calls', changed', hcalls', hrun'⟩ := hf (a, changed) t (log ++ calls)
    refine ⟨calls ++ calls', changed', ?_, ?_⟩
    · simpa only [List.forall_mem_append] using ⟨hcalls, hcalls'⟩
    · rw [bind_of_ok hrun, bind_of_ok hy, hrun', List.append_assoc]

end Follows

/-- A call that was swept over is what folding makes of it. -/
lemma sweepCall_follows (name : String) (args : List Node) (loc : Location) (changed : Bool) :
    Follows lib (sweepCall lib name args loc changed) (foldCall lib name args loc) := by
  unfold sweepCall foldCall
  cases hfold : foldable? lib name args with
  | none => exact .pure _ _
  | some p =>
    obtain ⟨c, values⟩ := p
    obtain ⟨hname, hvalues, e, he, hb, hc⟩ := foldable?_eq_some hfold
    have hpermitted : Invocation.Permitted lib ⟨name, c, loc, values⟩ :=
      ⟨hname, ⟨e, he, hb⟩, hc, (mapM_static?_eq_some hvalues).2⟩
    intro s log
    refine ⟨[⟨name, c, loc, values⟩], true, by simpa using hpermitted, ?_⟩
    have hcompute : Invocation.compute ⟨name, c, loc, values⟩ (s, log) =
        ((c.fold name loc values s).1, (c.fold name loc values s).2,
          log ++ [⟨name, c, loc, values⟩]) := rfl
    rcases hrun : c.fold name loc values s with ⟨err | v, t⟩
    · rw [hrun] at hcompute
      dsimp only
      rw [bind_of_error hcompute, bind_of_error hrun]
      rfl
    · rw [hrun] at hcompute
      dsimp only
      rw [bind_of_ok hcompute, bind_of_ok hrun]
      rfl

mutual

/-- A sweep over an expression gives what folding gives. -/
theorem sweep_follows : (n : Node) → Follows lib (sweep lib n) (fold lib n)
  | literal v => .pure (literal v) false
  | ivar name loc => .pure (ivar name loc) false
  | var name loc => .pure (var name loc) false
  | call name args loc =>
    (sweepAll_follows args).bind fun p => sweepCall_follows name p.1 loc p.2

/-- A sweep over expressions gives what folding gives. -/
theorem sweepAll_follows : (ns : List Node) → Follows lib (sweepAll lib ns) (foldAll lib ns)
  | [] => .pure [] false
  | n :: ns =>
    (sweep_follows n).bind fun p => (sweepAll_follows ns).bind fun q =>
      .pure (p.1 :: q.1) (p.2 || q.2)

end

/-! ## Normal expressions -/

/-- A call that can be replaced: that of a foldable function, which is no procedure, on constants
that stay the same at every look. -/
inductive Redex (lib : Library) : Node → Prop where
  | call {name : String} {e : Entry} {values : List Value} {loc : Location}
    (function : isProcedureName name = false) (found : lib.find? name = some e)
    (foldable : e.foldable = true) (static : ∀ v ∈ values, v.isDynamic = false) :
    Redex lib (call name (values.map literal) loc)

/-- An expression that is, or is part of, another one. -/
inductive Within (m : Node) : Node → Prop where
  | self : Within m m
  | part {name : String} {args : List Node} {loc : Location} {n : Node} (hn : n ∈ args)
    (h : Within m n) : Within m (call name args loc)

/-- An expression without a call that can be replaced. -/
def IsNormal (lib : Library) (n : Node) : Prop := ∀ m, Within m n → ¬ Redex lib m

variable {name : String} {args : List Node} {loc : Location}

/-- A call is normal if its arguments are, and if it cannot be replaced itself. -/
lemma isNormal_call : IsNormal lib (call name args loc) ↔
    (∀ n ∈ args, IsNormal lib n) ∧ ¬ Redex lib (call name args loc) := by
  constructor
  · intro h
    exact ⟨fun n hn m hm => h m (.part hn hm), h _ .self⟩
  · rintro ⟨hargs, hself⟩ m hm
    cases hm with
    | self => exact hself
    | part hn hm => exact hargs _ hn m hm

/-- An expression that is no call is normal. -/
lemma isNormal_of_ne_call {n : Node} (h : ∀ name args loc, n ≠ call name args loc) :
    IsNormal lib n := by
  rintro m hm ⟨⟩
  cases hm with
  | self => exact h _ _ _ rfl
  | part => exact h _ _ _ rfl

/-- Constants that stay the same at every look are recognized as such. -/
lemma mapM_static?_literal {values : List Value} (h : ∀ v ∈ values, v.isDynamic = false) :
    (values.map literal).mapM static? = some values := by
  induction values with
  | nil => rfl
  | cons v values ih =>
    rw [List.forall_mem_cons] at h
    simp only [List.map_cons, List.mapM_cons, static?, h.1, ih h.2]
    rfl

/-- The calls that folding leaves are those that cannot be replaced. -/
lemma foldable?_eq_none_iff :
    foldable? lib name args = none ↔ ¬ Redex lib (call name args loc) := by
  constructor
  · intro hnone hredex
    generalize hn : call name args loc = n at hredex
    obtain ⟨function, found, foldable, static⟩ := hredex
    obtain ⟨rfl, rfl, rfl⟩ := call.inj hn
    rename_i e values
    have hmap := mapM_static?_literal static
    unfold Entry.foldable at foldable
    simp only [foldable?, function, hmap, found] at hnone
    split at foldable
    · next c hc => simp [hc, foldable] at hnone
    · cases foldable
  · intro hredex
    rw [Option.eq_none_iff_forall_ne_some]
    rintro ⟨c, values⟩ hsome
    obtain ⟨hname, hvalues, e, he, hb, hc⟩ := foldable?_eq_some hsome
    obtain ⟨rfl, hstatic⟩ := mapM_static?_eq_some hvalues
    have hfoldable : e.foldable = true := by
      rw [Entry.foldable, hb]
      exact hc
    exact hredex (.call hname he hfoldable hstatic)

mutual

/-- A sweep leaves a normal expression as it is, and computes nothing. -/
theorem sweep_of_isNormal (p : Store × List Invocation) : (n : Node) → IsNormal lib n →
    sweep lib n p = (.ok (n, false), p)
  | literal _, _ | ivar _ _, _ | var _ _, _ => rfl
  | call name args loc, h => by
    obtain ⟨hargs, hself⟩ := isNormal_call.1 h
    rw [sweep, bind_of_ok (sweepAll_of_isNormal p args hargs), sweepCall,
      foldable?_eq_none_iff.2 hself]
    rfl

/-- A sweep leaves normal expressions as they are, and computes nothing. -/
theorem sweepAll_of_isNormal (p : Store × List Invocation) : (ns : List Node) →
    (∀ n ∈ ns, IsNormal lib n) → sweepAll lib ns p = (.ok (ns, false), p)
  | [], _ => rfl
  | n :: ns, h => by
    rw [List.forall_mem_cons] at h
    rw [sweepAll, bind_of_ok (sweep_of_isNormal p n h.1),
      bind_of_ok (sweepAll_of_isNormal p ns h.2)]
    rfl

end

/-- Folding leaves normal expressions as they are. -/
lemma foldAll_of_isNormal {ns : List Node} (h : ∀ n ∈ ns, IsNormal lib n) (s : Store) :
    foldAll lib ns s = (.ok ns, s) := by
  obtain ⟨calls, changed, -, hrun⟩ := (sweepAll_follows ns : Follows lib _ _) s []
  rw [sweepAll_of_isNormal (s, []) ns h] at hrun
  rcases hfold : foldAll lib ns s with ⟨e | ns', t⟩
  · rw [hfold] at hrun
    cases hrun
  · rw [hfold] at hrun
    cases hrun
    rfl

/-! ## What is left of expressions -/

/-- What may be left of an expression when it is folded: the expression, if it is no call; and of a
call, the call with what is left of its arguments, or a constant in its place. -/
inductive Remains : Node → Node → Prop where
  | literal (v : Value) : Remains (literal v) (literal v)
  | ivar (name : String) (loc : Location) : Remains (ivar name loc) (ivar name loc)
  | var (name : String) (loc : Location) : Remains (var name loc) (var name loc)
  | call {name : String} {args args' : List Node} {loc : Location}
    (hargs : List.Forall₂ Remains args args') : Remains (call name args loc) (call name args' loc)
  | constant {name : String} {args : List Node} {loc : Location} {v : Value} (hv : v.loc = loc) :
    Remains (call name args loc) (literal v)

/-- What is left of an expression stands at its place. -/
lemma Remains.loc_eq {n n' : Node} (h : Remains n n') : n'.loc = n.loc := by
  cases h with
  | constant hv => exact hv
  | _ => rfl

mutual

/-- What is left of an expression has no more nodes. -/
theorem Remains.size_le : {n n' : Node} → Remains n n' → n'.size ≤ n.size
  | _, _, .literal _ | _, _, .ivar _ _ | _, _, .var _ _ => Nat.le_refl _
  | _, _, .constant _ => by
    simp only [size]
    omega
  | _, _, .call hargs => by
    rw [size, size]
    exact Nat.add_le_add_left (Remains.sizeAll_le hargs) 1

/-- What is left of expressions has no more nodes. -/
theorem Remains.sizeAll_le : {ns ns' : List Node} → List.Forall₂ Remains ns ns' →
    sizeAll ns' ≤ sizeAll ns
  | _, _, .nil => Nat.le_refl _
  | _, _, .cons h hs => by
    rw [sizeAll, sizeAll]
    exact Nat.add_le_add h.size_le (Remains.sizeAll_le hs)

end

/-- A folded call is normal if its arguments are, and it is left with as many of them. -/
lemma foldCall_ok {args' : List Node} {n' : Node} {s t : Store}
    (h : foldCall lib name args' loc s = (.ok n', t)) (hnormal : ∀ n ∈ args', IsNormal lib n)
    (hargs : List.Forall₂ Remains args args') :
    IsNormal lib n' ∧ Remains (call name args loc) n' := by
  unfold foldCall at h
  cases hfold : foldable? lib name args' with
  | none =>
    rw [hfold] at h
    cases h
    exact ⟨isNormal_call.2 ⟨hnormal, foldable?_eq_none_iff.1 hfold⟩, .call hargs⟩
  | some p =>
    obtain ⟨c, values⟩ := p
    rw [hfold] at h
    obtain ⟨v, u, -, hv⟩ := bind_eq_ok.1 h
    cases hv
    exact ⟨isNormal_of_ne_call (by simp), .constant (Value.loc_relocate loc v)⟩

mutual

/-- A folded expression is normal, and is what may be left of the expression. -/
theorem fold_ok {s t : Store} : (n : Node) → {n' : Node} → fold lib n s = (.ok n', t) →
    IsNormal lib n' ∧ Remains n n'
  | literal v, _, h => by
    cases h
    exact ⟨isNormal_of_ne_call (by simp), .literal v⟩
  | ivar name loc, _, h => by
    cases h
    exact ⟨isNormal_of_ne_call (by simp), .ivar name loc⟩
  | var name loc, _, h => by
    cases h
    exact ⟨isNormal_of_ne_call (by simp), .var name loc⟩
  | call name args loc, n', h => by
    obtain ⟨args', u, hargs, hcall⟩ := bind_eq_ok.1 h
    obtain ⟨hnormal, hleft⟩ := foldAll_ok args hargs
    exact foldCall_ok hcall hnormal hleft

/-- Folded expressions are normal, and are what may be left of the expressions. -/
theorem foldAll_ok {s t : Store} : (ns : List Node) → {ns' : List Node} →
    foldAll lib ns s = (.ok ns', t) →
    (∀ n ∈ ns', IsNormal lib n) ∧ List.Forall₂ Remains ns ns'
  | [], _, h => by
    cases h
    exact ⟨by simp, .nil⟩
  | n :: ns, _, h => by
    obtain ⟨n', u, hn, h⟩ := bind_eq_ok.1 h
    obtain ⟨ns', u', hns, h⟩ := bind_eq_ok.1 h
    cases h
    obtain ⟨hnormal, hleft⟩ := fold_ok n hn
    obtain ⟨hnormals, hlefts⟩ := foldAll_ok ns hns
    exact ⟨List.forall_mem_cons.2 ⟨hnormal, hnormals⟩, .cons hleft hlefts⟩

end

/-! ## Sweeps come to an end -/

/-- Sweeps over normal expressions end with the first one. -/
lemma Sweeps.of_isNormal {ns : List Node} (h : ∀ n ∈ ns, IsNormal lib n)
    (p : Store × List Invocation) : Sweeps lib ns p (.ok ns, p) :=
  .stable (sweepAll_of_isNormal p ns h)

/-- Sweeps have one outcome. -/
lemma Sweeps.unique {ns : List Node} {p : Store × List Invocation}
    {out out' : Except CompileError (List Node) × Store × List Invocation}
    (h : Sweeps lib ns p out) (h' : Sweeps lib ns p out') : out = out' := by
  induction h with
  | fails h =>
    cases h' with
    | fails h' =>
      cases h.symm.trans h'
      rfl
    | stable h' | again h' => cases h.symm.trans h'
  | stable h =>
    cases h' with
    | stable h' =>
      cases h.symm.trans h'
      rfl
    | fails h' | again h' => cases h.symm.trans h'
  | again h hrest ih =>
    cases h' with
    | fails h' | stable h' => cases h.symm.trans h'
    | again h' hrest' =>
      cases h.symm.trans h'
      exact ih hrest'

/-- Sweeps come to an end, with what folding gives.

**Proof sketch.** The first sweep gives what folding gives. If it replaced something, then there is
a second one; as folded expressions are normal, it replaces nothing. -/
lemma exists_sweeps (lib : Library) (ns : List Node) (s : Store) : ∃ calls,
    (∀ i ∈ calls, Invocation.Permitted lib i) ∧
      Sweeps lib ns (s, []) ((foldAll lib ns s).1, (foldAll lib ns s).2, calls) := by
  obtain ⟨calls, changed, hcalls, hrun⟩ := (sweepAll_follows ns : Follows lib _ _) s []
  refine ⟨calls, hcalls, ?_⟩
  rcases hfold : foldAll lib ns s with ⟨e | ns', t⟩
  · rw [hfold] at hrun
    exact .fails hrun
  · rw [hfold] at hrun
    cases changed with
    | false => exact .stable hrun
    | true => exact .again hrun (.of_isNormal (foldAll_ok ns hfold).1 _)

end Node

namespace Library

open Node

/-- Sweeps over the expressions of a script come to an end, with one outcome, and this is what
folding gives. Whatever the outcome is, only calls of foldable functions that are no procedures were
computed, on constants that stay the same at every look. The expressions that come out hold no call
that could be replaced. They are as many as went in, at the same places, with no more nodes; each
call that is left has its name, its place and the number of its arguments. Folding them once more
leaves them as they are, and computes nothing. -/
theorem folding_reaches_normal_form (lib : Library) (nodes : List Node) (s : Store) :
    ∃ r t calls, Sweeps lib nodes (s, []) (r, t, calls) ∧
      (∀ out, Sweeps lib nodes (s, []) out → out = (r, t, calls)) ∧
      foldAll lib nodes s = (r, t) ∧
      (∀ i ∈ calls, Invocation.Permitted lib i) ∧
      ∀ nodes', r = .ok nodes' →
        (∀ n ∈ nodes', n.IsNormal lib) ∧
        nodes'.map Node.loc = nodes.map Node.loc ∧
        sizeAll nodes' ≤ sizeAll nodes ∧
        List.Forall₂ Remains nodes nodes' ∧
        ∀ u, foldAll lib nodes' u = (.ok nodes', u) ∧
          Sweeps lib nodes' (u, []) (.ok nodes', u, []) := by
  obtain ⟨calls, hcalls, hsweeps⟩ := exists_sweeps lib nodes s
  refine ⟨_, _, calls, hsweeps, fun out hout => hout.unique hsweeps, rfl, hcalls, ?_⟩
  intro nodes' hr
  have hrun : foldAll lib nodes s = (.ok nodes', (foldAll lib nodes s).2) := Prod.ext hr rfl
  obtain ⟨hnormal, hleft⟩ := foldAll_ok nodes hrun
  refine ⟨hnormal, ?_, Remains.sizeAll_le hleft, hleft, fun u => ?_⟩
  · rw [← List.forall₂_eq_eq_eq, List.forall₂_map_left_iff, List.forall₂_map_right_iff]
    exact hleft.flip.imp fun _ _ h => h.loc_eq
  · exact ⟨foldAll_of_isNormal hnormal u, .of_isNormal hnormal (u, [])⟩

/-- The library whose only function is the opposite of a condition. -/
def onlyNegation : Library := ⟨[Builtin.negation], by decide⟩

/-- The opposite of an expression. -/
def opposite (n : Node) : Node := .call "not" [n] .unknown

/-- Of two statements, the opposite of the opposite of a constant is replaced by the constant, and
the opposite of a variable is left. Two calls are computed for that, and another sweep changes
nothing. -/
theorem folding_reaches_normal_form_opposites :
    ∃ calls,
      Sweeps onlyNegation
        [opposite (opposite (.literal (.boolean true .unknown))), opposite (.ivar "x" .unknown)]
        (.empty, [])
        (.ok [.literal (.boolean true .unknown), opposite (.ivar "x" .unknown)], .empty, calls) ∧
      (∀ i ∈ calls, Invocation.Permitted onlyNegation i) ∧
      (opposite (.ivar "x" .unknown)).IsNormal onlyNegation := by
  obtain ⟨r, t, calls, hsweeps, -, hfold, hcalls, hresult⟩ :=
    folding_reaches_normal_form onlyNegation
      [opposite (opposite (.literal (.boolean true .unknown))), opposite (.ivar "x" .unknown)]
      .empty
  cases hfold
  exact ⟨calls, hsweeps, hcalls, (hresult _ rfl).1 _ (.tail _ (.head _))⟩

end Library

end CommandScript
