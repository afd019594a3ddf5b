import CommandScript.Proofs.Foldable
import CommandScript.Proofs.Grammar
import CommandScript.Proofs.Simulation

/-!
# Folding keeps the meaning

A script and the script with its calls on constants folded do the same. A call that is folded gives
its constant in every world and leaves the world as it is; what stays of the script is made of the
same sorts of expressions, with parts that were folded. The folded script may take less fuel, by no
more than the number of nodes of the script.

## Main definitions

* `CommandScript.Node.FoldsTo` — what an expression becomes when it is folded.
* `CommandScript.Node.ConstantCall` — a call of a foldable function on constants, with its result.
* `CommandScript.Node.Offending` — the first call that fails when expressions are folded.
* `CommandScript.Interchangeable` — scripts that do the same.

## Main results

* `CommandScript.Node.eval_of_foldsTo_literal` — an expression that folds to a constant gives it.
* `CommandScript.interchangeable_of_foldsTo` — a script and what its statements fold to do the same.
* `CommandScript.Library.folding_keeps_meaning` — compiled with folding and without, a script does
  the same, and a call that cannot be folded fails in the same way when it is evaluated.
-/

namespace CommandScript

open Library (builtin)

variable {why : String → Option String}

namespace Node

/-! ## Calls on constants -/

/-- A call of a foldable function of the language on constants. In every store the function gives
the same value, or the same failure, and leaves the store as it is. -/
structure ConstantCall (lib : Library) (name : String) (loc : Location) (values : List Value)
    (result : Except Failure Value) (e : Entry) (c : Computation) : Prop where
  function : isProcedureName name = false
  found : lib.find? name = some e
  behaviour : e.behaviour = .compute c
  restricted : e.restricted = false
  resolves : c.resolves = true
  static : ∀ v ∈ values, v.isDynamic = false
  run : ∀ s, c.run loc values s = (result.mapError Halt.failure, s)

/-- What folding makes of a call, the arguments of which are folded already. -/
inductive CallFolded (lib : Library) (name : String) (args : List Node) (loc : Location) :
    Prop where
  | kept (h : ∀ s, foldCall lib name args loc s = (.ok (call name args loc), s))
  | value {values : List Value} {v : Value} {e : Entry} {c : Computation}
    (hargs : args = values.map literal) (hcall : ConstantCall lib name loc values (.ok v) e c)
    (hloc : v.loc = loc) (h : ∀ s, foldCall lib name args loc s = (.ok (literal v), s))
  | failure {values : List Value} {f : Failure} {e : Entry} {c : Computation}
    (hargs : args = values.map literal) (hcall : ConstantCall lib name loc values (.error f) e c)
    (h : ∀ s, foldCall lib name args loc s = (.error (.fold name f), s))

/-- An expression that stays the same at every look is a constant. -/
lemma static?_eq_some {n : Node} {v : Value} (h : n.static? = some v) :
    n = literal v ∧ v.isDynamic = false := by
  cases n with
  | literal u =>
    simp only [static?] at h
    split at h
    · cases h
    · next hu =>
      cases h
      exact ⟨rfl, by simpa using hu⟩
  | _ => cases h

/-- Expressions that stay the same at every look are constants. -/
lemma mapM_static?_eq_some {args : List Node} {values : List Value}
    (h : args.mapM static? = some values) :
    args = values.map literal ∧ ∀ v ∈ values, v.isDynamic = false := by
  induction args generalizing values with
  | nil =>
    cases h
    exact ⟨rfl, by simp⟩
  | cons n args ih =>
    simp only [List.mapM_cons, bind, Option.bind_eq_some_iff, pure, Option.some.injEq] at h
    obtain ⟨v, hv, values, hvalues, rfl⟩ := h
    obtain ⟨rfl, hstatic⟩ := static?_eq_some hv
    obtain ⟨rfl, hall⟩ := ih hvalues
    exact ⟨rfl, List.forall_mem_cons.2 ⟨hstatic, hall⟩⟩

/-- A computation that may replace a call is that of a foldable function on constants. -/
lemma foldable?_eq_some {lib : Library} {name : String} {args : List Node} {c : Computation}
    {values : List Value} (h : foldable? lib name args = some (c, values)) :
    isProcedureName name = false ∧ args.mapM static? = some values ∧
      ∃ e, lib.find? name = some e ∧ e.behaviour = .compute c ∧ c.foldable = true := by
  unfold foldable? at h
  split at h
  · cases h
  · next hname =>
    simp only [bind, Option.bind_eq_some_iff] at h
    obtain ⟨values', hvalues, e, he, h⟩ := h
    split at h
    · next c' hc =>
      split at h
      · next hfold =>
        cases h
        exact ⟨by simpa using hname, hvalues, e, he, hc, hfold⟩
      · cases h
    · cases h

/-- A call stays, or it is one of a foldable function on constants, and then its value takes its
place, or its failure makes folding fail. -/
lemma callFolded (name : String) (args : List Node) (loc : Location) :
    CallFolded (builtin why) name args loc := by
  cases hfold : foldable? (builtin why) name args with
  | none => exact .kept fun s => by simp only [foldCall, hfold]; rfl
  | some p =>
    obtain ⟨c, values⟩ := p
    obtain ⟨hname, hmap, e, he, hb, hc⟩ := foldable?_eq_some hfold
    obtain ⟨hargs, hstatic⟩ := mapM_static?_eq_some hmap
    obtain ⟨hconst, hrestricted, hresolves⟩ := Library.builtin_foldable he hb hc
    cases hconst loc values hstatic with
    | gives v hv h =>
      refine .value hargs ⟨hname, he, hb, hrestricted, hresolves, hstatic, h⟩ hv fun s => ?_
      have hrun : c.fold name loc values s = (.ok v, s) := by simp only [Computation.fold, h]
      have hplace : v.relocate loc = v := hv ▸ v.relocate_loc
      simp only [foldCall, hfold]
      rw [bind_of_ok hrun, hplace]
      rfl
    | fails f h =>
      refine .failure hargs ⟨hname, he, hb, hrestricted, hresolves, hstatic, h⟩ fun s => ?_
      have hrun : c.fold name loc values s = (.error (.fold name f), s) := by
        simp only [Computation.fold, h]
      simp only [foldCall, hfold]
      rw [bind_of_error hrun]

/-! ## What folding does -/

/-- What an expression becomes when it is folded. It becomes the same in every store, and the store
stays as it is. -/
def FoldsTo (lib : Library) (n n' : Node) : Prop := ∀ s, fold lib n s = (.ok n', s)

/-- The first call that fails when expressions are folded, from the first to the last and from the
innermost calls outward, with its arguments folded. -/
inductive Offending (lib : Library) : List Node → Node → Prop where
  | skip {n n' m : Node} {ns : List Node} (hn : n.FoldsTo lib n') (h : Offending lib ns m) :
    Offending lib (n :: ns) m
  | inside {name : String} {args ns : List Node} {loc : Location} {m : Node}
    (h : Offending lib args m) : Offending lib (call name args loc :: ns) m
  | here {name : String} {args args' ns : List Node} {loc : Location} {f : Failure}
    (hargs : List.Forall₂ (FoldsTo lib) args args')
    (hfail : ∀ s, foldCall lib name args' loc s = (.error (.fold name f), s)) :
    Offending lib (call name args loc :: ns) (call name args' loc)

/-- The outcome of folding: a result in `P`, or the failure of an offending call on constants. It
is the same in every store, and the store stays as it is. -/
inductive FoldOutcome (lib : Library) {α : Type} (x : Compile α) (P : α → Prop)
    (offends : Node → Prop) : Prop where
  | ok {a : α} (ha : P a) (h : ∀ s, x s = (.ok a, s))
  | failure {name : String} {loc : Location} {values : List Value} {f : Failure} {e : Entry}
    {c : Computation} (hcall : ConstantCall lib name loc values (.error f) e c)
    (hoff : offends (call name (values.map literal) loc))
    (h : ∀ s, x s = (.error (.fold name f), s))

mutual

/-- What folding makes of an expression. -/
theorem fold_outcome : (n : Node) →
    FoldOutcome (builtin why) (fold (builtin why) n) (FoldsTo (builtin why) n)
      fun m => ∀ ns, Offending (builtin why) (n :: ns) m
  | literal v => .ok (a := literal v) (fun _ => rfl) fun _ => rfl
  | ivar name loc => .ok (a := ivar name loc) (fun _ => rfl) fun _ => rfl
  | var name loc => .ok (a := var name loc) (fun _ => rfl) fun _ => rfl
  | call name args loc => by
    cases foldAll_outcome args with
    | failure hcall hoff h =>
      exact .failure hcall (fun ns => .inside hoff) fun s => bind_of_error (h s)
    | @ok args' hargs h =>
      have hs : ∀ s, fold (builtin why) (call name args loc) s =
          foldCall (builtin why) name args' loc s :=
        fun s => bind_of_ok (h s)
      cases callFolded name args' loc with
      | kept hk => exact .ok (fun s => (hs s).trans (hk s)) fun s => (hs s).trans (hk s)
      | value _ _ _ hk => exact .ok (fun s => (hs s).trans (hk s)) fun s => (hs s).trans (hk s)
      | failure heq hcall hk =>
        subst heq
        exact .failure hcall (fun ns => .here hargs hk) fun s => (hs s).trans (hk s)

/-- What folding makes of expressions, one after another. -/
theorem foldAll_outcome : (ns : List Node) →
    FoldOutcome (builtin why) (foldAll (builtin why) ns) (List.Forall₂ (FoldsTo (builtin why)) ns)
      (Offending (builtin why) ns)
  | [] => .ok .nil fun _ => rfl
  | n :: ns => by
    cases fold_outcome n with
    | failure hcall hoff h => exact .failure hcall (hoff ns) fun s => bind_of_error (h s)
    | ok hn h =>
      cases foldAll_outcome ns with
      | failure hcall hoff h' =>
        exact .failure hcall (.skip hn hoff) fun s =>
          (bind_of_ok (h s)).trans (bind_of_error (h' s))
      | ok hns h' =>
        exact .ok (.cons hn hns) fun s => (bind_of_ok (h s)).trans (bind_of_ok (h' s))

end

/-- Folding has one result. -/
lemma FoldsTo.unique {lib : Library} {n m m' : Node} (h : n.FoldsTo lib m)
    (h' : n.FoldsTo lib m') : m = m' := by
  have heq := (h .empty).symm.trans (h' .empty)
  cases heq
  rfl

/-- A folded call is a call with folded arguments, or the value of a call on constants. -/
lemma FoldsTo.call_cases {name : String} {args : List Node} {loc : Location} {n' : Node}
    (h : FoldsTo (builtin why) (call name args loc) n') :
    ∃ args', List.Forall₂ (FoldsTo (builtin why)) args args' ∧ (n' = call name args' loc ∨
      ∃ values v e c, args' = values.map literal ∧
        ConstantCall (builtin why) name loc values (.ok v) e c ∧
        v.loc = loc ∧ n' = literal v) := by
  cases foldAll_outcome args with
  | failure _ _ hargs =>
    have heq := (h .empty).symm.trans (bind_of_error (hargs .empty))
    cases heq
  | @ok args' hall hargs =>
    refine ⟨args', hall, ?_⟩
    have hs : ∀ s, fold (builtin why) (call name args loc) s =
        foldCall (builtin why) name args' loc s :=
      fun s => bind_of_ok (hargs s)
    cases callFolded name args' loc with
    | kept hk => exact .inl (h.unique fun s => (hs s).trans (hk s))
    | value heq hcall hloc hk =>
      exact .inr ⟨_, _, _, _, heq, hcall, hloc, h.unique fun s => (hs s).trans (hk s)⟩
    | failure _ _ hk =>
      have heq := (h .empty).symm.trans ((hs .empty).trans (hk .empty))
      cases heq

/-! ## Evaluating what folds to constants -/

section

variable {name : String} {loc : Location} {values : List Value} {result : Except Failure Value}
  {e : Entry} {c : Computation} {args : List Node} {ev : Evaluator} {depth : Nat} {w v : World}

/-- A call of a foldable function computes with the values of its arguments. -/
lemma ConstantCall.step_apply (h : ConstantCall (builtin why) name loc values result e c)
    (hcount : e.arity.accepts args.length = true) (fuel : Nat) (w : World) :
    step (builtin why) ev fuel depth (call name args loc) w =
      (evalResolved (ev depth) args >>= fun vs => Run.ofCompute (c.run loc vs)) w := by
  rw [step, runCall_apply h.function h.found, if_pos hcount, h.restricted, h.behaviour]
  simp only [Bool.false_and, Bool.false_eq_true, if_false, apply, h.resolves, if_true]

/-- A call of a foldable function gives its result if its arguments give the constants. -/
lemma ConstantCall.step_of_ok (h : ConstantCall (builtin why) name loc values result e c)
    (hcount : e.arity.accepts args.length = true) (fuel : Nat)
    (hargs : evalAll (ev depth) args w = (.ok values, w)) :
    step (builtin why) ev fuel depth (call name args loc) w =
      (result.mapError (Stop.halt ∘ Halt.failure), w) := by
  have hvalues : values.map Value.resolved = values :=
    (List.map_congr_left fun v hv => Value.resolved_of_static (h.static v hv)).trans (List.map_id _)
  have hresolved : evalResolved (ev depth) args w = (.ok values, w) := by
    rw [evalResolved, bind_of_ok hargs, hvalues]
    rfl
  rw [h.step_apply hcount, bind_of_ok hresolved, Run.ofCompute, h.run]
  cases result <;> rfl

/-- A call of a foldable function runs out of fuel if its arguments do. -/
lemma ConstantCall.step_of_outOfFuel (h : ConstantCall (builtin why) name loc values result e c)
    (hcount : e.arity.accepts args.length = true) (fuel : Nat)
    (hargs : evalAll (ev depth) args w = (.error .outOfFuel, v)) :
    step (builtin why) ev fuel depth (call name args loc) w = (.error .outOfFuel, v) := by
  rw [h.step_apply hcount, evalResolved]
  exact bind_of_error (bind_of_error hargs)

/-- The calls of checked expressions have as many arguments as the functions accept. -/
lemma ConstantCall.accepts (h : ConstantCall (builtin why) name loc values result e c) {count : Nat}
    (hallowed : Allowed (builtin why).signature name count) : e.arity.accepts count = true := by
  rcases hallowed with hname | ⟨arity, hsig, hcount⟩
  · rw [h.function] at hname
    cases hname
  · rw [Library.signature, h.found] at hsig
    cases hsig
    exact hcount

end

/-- The values of expressions that fold to constants, given those of each of them. -/
lemma evalAll_of_forall₂ {ev : Node → Run Value} {w : World} {fuel : Nat} {args : List Node}
    {values : List Value}
    (h : List.Forall₂ (fun n v => ev n w = (.ok v, w) ∨
      fuel < n.size ∧ ∃ u, ev n w = (.error .outOfFuel, u)) args values) :
    evalAll ev args w = (.ok values, w) ∨
      fuel < sizeAll args ∧ ∃ u, evalAll ev args w = (.error .outOfFuel, u) := by
  induction h with
  | nil => exact .inl rfl
  | cons hn _ ih =>
    unfold evalAll sizeAll
    rcases hn with hn | ⟨hf, u, hn⟩
    · rcases ih with hns | ⟨hf, u, hns⟩
      · exact .inl ((bind_of_ok hn).trans (bind_of_ok hns))
      · exact .inr ⟨by omega, u, (bind_of_ok hn).trans (bind_of_error hns)⟩
    · exact .inr ⟨by omega, u, bind_of_error hn⟩

/-- An expression that folds to a constant gives it and leaves the world as it is. The fuel
suffices if it is as much as the expression has nodes.

**Proof sketch.** By induction on the fuel. The arguments of the call fold to constants too, so that
they give these or run out of fuel. -/
lemma eval_of_foldsTo_literal (fuel depth : Nat) {n : Node} {v : Value} (w : World)
    (hn : n.Checked (builtin why).signature) (h : n.FoldsTo (builtin why) (literal v)) :
    eval (builtin why) fuel depth n w = (.ok v, w) ∨
      fuel < n.size ∧ ∃ u, eval (builtin why) fuel depth n w = (.error .outOfFuel, u) := by
  induction fuel generalizing n v with
  | zero => exact .inr ⟨n.size_pos, w, rfl⟩
  | succ fuel ih =>
    cases hn with
    | literal u =>
      have heq : literal v = literal u := h.unique fun _ => rfl
      cases heq
      exact .inl rfl
    | ivar name l =>
      have heq : literal v = ivar name l := h.unique fun _ => rfl
      cases heq
    | var name l =>
      have heq : literal v = var name l := h.unique fun _ => rfl
      cases heq
    | @call name args l allowed parts =>
      obtain ⟨args', hall, heq | ⟨values, u, e, c, rfl, hcall, -, heq⟩⟩ := h.call_cases
      · cases heq
      · cases heq
        have hcount := hcall.accepts allowed
        have hparts := (List.forall₂_and_left _ _).2 ⟨parts, List.forall₂_map_right_iff.1 hall⟩
        have hargs := evalAll_of_forall₂ (hparts.imp fun n u hn => ih hn.1 hn.2)
        simp only [eval]
        rcases hargs with hargs | ⟨hf, u, hargs⟩
        · rw [hcall.step_of_ok hcount fuel hargs]
          exact .inl rfl
        · rw [hcall.step_of_outOfFuel hcount fuel hargs, size]
          exact .inr ⟨by omega, u, rfl⟩

/-! ## Expressions before and after folding -/

/-- An expression and itself, or a checked expression of at most `bound` nodes and what it folds
to. -/
def FoldedWithin (lib : Library) (bound : Nat) (n n' : Node) : Prop :=
  n' = n ∨ n.Checked lib.signature ∧ n.size ≤ bound ∧ n.FoldsTo lib n'

/-- A checked expression of at most `bound` nodes that is a call on constants, and its value. -/
structure Replaced (lib : Library) (bound : Nat) (n : Node) (v : Value) : Prop where
  checked : n.Checked lib.signature
  size_le : n.size ≤ bound
  folds : n.FoldsTo lib (literal v)
  loc : v.loc = n.loc
  plain : n.Plain

/-- Assignments are never folded. -/
lemma ConstantCall.ne_assign {name : String} {loc : Location} {values : List Value}
    {result : Except Failure Value} {e : Entry} {c : Computation}
    (h : ConstantCall (builtin why) name loc values result e c) : name ≠ "assign" := by
  rintro rfl
  have hassign : (builtin why).find? "assign" = some Builtin.assign := by
    rw [Library.find?_builtin]
    rfl
  have he := h.found
  rw [hassign] at he
  cases he
  cases h.behaviour

/-- Checked expressions of few nodes are related to what they fold to. -/
lemma forall₂_foldedWithin {bound : Nat} {ns ns' : List Node}
    (hall : ∀ n ∈ ns, n.Checked (builtin why).signature) (hsize : sizeAll ns ≤ bound)
    (h : List.Forall₂ (FoldsTo (builtin why)) ns ns') :
    List.Forall₂ (FoldedWithin (builtin why) bound) ns ns' := by
  have hsizes : ∀ n ∈ ns, n.Checked (builtin why).signature ∧ n.size ≤ bound := fun n hn =>
    ⟨hall n hn, Nat.le_trans (size_le_sizeAll hn) hsize⟩
  refine ((List.forall₂_and_left _ _).2 ⟨hsizes, h⟩).imp fun n n' hn => ?_
  exact .inr ⟨hn.1.1, hn.1.2, hn.2⟩

/-- An expression becomes one of the same sort with folded parts, or is replaced by its value. -/
lemma FoldedWithin.cases {bound : Nat} {n n' : Node} (h : FoldedWithin (builtin why) bound n n') :
    Similar (FoldedWithin (builtin why) bound) n n' ∨
      ∃ v, n' = literal v ∧ Replaced (builtin why) bound n v := by
  rcases h with rfl | ⟨hn, hsize, h⟩
  · exact .inl (similar_refl (fun _ => .inl rfl) _)
  · cases n with
    | call name args loc =>
      obtain ⟨args', hargs, rfl | ⟨values, v, e, c, rfl, hcall, hloc, rfl⟩⟩ := h.call_cases
      · have hparts : ∀ n ∈ args, n.Checked (builtin why).signature := by
          cases hn with
          | call _ parts => exact parts
        rw [size] at hsize
        exact .inl (.call name (forall₂_foldedWithin hparts (by omega) hargs) loc)
      · have hplain : (call name args loc).Plain := ⟨by simp, by simp [hcall.ne_assign]⟩
        exact .inr ⟨v, rfl, ⟨hn, hsize, h, hloc, hplain⟩⟩
    | _ =>
      obtain rfl := h.unique fun _ => rfl
      exact .inl (similar_refl (fun _ => .inl rfl) _)

/-- Special forms do not tell an expression from what it folds to. -/
lemma congruence_foldedWithin (bound : Nat) : Congruence (FoldedWithin (builtin why) bound) where
  refl _ := .inl rfl
  kin := by
    intro n n' h
    rcases h.cases with hsim | ⟨v, rfl, hv⟩
    · exact hsim.kin
    · exact .plain hv.loc hv.plain ⟨by simp, by simp⟩

/-- What folding leaves does what the expression does.

**Proof sketch.** Where a call was replaced, it gives the constant or runs out of fuel. -/
lemma eval_folded {bound fuel fuel' : Nat} (hf : fuel ≤ fuel') (depth : Nat) {n n' : Node}
    (h : FoldedWithin (builtin why) bound n n') :
    Run.Simulates (FoldedWithin (builtin why) bound) Eq
      (eval (builtin why) fuel depth n) (eval (builtin why) fuel' depth n') := by
  refine eval_simulates (congruence_foldedWithin bound) (builtin why) (fun h => ?_)
    (show fuel + 0 ≤ fuel' from hf) depth h
  refine h.cases.imp_right ?_
  rintro ⟨v, rfl, hv⟩ fuel fuel' depth hf w w' hww'
  rcases eval_of_foldsTo_literal fuel depth w hv.checked hv.folds with hn | ⟨-, u, hn⟩
  · cases fuel with
    | zero => cases hn
    | succ fuel =>
      obtain ⟨k, rfl⟩ : ∃ k, fuel' = k + 1 := ⟨fuel' - 1, by omega⟩
      rw [hn]
      exact .inr ⟨.ok rfl, hww'⟩
  · rw [hn]
    exact .inl rfl

/-- An expression does what is left of it by folding, with as much more fuel as it has nodes.

**Proof sketch.** Where a call was replaced, there is fuel enough for it to give the constant. -/
lemma eval_unfolded {bound fuel fuel' : Nat} (hf : fuel + bound ≤ fuel') (depth : Nat)
    {n n' : Node} (h : FoldedWithin (builtin why) bound n n') :
    Run.Simulates (flip (FoldedWithin (builtin why) bound)) Eq
      (eval (builtin why) fuel depth n') (eval (builtin why) fuel' depth n) := by
  refine eval_simulates (congruence_foldedWithin bound).flip (builtin why) (fun h => ?_) hf depth h
  rcases FoldedWithin.cases h with hsim | ⟨v, rfl, hv⟩
  · exact .inl hsim.flip
  · refine .inr fun {fuel fuel'} depth hf w w' hww' => ?_
    cases fuel with
    | zero => exact .inl rfl
    | succ fuel =>
      have hsize := hv.size_le
      rcases eval_of_foldsTo_literal fuel' depth w' hv.checked hv.folds with hn | ⟨hlt, -⟩
      · rw [hn]
        exact .inr ⟨.ok rfl, hww'⟩
      · omega

/-- An expression that is the same as another one, up to folding. -/
def UpToFolding (lib : Library) (n n' : Node) : Prop := n' = n ∨ n.FoldsTo lib n'

/-- The offending call among checked expressions has as many arguments as its function accepts. -/
lemma Offending.allowed {ns : List Node} {m : Node} (h : Offending (builtin why) ns m)
    (hall : ∀ n ∈ ns, n.Checked (builtin why).signature) :
    ∃ name args loc, m = call name args loc ∧ Allowed (builtin why).signature name args.length := by
  induction h with
  | skip _ _ ih => exact ih fun n hn => hall n (.tail _ hn)
  | inside _ ih =>
    cases hall _ (.head _) with
    | call _ parts => exact ih parts
  | @here name args args' ns loc f hargs _ =>
    cases hall _ (.head _) with
    | call allowed _ => exact ⟨name, args', loc, rfl, hargs.length_eq ▸ allowed⟩

/-- A call on constants that fails when it is folded fails in the same way in every world. -/
lemma ConstantCall.eval_literals {name : String} {loc : Location} {values : List Value}
    {f : Failure} {e : Entry} {c : Computation}
    (h : ConstantCall (builtin why) name loc values (.error f) e c)
    (hallowed : Allowed (builtin why).signature name (values.map literal).length) (fuel depth : Nat)
    (w : World) : eval (builtin why) (fuel + 2) depth (call name (values.map literal) loc) w =
      (.error (.halt (.failure f)), w) := by
  have hargs := evalAll_literal (builtin why) fuel depth values w
  rw [eval]
  exact h.step_of_ok (h.accepts hallowed) (fuel + 1) hargs

end Node

/-! ## Scripts before and after folding -/

/-- Scripts that do the same in every world. One comes to an end if and only if the other does, and
then both give the same report, in worlds that agree in everything but the bodies of procedures,
which are related by `Q`. -/
structure Interchangeable (lib : Library) (Q : Node → Node → Prop) (nodes nodes' : List Node) :
    Prop where
  ends : ∀ w, (∃ fuel r, execute lib fuel nodes w = some r) ↔
    ∃ fuel r, execute lib fuel nodes' w = some r
  agree : ∀ {w v v' : World} {fuel fuel' : Nat} {report report' : Report},
    execute lib fuel nodes w = some (report, v) → execute lib fuel' nodes' w = some (report', v') →
      report' = report ∧ v.Alike Q v' ∧ v'.env.outer = v.env.outer

/-- A script of checked statements and what they fold to do the same.

**Proof sketch.** With the fuel that one script takes to its end, or with more, the other comes to
its end too. Two runs that come to their ends are compared by giving the second one the larger fuel
of both. -/
lemma interchangeable_of_foldsTo {nodes nodes' : List Node}
    (hall : ∀ n ∈ nodes, n.Checked (builtin why).signature)
    (h : List.Forall₂ (Node.FoldsTo (builtin why)) nodes nodes') :
    Interchangeable (builtin why) (Node.UpToFolding (builtin why)) nodes nodes' := by
  have hfolded := Node.forall₂_foldedWithin hall (Nat.le_refl _) h
  have hcong : Node.Congruence (Node.FoldedWithin (builtin why) (Node.sizeAll nodes)) :=
    Node.congruence_foldedWithin _
  -- the folded script ends as the script does, if it has no less fuel
  have hforth : ∀ {w v fuel fuel' report}, fuel ≤ fuel' →
      execute (builtin why) fuel nodes w = some (report, v) →
      ∃ v', execute (builtin why) fuel' nodes' w = some (report, v') ∧
        v.Alike (Node.FoldedWithin (builtin why) (Node.sizeAll nodes)) v' := fun hf hrun =>
    executeFrom_simulates (fun h => (hcong.kin h).loc_eq) (fun h => Node.eval_folded hf 0 h)
      hfolded (.refl hcong.refl _) hrun
  refine ⟨fun w => ⟨?_, ?_⟩, ?_⟩
  · rintro ⟨fuel, ⟨report, v⟩, hrun⟩
    obtain ⟨v', hrun', -⟩ := hforth (Nat.le_refl fuel) hrun
    exact ⟨fuel, _, hrun'⟩
  · rintro ⟨fuel, ⟨report, v⟩, hrun⟩
    obtain ⟨v', hrun', -⟩ := executeFrom_simulates (fun h => (hcong.flip.kin h).loc_eq)
      (fun h => Node.eval_unfolded (Nat.le_refl _) 0 h) hfolded.flip (.refl hcong.flip.refl _) hrun
    exact ⟨_, _, hrun'⟩
  · intro w v v' fuel fuel' report report' hrun hrun'
    obtain ⟨u, hu, halike⟩ := hforth (Nat.le_max_left fuel fuel') hrun
    obtain ⟨u', hu', halike'⟩ := execute_mono (Nat.le_max_right fuel fuel') hrun'
    obtain ⟨rfl, rfl⟩ := Prod.ext_iff.1 (Option.some.inj (hu.symm.trans hu'))
    refine ⟨rfl, (halike.of_eq halike').mono fun n n' h => h.imp_right (·.2.2), ?_⟩
    exact (execute_sameSetting hrun').outer.trans (execute_sameSetting hrun).outer.symm

namespace Library

variable {ts : List Token} {nodes : List Node}

/-- What is compiled without folding is what the parser reads. -/
lemma compileTokens_false_eq_ok {lib : Library} {s : Store} :
    (lib.compileTokens false ts s).1 = .ok nodes ↔ Node.parse lib.signature ts = .ok nodes := by
  unfold compileTokens
  cases Node.parse lib.signature ts with
  | error e => exact ⟨fun h => (by cases h), fun h => (by cases h)⟩
  | ok ns => exact Iff.rfl

/-- What is compiled with folding is what the parser reads, folded. -/
lemma compileTokens_true {lib : Library} (h : Node.parse lib.signature ts = .ok nodes) :
    lib.compileTokens true ts = Node.foldAll lib nodes := by
  simp only [compileTokens, h, if_true]

/-- What a text compiles to is the same in every store, and the store stays as it is. -/
lemma compile_outcome (text : String) (source : Option String) :
    ∃ r, ∀ s, (builtin why).compile true text source s = (r, s) := by
  unfold compile
  cases Token.lex text source with
  | error e => exact ⟨.error e, fun s => rfl⟩
  | ok ts =>
    dsimp only
    cases hparse : Node.parse (builtin why).signature ts with
    | error e =>
      refine ⟨.error e, fun s => ?_⟩
      simp only [compileTokens, hparse]
      rfl
    | ok nodes =>
      rw [compileTokens_true hparse]
      cases Node.foldAll_outcome nodes with
      | ok _ hrun => exact ⟨_, hrun⟩
      | failure _ _ hrun => exact ⟨_, hrun⟩

/-- Folding keeps the meaning. If tokens compile to a script without folding, then the script that
they compile to with folding does the same in every world. If they do not compile with folding
because a call cannot be folded, then this is the first offending call of the script, and evaluated
in any world, its arguments folded, it fails in the same way.

**Proof sketch.** The calls of the script are checked, because the parser has read it. Folding gives
a script of folded statements, or the failure of an offending call on constants. -/
theorem folding_keeps_meaning {s : Store}
    (h : ((builtin why).compileTokens false ts s).1 = .ok nodes) (s' : Store) :
    (∀ nodes', ((builtin why).compileTokens true ts s').1 = .ok nodes' →
      Interchangeable (builtin why) (Node.UpToFolding (builtin why)) nodes nodes') ∧
    ∀ name f, ((builtin why).compileTokens true ts s').1 = .error (.fold name f) →
      ∃ args loc, Node.Offending (builtin why) nodes (.call name args loc) ∧ ∀ fuel depth w,
        Node.eval (builtin why) (fuel + 2) depth (.call name args loc) w =
          (.error (.halt (.failure f)), w) := by
  have hparse := compileTokens_false_eq_ok.1 h
  have hall := (Grammar.script_of_parse hparse).2
  rw [compileTokens_true hparse]
  cases Node.foldAll_outcome nodes with
  | ok hfolds hrun =>
    rw [hrun]
    refine ⟨fun nodes' heq => ?_, fun name f heq => ?_⟩
    · cases heq
      exact interchangeable_of_foldsTo hall hfolds
    · cases heq
  | failure hcall hoff hrun =>
    rw [hrun]
    refine ⟨fun nodes' heq => ?_, fun name f heq => ?_⟩
    · cases heq
    · cases heq
      refine ⟨_, _, hoff, fun fuel depth w => ?_⟩
      obtain ⟨_, _, _, heq, hallowed⟩ := hoff.allowed hall
      cases heq
      exact hcall.eval_literals hallowed fuel depth w

/-- The texts `good` and `day` as the arguments of a function. -/
def goodDay (name : String) : Node :=
  .call name [.literal (.string "good" .unknown), .literal (.string "day" .unknown)] .unknown

/-- The two texts side by side. -/
def sideBySide : List Token := [⟨.quoted "good", .unknown⟩, ⟨.quoted "day", .unknown⟩]

/-- The second text as an index of the first. -/
def indexed : List Token :=
  [⟨.quoted "good", .unknown⟩, ⟨.openBracket, .unknown⟩, ⟨.quoted "day", .unknown⟩,
    ⟨.closeBracket, .unknown⟩]

lemma find?_sconcat : (builtin why).find? "sconcat" = some Builtin.sconcat := by
  rw [find?_builtin]
  rfl

lemma find?_arrayGet : (builtin why).find? "array_get" = some Builtin.arrayGet := by
  rw [find?_builtin]
  rfl

/-- A call on the two texts may be written if the function accepts two arguments. -/
lemma checked_goodDay {name : String} {e : Entry} (he : (builtin why).find? name = some e)
    (hcount : e.arity.accepts 2 = true) : (goodDay name).Checked (builtin why).signature := by
  refine .call (.inr ⟨e.arity, by rw [signature, he]; rfl, hcount⟩) ?_
  simp only [List.forall_mem_cons]
  exact ⟨.literal _, .literal _, by simp⟩

lemma parse_sideBySide :
    Node.parse (builtin why).signature sideBySide = .ok [goodDay "sconcat"] := by
  have hslot := Grammar.Slot.mk (m := 1) (by decide)
    (.cons (.mk (.atom (.quoted "good" .unknown)) .nil)
      (.cons (.mk (.atom (.quoted "day" .unknown)) .nil) .nil))
  exact Grammar.parse_of_slot hslot (checked_goodDay find?_sconcat rfl) (fun t us h => by cases h)
    (Node.parse_nil.2 rfl)

lemma parse_indexed : Node.parse (builtin why).signature indexed = .ok [goodDay "array_get"] := by
  have hindex := Grammar.Slot.mk (m := 3) (by decide)
    (.cons (.mk (.atom (.quoted "day" .unknown)) .nil) .nil)
  have hslot := Grammar.Slot.mk (m := 1) (by decide) (.cons (.mk (.atom (.quoted "good" .unknown))
    (@Grammar.Indices.cons _ _ _ _ _ _ .unknown .unknown hindex .nil)) .nil)
  exact Grammar.parse_of_slot hslot (checked_goodDay find?_arrayGet rfl) (fun t us h => by cases h)
    (Node.parse_nil.2 rfl)

/-- Side by side the two texts fold to one text. As an index of the first, the second makes folding
fail, and evaluated the call fails in the same way. -/
theorem folding_keeps_meaning_goodDay :
    ((builtin.compileTokens false sideBySide .empty).1 = .ok [goodDay "sconcat"] ∧
      (builtin.compileTokens true sideBySide .empty).1 =
        .ok [.literal (.string "good day" .unknown)] ∧
      Interchangeable builtin (Node.UpToFolding builtin) [goodDay "sconcat"]
        [.literal (.string "good day" .unknown)]) ∧
    (builtin.compileTokens false indexed .empty).1 = .ok [goodDay "array_get"] ∧
      (builtin.compileTokens true indexed .empty).1 =
        .error (.fold "array_get" ⟨.notIndex "day", .unknown⟩) ∧
      ∃ args loc, Node.Offending builtin [goodDay "array_get"] (.call "array_get" args loc) ∧
        ∀ fuel depth w, Node.eval builtin (fuel + 2) depth (.call "array_get" args loc) w =
          (.error (.halt (.failure ⟨.notIndex "day", .unknown⟩)), w) := by
  constructor
  · have hparse : (builtin.compileTokens false sideBySide .empty).1 = .ok [goodDay "sconcat"] :=
      compileTokens_false_eq_ok.2 parse_sideBySide
    have hfold : (builtin.compileTokens true sideBySide .empty).1 =
        .ok [.literal (.string "good day" .unknown)] := by
      rw [compileTokens_true parse_sideBySide]
      simp only [goodDay, Node.foldAll, Node.fold, Node.foldCall, Node.foldable?, find?_sconcat]
      rfl
    exact ⟨hparse, hfold, (folding_keeps_meaning hparse .empty).1 _ hfold⟩
  · have hparse : (builtin.compileTokens false indexed .empty).1 = .ok [goodDay "array_get"] :=
      compileTokens_false_eq_ok.2 parse_indexed
    have hfold : (builtin.compileTokens true indexed .empty).1 =
        .error (.fold "array_get" ⟨.notIndex "day", .unknown⟩) := by
      rw [compileTokens_true parse_indexed]
      simp only [goodDay, Node.foldAll, Node.fold, Node.foldCall, Node.foldable?, find?_arrayGet]
      rfl
    exact ⟨hparse, hfold, (folding_keeps_meaning hparse .empty).2 _ _ hfold⟩

end Library

end CommandScript
