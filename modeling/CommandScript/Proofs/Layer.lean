import CommandScript.Proofs.Run

/-!
# What one layer of evaluation can do

A layer of evaluation (`CommandScript.Node.step`) is a run that may ask an evaluator for the values
of other expressions. This file says once what such a run is made of: quiet actions, questions to
the evaluator at the same level or, below the limit, one level deeper, frames around such
questions, and what loops and procedure calls take up. A property of evaluation then needs one
argument for each of these building blocks, and none for the single functions of the language.

A layer is looked at together with a second one that does the same on expressions related by `Q`.
Two layers on the same expressions are the case where `Q` is equality.

## Main definitions

* `CommandScript.Node.Congruence` — relations between expressions that special forms do not tell
  apart.
* `CommandScript.Halt.Closed`, `CommandScript.Library.HaltsIn` — ways to halt that a layer has only
  from the computations of its library.
* `CommandScript.Layer` — two runs that do the same, built from the same blocks.

## Main results

* `CommandScript.Node.step_layer` — one layer of evaluation, on the same sort of expression with
  related parts, is a `CommandScript.Layer`, unless it runs a command for a player.
-/

namespace CommandScript

/-! ## Related expressions -/

namespace Node

/-- An expression that no special form takes for a variable or an assignment. -/
structure Plain (n : Node) : Prop where
  ne_ivar : ∀ name loc, n ≠ ivar name loc
  ne_assign : ∀ args loc, n ≠ call "assign" args loc

/-- What a special form sees of two expressions without evaluating them is the same. -/
inductive Kin (Q : Node → Node → Prop) : Node → Node → Prop where
  | ivar (name : String) (loc : Location) : Kin Q (ivar name loc) (ivar name loc)
  | assign {args args' : List Node} (h : List.Forall₂ Q args args') (loc : Location) :
    Kin Q (call "assign" args loc) (call "assign" args' loc)
  | plain {n n' : Node} (loc : n'.loc = n.loc) (hn : n.Plain) (hn' : n'.Plain) : Kin Q n n'

/-- A relation between expressions that special forms do not tell apart. -/
structure Congruence (Q : Node → Node → Prop) : Prop where
  refl : ∀ n, Q n n
  kin : ∀ {n n'}, Q n n' → Kin Q n n'

/-- Two expressions of the same sort, with related parts. -/
inductive Similar (Q : Node → Node → Prop) : Node → Node → Prop where
  | literal (v : Value) : Similar Q (literal v) (literal v)
  | ivar (name : String) (loc : Location) : Similar Q (ivar name loc) (ivar name loc)
  | var (name : String) (loc : Location) : Similar Q (var name loc) (var name loc)
  | call (name : String) {args args' : List Node} (h : List.Forall₂ Q args args')
    (loc : Location) : Similar Q (call name args loc) (call name args' loc)

variable {Q : Node → Node → Prop}

/-- Related expressions are written at the same place. -/
lemma Kin.loc_eq {n n' : Node} (h : Kin Q n n') : n'.loc = n.loc := by
  cases h with
  | ivar => rfl
  | assign => rfl
  | plain loc => exact loc

/-- Special forms do not tell expressions of the same sort apart, if their parts are related. -/
lemma Similar.kin {n n' : Node} (h : Similar Q n n') : Kin Q n n' := by
  cases h with
  | literal v => exact .plain rfl ⟨by simp, by simp⟩ ⟨by simp, by simp⟩
  | ivar name loc => exact .ivar name loc
  | var name loc => exact .plain rfl ⟨by simp, by simp⟩ ⟨by simp, by simp⟩
  | call name h loc =>
    by_cases hname : name = "assign"
    · subst hname
      exact .assign h loc
    · exact .plain rfl ⟨by simp, by simp [hname]⟩ ⟨by simp, by simp [hname]⟩

/-- An expression is similar to itself. -/
lemma similar_refl (hQ : ∀ n, Q n n) (n : Node) : Similar Q n n := by
  cases n with
  | literal v => exact .literal v
  | ivar name loc => exact .ivar name loc
  | var name loc => exact .var name loc
  | call name args loc => exact .call name (List.forall₂_same.2 fun m _ => hQ m) loc

/-- Expressions of the same sort are so in either order. -/
lemma Similar.flip {n n' : Node} (h : Similar Q n n') : Similar (flip Q) n' n := by
  cases h with
  | literal v => exact .literal v
  | ivar name loc => exact .ivar name loc
  | var name loc => exact .var name loc
  | call name h loc => exact .call name h.flip loc

/-- A congruence is one in either order. -/
lemma Congruence.flip (hQ : Congruence Q) : Congruence (flip Q) where
  refl := hQ.refl
  kin := by
    intro n n' h
    cases hQ.kin h with
    | ivar name loc => exact .ivar name loc
    | assign hargs loc => exact .assign hargs.flip loc
    | plain loc hn hn' => exact .plain loc.symm hn' hn

/-- A part of a list of expressions has no more nodes than the list. -/
lemma size_le_sizeAll {n : Node} {ns : List Node} (h : n ∈ ns) : n.size ≤ sizeAll ns := by
  induction h with
  | head ns =>
    rw [sizeAll]
    omega
  | tail m _ ih =>
    rw [sizeAll]
    omega

/-- Equality is a congruence. -/
lemma congruence_eq : Congruence (Eq : Node → Node → Prop) where
  refl _ := rfl
  kin := by
    rintro n _ rfl
    exact (similar_refl (fun _ => rfl) n).kin

end Node

/-- Related lists have related elements at the same positions. -/
lemma forall₂_getElem? {α β : Type} {R : α → β → Prop} {as : List α} {bs : List β}
    (h : List.Forall₂ R as bs) (i : Nat) :
    as[i]? = none ∧ bs[i]? = none ∨ ∃ a b, as[i]? = some a ∧ bs[i]? = some b ∧ R a b := by
  induction h generalizing i with
  | nil => exact .inl ⟨rfl, rfl⟩
  | cons h _ ih =>
    cases i with
    | zero => exact .inr ⟨_, _, rfl, rfl, h⟩
    | succ i => simpa using ih i

/-! ## A step of a script variable, part by part -/

namespace Form

/-- The amount by which a script variable changes, which is one if it is not given. -/
def amountOf (ev : Node → Run Value) (loc : Location) (args : List Node) : Run Number :=
  match args[1]? with
  | some n => ev n >>= fun v => Run.ofExcept loc v.number
  | none => pure (.int 1)

/-- The number that a script variable stands for, which is zero if it has no value. -/
def currentOf (loc : Location) (name : String) : Run Number :=
  Run.env >>= fun e =>
    match e.ivar? name with
    | some v => Run.ofExcept loc v.number
    | none => pure (.int 0)

/-- The amount with the sign that the form gives it. -/
def signed (f : Form) (amount : Number) : Except Cause Number :=
  if f = decrement then amount.negate f.name else .ok amount

/-- A step finds the variable, the amount, its sign and the current value, and stores the sum. -/
lemma runStep_eq (f : Form) (ev : Node → Run Value) (loc : Location) (args : List Node) :
    f.runStep ev loc args = (do
      let name ← f.variableName 1 (← f.part args 0 loc)
      let amount ← amountOf ev loc args
      let change ← Run.ofExcept loc (f.signed amount)
      let current ← currentOf loc name
      let next ← Run.ofExcept loc (current.add f.name change)
      Run.modifyEnv (·.setIvar name (next.toValue loc))
      return next.toValue loc) := by
  have hsigned : ∀ (amount : Number) (k : Number → Run Value),
      Run.ofExcept loc (f.signed amount) >>= k =
        if f = decrement then Run.ofExcept loc (amount.negate f.name) >>= k
        else pure amount >>= k := by
    intro amount k
    unfold signed
    split <;> rfl
  have hcurrent : ∀ (name : String) (k : Number → Run Value),
      currentOf loc name >>= k = Run.env >>= fun e =>
        match e.ivar? name with
        | some v => Run.ofExcept loc v.number >>= k
        | none => pure (.int 0) >>= k := by
    intro name k
    rw [currentOf, bind_assoc]
    congr! 2 with e
    split <;> rfl
  unfold runStep amountOf
  simp only [hsigned, hcurrent]
  congr! 4 with n name
  cases args[1]? with
  | none => rfl
  | some n => exact (bind_assoc _ _ _).symm

end Form

/-! ## The building blocks -/

/-- The environment with another innermost frame, which depends on the innermost frame only. -/
def Environment.OnlyFrame (f : Environment → Environment) : Prop :=
  ∃ g : Bindings Value → Bindings Value, ∀ e, f e = { e with frame := g e.frame }

/-- Setting up the frame of a procedure changes that frame only. -/
lemma Procedure.onlyFrame_setUp (p : Procedure) (values : List Value) (arguments : Value) :
    Environment.OnlyFrame (p.setUp values arguments) := by
  have hfold : ∀ (qs : List (String × Value)) (e : Environment),
      qs.foldl (fun e q => e.setIvar q.1 q.2) e =
        { e with frame := qs.foldl (fun f q => f.insert q.1 q.2) e.frame } := by
    intro qs
    induction qs with
    | nil => intro e; rfl
    | cons q qs ih => intro e; rw [List.foldl_cons, ih]; rfl
  refine ⟨fun f => ((p.bindings values).foldl (fun f q => f.insert q.1 q.2) f).insert
    "arguments" arguments, fun e => ?_⟩
  unfold Procedure.setUp
  rw [hfold]
  rfl

/-- Ways to halt that only a computation of a library may leave: among them are all failures and the
end of the script, and with a break for some loops also the one for one loop less. -/
class Halt.Closed (H : Halt → Prop) : Prop where
  failure : ∀ f, H (.failure f)
  cancel : H (.signal .cancel)
  fewer : ∀ n, 1 < n → H (.signal (.breakLoop n)) → H (.signal (.breakLoop (n - 1)))

/-- All ways to halt. -/
def Halt.Any : Halt → Prop := fun _ => True

instance : Halt.Closed Halt.Any := ⟨fun _ => trivial, trivial, fun _ _ _ => trivial⟩

/-- The computations of a library halt in the ways `H` only. -/
def Library.HaltsIn (lib : Library) (H : Halt → Prop) : Prop :=
  ∀ name e, lib.find? name = some e → ∀ c, e.behaviour = .compute c → ∀ loc args,
    (c.run loc args).HaltsIn H

lemma Library.haltsIn_any (lib : Library) : lib.HaltsIn Halt.Any :=
  fun _ _ _ _ _ _ _ _ _ _ => trivial

/-- Two runs that ask an evaluator and otherwise do the same, inside `depth` calls. Their results
are related by `R`. They run commands for players only if `C` holds, and the first one halts of its
own in the ways `H` only. -/
inductive Layer (C : Prop) (H : Halt → Prop) (Q : Node → Node → Prop) (depth : Nat) :
    {α β : Type} → (α → β → Prop) → (Evaluator → Run α) → (Evaluator → Run β) → Prop where
  /-- Quiet runs that do the same. -/
  | act {α β : Type} {R : α → β → Prop} {x : Run α} {y : Run β} (quiet : x.Quiet)
    (sim : Run.Simulates Q R x y) (keeps : x.Keeps (fun _ => True) H) :
    Layer C H Q depth R (fun _ => x) (fun _ => y)
  /-- The first run is out of fuel. -/
  | spent {α β : Type} {R : α → β → Prop} (y : Evaluator → Run β) :
    Layer C H Q depth R (fun _ => Run.outOfFuel) y
  /-- A command for a player. -/
  | command (allowed : C) (loc : Location) (values : List Value) :
    Layer C H Q depth Eq (fun _ => Contact.run .runas loc values)
      (fun _ => Contact.run .runas loc values)
  /-- A question at the same level. -/
  | ask {n n' : Node} (h : Q n n') :
    Layer C H Q depth Eq (fun ev => ev depth n) (fun ev => ev depth n')
  /-- A question one level deeper, in the same frame. -/
  | enter {n n' : Node} (room : depth < maxCallDepth) (h : Q n n') :
    Layer C H Q depth Eq (fun ev => ev (depth + 1) n) (fun ev => ev (depth + 1) n')
  /-- A question one level deeper, in a frame of its own. -/
  | inFrame {n n' : Node} {setUp : Environment → Environment} (room : depth < maxCallDepth)
    (only : Environment.OnlyFrame setUp) (h : Q n n') :
    Layer C H Q depth Eq (fun ev => Run.inFrame setUp (ev (depth + 1) n))
      (fun ev => Run.inFrame setUp (ev (depth + 1) n'))
  /-- One run after another. -/
  | bind {α β γ δ : Type} {R : α → β → Prop} {S : γ → δ → Prop} {x : Evaluator → Run α}
    {y : Evaluator → Run β} {f : Evaluator → α → Run γ} {g : Evaluator → β → Run δ}
    (total : ∀ a, ∃ b, R a b) (hx : Layer C H Q depth R x y)
    (hf : ∀ a b, R a b → Layer C H Q depth S (fun ev => f ev a) (fun ev => g ev b)) :
    Layer C H Q depth S (fun ev => x ev >>= f ev) (fun ev => y ev >>= g ev)
  /-- One round of a loop. -/
  | round {x y : Evaluator → Run Value} (h : Layer C H Q depth Eq x y) :
    Layer C H Q depth Eq (fun ev => Run.round (x ev)) (fun ev => Run.round (y ev))
  /-- The end of a procedure call. -/
  | settle {x y : Evaluator → Run Value} (loc : Location) (h : Layer C H Q depth Eq x y) :
    Layer C H Q depth Eq (fun ev => Run.settle loc (x ev)) (fun ev => Run.settle loc (y ev))

/-! ## Small layers -/

namespace Layer

variable {C : Prop} {H : Halt → Prop} {Q : Node → Node → Prop} {depth : Nat} {α β γ δ : Type}
  {R : α → β → Prop} {S : γ → δ → Prop}

/-- One run after another that gives the same value. -/
lemma next {x y : Evaluator → Run α} {f : Evaluator → α → Run γ} {g : Evaluator → α → Run δ}
    (hx : Layer C H Q depth Eq x y)
    (hf : ∀ a, Layer C H Q depth S (fun ev => f ev a) (fun ev => g ev a)) :
    Layer C H Q depth S (fun ev => x ev >>= f ev) (fun ev => y ev >>= g ev) := by
  refine bind (fun a => ⟨a, rfl⟩) hx ?_
  rintro a _ rfl
  exact hf a

lemma pure {a : α} {b : β} (h : R a b) : Layer C H Q depth R (fun _ => pure a) (fun _ => pure b) :=
  act (.pure a) (.pure h) (.pure a)

lemma fail [Halt.Closed H] (loc : Location) (c : Cause) :
    Layer C H Q depth R (fun _ => Run.fail loc c) (fun _ => Run.fail loc c) :=
  act (.fail loc c) (.fail loc c) (.fail (Halt.Closed.failure _))

lemma ofExcept [Halt.Closed H] (loc : Location) (r : Except Cause α) :
    Layer C H Q depth Eq (fun _ => Run.ofExcept loc r) (fun _ => Run.ofExcept loc r) := by
  cases r with
  | ok a => exact pure rfl
  | error c => exact fail loc c

/-- A run that looks at the environment first. -/
lemma withEnv (hQ : Node.Congruence Q) {f : Evaluator → Environment → Run γ}
    {g : Evaluator → Environment → Run δ}
    (hf : ∀ e d, e.Alike Q d → Layer C H Q depth S (fun ev => f ev e) (fun ev => g ev d)) :
    Layer C H Q depth S (fun ev => Run.env >>= f ev) (fun ev => Run.env >>= g ev) :=
  bind (fun e => ⟨e, .refl hQ.refl e⟩) (act (.of_same fun _ => rfl) .env .env) hf

lemma textOf (v : Value) : Layer C H Q depth Eq (fun _ => Run.textOf v) (fun _ => Run.textOf v) :=
  act (.of_same fun _ => rfl) (.textOf v) (.textOf v)

lemma isTrue (v : Value) : Layer C H Q depth Eq (fun _ => Run.isTrue v) (fun _ => Run.isTrue v) :=
  act (.of_same fun _ => rfl) (.isTrue v) (.isTrue v)

lemma ofCompute {c : Compute α} (hc : c.HaltsIn H) :
    Layer C H Q depth Eq (fun _ => Run.ofCompute c) (fun _ => Run.ofCompute c) :=
  act (.ofCompute c) (.ofCompute c) (.ofCompute hc)

lemma setIvar (name : String) (v : Value) :
    Layer C H Q depth Eq (fun _ => Run.modifyEnv (·.setIvar name v))
      (fun _ => Run.modifyEnv (·.setIvar name v)) :=
  act (.setIvar name v) (.modifyEnv fun _ _ h => h.setIvar name v) (.setIvar name v)

lemma send (message : String) :
    Layer C H Q depth Eq (fun _ => Run.modifyEnv (·.send message))
      (fun _ => Run.modifyEnv (·.send message)) :=
  act (.send message) (.modifyEnv fun _ _ h => h.send message) (.send message)

/-- A check of the level, followed by what needs one level more. -/
lemma checkDepth [Halt.Closed H] (what : Nesting) (loc : Location) {x : Evaluator → Run α}
    {y : Evaluator → Run β}
    (h : depth < maxCallDepth → Layer C H Q depth R x y) :
    Layer C H Q depth R (fun ev => do checkDepth depth what loc; x ev)
      (fun ev => do CommandScript.checkDepth depth what loc; y ev) := by
  unfold CommandScript.checkDepth
  split
  · exact fail _ _
  · exact next (pure rfl) fun _ => h (by omega)

/-! ## Lists of expressions -/

/-- The values of related expressions. -/
lemma evalAll {ns ns' : List Node} (h : List.Forall₂ Q ns ns') :
    Layer C H Q depth Eq (fun ev => evalAll (ev depth) ns)
      (fun ev => CommandScript.evalAll (ev depth) ns') := by
  induction h with
  | nil => exact pure rfl
  | cons h _ ih =>
    exact next (ask h) fun v => next ih fun vs => pure rfl

/-- The values of related expressions, followed through slots. -/
lemma evalResolved {ns ns' : List Node} (h : List.Forall₂ Q ns ns') :
    Layer C H Q depth Eq (fun ev => evalResolved (ev depth) ns)
      (fun ev => CommandScript.evalResolved (ev depth) ns') :=
  next (evalAll h) fun _ => pure rfl

/-- The texts of the same expressions, one level deeper. -/
lemma evalTexts (hQ : ∀ n, Q n n) (room : depth < maxCallDepth) (ns : List Node) :
    Layer C H Q depth Eq (fun ev => evalTexts (ev (depth + 1)) ns)
      (fun ev => CommandScript.evalTexts (ev (depth + 1)) ns) := by
  induction ns with
  | nil => exact pure rfl
  | cons n ns ih =>
    refine next (enter room (hQ n)) fun v => ?_
    cases v.isVoid with
    | true => exact ih
    | false =>
      exact next (textOf v) fun t => next ih fun ts => pure rfl

/-- Whether related expressions are all true, or all false. -/
lemma allAre (wanted : Bool) {ns ns' : List Node} (h : List.Forall₂ Q ns ns') :
    Layer C H Q depth Eq (fun ev => Form.allAre wanted (ev depth) ns)
      (fun ev => Form.allAre wanted (ev depth) ns') := by
  induction h with
  | nil => exact pure rfl
  | cons h _ ih =>
    refine next (ask h) fun v => next (isTrue v) fun b => ?_
    by_cases hb : b = wanted
    · simpa only [hb, if_true] using ih
    · simpa only [hb, if_false] using pure rfl

/-! ## Loops -/

/-- The rounds of a loop over values. -/
lemma rounds (name : String) {x y : Evaluator → Run Value} (h : Layer C H Q depth Eq x y)
    (vs : List Value) :
    Layer C H Q depth Eq
      (fun ev => Run.rounds (fun v => Run.modifyEnv (·.setIvar name v)) (x ev) vs)
      (fun ev => Run.rounds (fun v => Run.modifyEnv (·.setIvar name v)) (y ev) vs) := by
  induction vs with
  | nil => exact pure rfl
  | cons v vs ih =>
    refine next (setIvar name v) fun _ => next (round h) fun b => ?_
    cases b with
    | true => exact ih
    | false => exact pure rfl

/-- The rounds of a loop with a condition, where the second loop has at least as much fuel. -/
lemma roundsWhile {c c' s s' b b' : Evaluator → Run Value} (hc : Layer C H Q depth Eq c c')
    (hs : Layer C H Q depth Eq s s') (hb : Layer C H Q depth Eq b b') {fuel fuel' : Nat}
    (hf : fuel ≤ fuel') :
    Layer C H Q depth Eq (fun ev => Run.roundsWhile (c ev) (s ev) (b ev) fuel)
      (fun ev => Run.roundsWhile (c' ev) (s' ev) (b' ev) fuel') := by
  induction fuel generalizing fuel' with
  | zero => exact spent _
  | succ fuel ih =>
    obtain ⟨fuel', rfl⟩ : ∃ k, fuel' = k + 1 := ⟨fuel' - 1, by omega⟩
    refine next hc fun v => ?_
    refine next (isTrue v) fun t => ?_
    cases t with
    | false => exact pure rfl
    | true =>
      refine next (round hb) fun go => ?_
      cases go with
      | false => exact pure rfl
      | true => exact next hs fun _ => ih (by omega)

/-! ## Special forms -/

section Forms

variable [Halt.Closed H] {args args' : List Node} (hQ : Node.Congruence Q)
  (h : List.Forall₂ Q args args') (loc : Location)

include h in
/-- A run that takes an argument of a form first. -/
lemma withPart (f : Form) (i : Nat) {k : Evaluator → Node → Run γ} {k' : Evaluator → Node → Run δ}
    (hk : ∀ n n', Q n n' → Layer C H Q depth S (fun ev => k ev n) (fun ev => k' ev n')) :
    Layer C H Q depth S (fun ev => f.part args i loc >>= k ev)
      (fun ev => f.part args' i loc >>= k' ev) := by
  unfold Form.part
  obtain ⟨hn, hn'⟩ | ⟨n, n', hn, hn', hnn⟩ := forall₂_getElem? h i
  · rw [hn, hn']
    exact fail _ _
  · rw [hn, hn']
    exact hk n n' hnn

include h in
lemma runIf : Layer C H Q depth Eq (fun ev => Form.runIf (ev depth) loc args)
    (fun ev => Form.runIf (ev depth) loc args') := by
  refine withPart h loc .ifElse 0 fun n n' hn => next (ask hn) fun v =>
    next (isTrue v) fun b => ?_
  cases b with
  | true => exact withPart h loc .ifElse 1 fun m m' hm => ask hm
  | false =>
    simp only [Bool.false_eq_true, if_false]
    obtain ⟨hm, hm'⟩ | ⟨m, m', hm, hm', hmm⟩ := forall₂_getElem? h 2
    · rw [hm, hm']
      exact pure rfl
    · rw [hm, hm']
      exact ask hmm

include hQ in
/-- The name of the same variable. -/
lemma variableName (f : Form) (position : Nat) {n n' : Node} (h : Q n n') :
    Layer C H Q depth Eq (fun _ => f.variableName position n)
      (fun _ => f.variableName position n') := by
  cases hQ.kin h with
  | ivar name loc => exact pure rfl
  | assign _ loc => exact fail _ _
  | plain hl hn hn' =>
    have hv : ∀ {m : Node}, m.Plain →
        f.variableName position m = Run.fail m.loc (.notIvar position f.name) := by
      intro m hm
      cases m with
      | ivar name loc => exact absurd rfl (hm.ne_ivar name loc)
      | literal _ => rfl
      | var _ _ => rfl
      | call _ _ _ => rfl
    rw [hv hn, hv hn', hl]
    exact fail _ _

include hQ h

lemma runAssign : Layer C H Q depth Eq (fun ev => Form.runAssign (ev depth) loc args)
    (fun ev => Form.runAssign (ev depth) loc args') := by
  refine withPart h loc .assign 0 fun n n' hn => next (variableName hQ _ _ hn) fun name => ?_
  refine withPart h loc .assign 1 fun m m' hm => next (ask hm) fun v => ?_
  exact next (setIvar name v.resolved) fun _ => pure rfl

lemma runFor {fuel fuel' : Nat} (hf : fuel ≤ fuel') :
    Layer C H Q depth Eq (fun ev => Form.runFor (ev depth) fuel loc args)
      (fun ev => Form.runFor (ev depth) fuel' loc args') := by
  refine withPart h loc .forLoop 0 fun n n' hn => ?_
  cases hQ.kin hn with
  | ivar name l => exact fail _ _
  | assign ha l =>
    refine withPart h loc .forLoop 1 fun c c' hc => withPart h loc .forLoop 2 fun s s' hs =>
      withPart h loc .forLoop 3 fun b b' hb => next (ask hn) fun _ => ?_
    exact next (roundsWhile (ask hc) (ask hs) (ask hb) hf) fun _ => pure rfl
  | plain hl hp hp' =>
    -- neither of the two is an assignment, so both loops fail at the same place
    split
    · exact absurd rfl (hp.ne_assign _ _)
    · split
      · exact absurd rfl (hp'.ne_assign _ _)
      · rw [hl]
        exact fail _ _

lemma runForeach : Layer C H Q depth Eq (fun ev => Form.runForeach (ev depth) loc args)
    (fun ev => Form.runForeach (ev depth) loc args') := by
  refine withPart h loc .foreach 1 fun n n' hn => next (variableName hQ _ _ hn) fun name => ?_
  refine withPart h loc .foreach 2 fun b b' hb => withPart h loc .foreach 0 fun a a' ha =>
    next (ask ha) fun v => ?_
  cases v.resolved with
  | array r l =>
    have hget : Layer C H Q depth (World.Alike Q) (fun _ => get) (fun _ => get) :=
      act (.of_same fun _ => rfl) .get .get
    refine bind (fun w => ⟨w, .refl hQ.refl w⟩) hget fun w w' hw => ?_
    rw [hw.store]
    exact next (rounds name (ask hb) _) fun _ => pure rfl
  | _ => exact fail _ _

omit h in
/-- The same parameter of a procedure. -/
lemma parameter (position : Nat) {n n' : Node} (h : Q n n') :
    Layer C H Q depth Eq (fun ev => Form.parameter (ev depth) position n)
      (fun ev => Form.parameter (ev depth) position n') := by
  cases hQ.kin h with
  | ivar name l => exact pure rfl
  | assign ha l =>
    -- an assignment is a parameter only if it has two arguments
    match ha with
    | .nil => exact fail _ _
    | .cons _ .nil => exact fail _ _
    | .cons ht (.cons hd .nil) =>
      refine next (variableName hQ _ _ ht) fun name => ?_
      refine next (ask hd) fun v => ?_
      exact pure rfl
    | .cons _ (.cons _ (.cons _ _)) => exact fail _ _
  | plain hl hp hp' =>
    have hv : ∀ {m : Node} (ev : Node → Run Value), m.Plain →
        Form.parameter ev position m = Run.fail m.loc (.notParameter position) := by
      intro m ev hm
      unfold Form.parameter
      split
      · exact absurd rfl (hm.ne_ivar _ _)
      · exact absurd rfl (hm.ne_assign _ _)
      · rfl
    simp only [hv _ hp, hv _ hp', hl]
    exact fail _ _

omit h in
/-- The same parameters of a procedure. -/
lemma parameters (position : Nat) {ns ns' : List Node} (h : List.Forall₂ Q ns ns') :
    Layer C H Q depth Eq (fun ev => Form.parameters (ev depth) position ns)
      (fun ev => Form.parameters (ev depth) position ns') := by
  induction h generalizing position with
  | nil => exact pure rfl
  | cons h _ ih =>
    refine next (parameter hQ position h) fun p => ?_
    refine next (ih (position + 1)) fun ps => ?_
    exact pure rfl

lemma runProc : Layer C H Q depth Eq (fun ev => Form.runProc (ev depth) loc args)
    (fun ev => Form.runProc (ev depth) loc args') := by
  cases h with
  | nil => exact fail _ _
  | @cons n n' rest rest' hn hr =>
    have hlast := forall₂_getElem? hr (rest.length - 1)
    have hinit := List.forall₂_take (rest.length - 1) hr
    rw [← List.getLast?_eq_getElem?, hr.length_eq, ← List.getLast?_eq_getElem?] at hlast
    rw [← List.dropLast_eq_take, hr.length_eq, ← List.dropLast_eq_take] at hinit
    simp only [Form.runProc]
    obtain ⟨hb, hb'⟩ | ⟨b, b', hb, hb', hbb⟩ := hlast
    · rw [hb, hb']
      exact fail _ _
    · rw [hb, hb']
      refine next (ask hn) fun v => ?_
      refine next (textOf v) fun name => ?_
      by_cases hp : isProcedureName name
      · simp only [hp, if_true]
        refine next (parameters hQ 2 hinit) fun ps => ?_
        refine next (act (.define _) (.modifyEnv fun _ _ he => ?_) (.define _)) fun _ => pure rfl
        exact he.define ⟨rfl, rfl, hbb⟩
      · simp only [hp, Bool.false_eq_true, if_false, (hQ.kin hn).loc_eq]
        exact fail _ _

lemma runEval (lib : Library) : Layer C H Q depth Eq (fun ev => Form.runEval lib ev depth loc args)
    (fun ev => Form.runEval lib ev depth loc args') := by
  refine withPart h loc .eval 0 fun n n' hn => next (ask hn) fun v => ?_
  refine next (textOf v) fun t => ?_
  have hcompile : Layer C H Q depth Eq (fun _ => Run.ofCompile loc (lib.compile true t))
      (fun _ => Run.ofCompile loc (lib.compile true t)) :=
    act (.ofCompile loc _) (.ofCompile loc _) (.ofCompile loc Halt.Closed.failure)
  refine next hcompile fun ns => ?_
  refine checkDepth .eval loc fun room => next (evalTexts hQ.refl room ns) fun ts => ?_
  cases ts with
  | nil => exact pure rfl
  | cons t ts => exact pure rfl

omit hQ in
lemma amountOf : Layer C H Q depth Eq (fun ev => Form.amountOf (ev depth) loc args)
    (fun ev => Form.amountOf (ev depth) loc args') := by
  unfold Form.amountOf
  obtain ⟨hn, hn'⟩ | ⟨n, n', hn, hn', hnn⟩ := forall₂_getElem? h 1
  · rw [hn, hn']
    exact pure rfl
  · rw [hn, hn']
    refine next (ask hnn) fun v => ?_
    exact ofExcept loc _

omit h in
lemma currentOf (name : String) : Layer C H Q depth Eq (fun _ => Form.currentOf loc name)
    (fun _ => Form.currentOf loc name) := by
  refine withEnv hQ fun e e' he => ?_
  simp only [Environment.ivar?, he.frame]
  cases e.frame.get? name with
  | none => exact pure rfl
  | some v => exact ofExcept loc _

lemma runStep (f : Form) : Layer C H Q depth Eq (fun ev => f.runStep (ev depth) loc args)
    (fun ev => f.runStep (ev depth) loc args') := by
  simp only [Form.runStep_eq]
  refine withPart h loc f 0 fun n n' hn => next (variableName hQ _ _ hn) fun name => ?_
  refine next (amountOf h loc) fun amount => ?_
  refine next (ofExcept loc _) fun change => ?_
  refine next (currentOf hQ loc name) fun current => ?_
  refine next (ofExcept loc _) fun changed => ?_
  exact next (setIvar name _) fun _ => pure rfl

/-- A special form on related arguments, where the second has at least as much fuel. -/
lemma form (f : Form) (lib : Library) {fuel fuel' : Nat} (hf : fuel ≤ fuel') :
    Layer C H Q depth Eq (fun ev => f.run lib ev fuel depth loc args)
      (fun ev => f.run lib ev fuel' depth loc args') := by
  cases f with
  | assign => exact runAssign hQ h loc
  | forLoop => exact runFor hQ h loc hf
  | foreach => exact runForeach hQ h loc
  | proc => exact runProc hQ h loc
  | eval => exact runEval hQ h loc lib
  | ifElse => exact runIf h loc
  | conjunction =>
    refine next (allAre true h) fun b => ?_
    exact pure rfl
  | disjunction =>
    refine next (allAre false h) fun b => ?_
    exact pure rfl
  | increment => exact runStep hQ h loc .increment
  | decrement => exact runStep hQ h loc .decrement

end Forms

end Layer

/-! ## Calls -/

namespace Layer

variable {C : Prop} {H : Halt → Prop} [Halt.Closed H] {Q : Node → Node → Prop} {depth : Nat}
  {args args' : List Node} (h : List.Forall₂ Q args args')

include h in
/-- A call of a procedure. Both look up procedures with the same parameters and related bodies. -/
lemma callProcedure (hQ : Node.Congruence Q) (name : String) (loc : Location) :
    Layer C H Q depth Eq (fun ev => Node.callProcedure ev depth name args loc)
      (fun ev => Node.callProcedure ev depth name args' loc) := by
  refine withEnv hQ fun e e' he => ?_
  have hp := he.procedures name
  revert hp
  generalize e.procedures.get? name = p
  generalize e'.procedures.get? name = p'
  intro hp
  cases hp with
  | none => exact fail _ _
  | @some p p' hp =>
    refine next (evalResolved h) fun values => ?_
    refine checkDepth .procedures loc fun room => next (ofCompute (.newArray loc values))
      fun arguments => ?_
    have hset : p'.setUp values arguments = p.setUp values arguments := by
      unfold Procedure.setUp Procedure.bindings
      rw [hp.params]
    rw [hset]
    exact settle loc (inFrame room (p.onlyFrame_setUp values arguments) hp.body)

/-- A contact that is no command. -/
lemma contact (hQ : Node.Congruence Q) {c : Contact} (hc : c ≠ .runas) (loc : Location)
    (values : List Value) :
    Layer C H Q depth Eq (fun _ => c.run loc values) (fun _ => c.run loc values) := by
  cases c with
  | runas => exact absurd rfl hc
  | msg =>
    refine withEnv hQ fun e e' he => ?_
    rw [he.actor]
    split
    · exact fail _ _
    · refine next (textOf _) fun message => ?_
      exact next (send message) fun _ => pure rfl
  | player =>
    refine withEnv hQ fun e e' he => ?_
    rw [he.actor]
    cases e.actor with
    | none => exact pure rfl
    | some a => exact pure rfl
  | die =>
    have hraise : Layer C H Q depth (Eq (α := Value)) (fun _ => Run.raise .cancel)
        (fun _ => Run.raise .cancel) :=
      act (.of_same fun _ => rfl) (.raise _) (.raise Halt.Closed.cancel)
    cases values with
    | nil => exact hraise
    | cons v _ =>
      refine next (textOf v) fun message => ?_
      exact next (send message) fun _ => hraise

include h in
/-- What a function does, where a command needs the permission for commands. -/
lemma apply (hQ : Node.Congruence Q) (lib : Library) {fuel fuel' : Nat} (hf : fuel ≤ fuel')
    {b : Behaviour} (hb : b = .contact .runas → C)
    (hc : ∀ c, b = .compute c → ∀ loc values, (c.run loc values).HaltsIn H) (loc : Location) :
    Layer C H Q depth Eq (fun ev => Node.apply lib ev fuel depth b args loc)
      (fun ev => Node.apply lib ev fuel' depth b args' loc) := by
  cases b with
  | compute c =>
    simp only [Node.apply]
    split
    · exact next (evalResolved h) fun values => ofCompute (hc c rfl loc values)
    · exact next (evalAll h) fun values => ofCompute (hc c rfl loc values)
  | contact c =>
    refine next (evalResolved h) fun values => ?_
    by_cases hc : c = .runas
    · subst hc
      exact command (hb rfl) loc values
    · exact contact hQ hc loc values
  | form f => exact form hQ h loc f lib hf

end Layer

namespace Node

/-- An expression that runs a command for a player, if the actor is privileged. -/
def IsCommand (lib : Library) : Node → Prop
  | call name _ _ => isProcedureName name = false ∧
    ∃ e, lib.find? name = some e ∧ e.behaviour = .contact .runas
  | _ => False

variable {C : Prop} {H : Halt → Prop} {Q : Node → Node → Prop} {depth : Nat}

lemma eval_call (lib : Library) (fuel depth : Nat) (name : String) (args : List Node)
    (loc : Location) : eval lib (fuel + 1) depth (call name args loc) =
      runCall lib (eval lib fuel) fuel depth name args loc := rfl

/-- A call of a function first counts the arguments and looks at the privilege of the actor. -/
lemma runCall_apply {lib : Library} {name : String} {e : Entry}
    (hp : isProcedureName name = false) (he : lib.find? name = some e) (ev : Evaluator)
    (fuel depth : Nat) (args : List Node) (loc : Location) (w : World) :
    runCall lib ev fuel depth name args loc w =
      if e.arity.accepts args.length then
        if e.restricted && !w.env.privileged then
          (.error (.halt (.failure ⟨.notPermitted name, loc⟩)), w)
        else apply lib ev fuel depth e.behaviour args loc w
      else (.error (.halt (.failure ⟨.wrongCount name e.arity args.length, loc⟩)), w) := by
  simp only [runCall, hp, he, Bool.false_eq_true, if_false]
  cases e.arity.accepts args.length with
  | false => rfl
  | true =>
    simp only [Bool.not_true, Bool.false_eq_true, if_false, if_true]
    rw [bind_of_ok (Run.env_apply w)]
    split <;> rfl

/-- One layer of evaluation, on two expressions of the same sort with related parts, is made of
the building blocks. It runs a command only for an expression that is one, and halts of its own as
the computations of the library do.

**Proof sketch.** By the sort of the expression. A variable is read off the environment. A call of
a procedure evaluates its arguments and enters the body. A call of a function first checks that the
arguments are as many as it accepts and that the actor may call it, and then does what the function
does. -/
lemma step_layer [Halt.Closed H] (hQ : Congruence Q) {lib : Library} (hlib : lib.HaltsIn H)
    {fuel fuel' : Nat} (hf : fuel ≤ fuel') {n n' : Node} (h : Similar Q n n')
    (hC : n.IsCommand lib → C) :
    Layer C H Q depth Eq (fun ev => step lib ev fuel depth n)
      (fun ev => step lib ev fuel' depth n') := by
  cases h with
  | literal v => exact .pure rfl
  | ivar name loc =>
    refine .withEnv hQ fun e e' he => .pure ?_
    simp only [Environment.ivar?, he.frame]
  | var name loc =>
    refine .withEnv hQ fun e e' he => .pure ?_
    simp only [Environment.aliasD, he.aliases]
  | @call name args args' h loc =>
    simp only [step, runCall, h.length_eq]
    by_cases hp : isProcedureName name = true
    · simp only [hp, if_true]
      exact .callProcedure h hQ name loc
    · simp only [hp, Bool.false_eq_true, if_false]
      cases he : lib.find? name with
      | none => exact .fail _ _
      | some e =>
        have hb : e.behaviour = .contact .runas → C := fun hb => hC ⟨by simpa using hp, e, he, hb⟩
        dsimp only
        split
        · exact .fail _ _
        · refine .withEnv hQ fun d d' hd => ?_
          have hpriv : d'.privileged = d.privileged := by
            unfold Environment.privileged
            rw [hd.actor]
          rw [hpriv]
          by_cases hr : (e.restricted && !d.privileged) = true
          · simp only [hr, if_true]
            exact .fail _ _
          · simp only [hr, Bool.false_eq_true, if_false]
            exact .apply h hQ lib hf hb (hlib name e he) loc

/-- One layer of evaluation of an expression is made of the building blocks. -/
lemma step_layer_self [Halt.Closed H] {lib : Library} (hlib : lib.HaltsIn H) (fuel depth : Nat)
    (n : Node) :
    Layer (n.IsCommand lib) H Eq depth Eq (fun ev => step lib ev fuel depth n)
      (fun ev => step lib ev fuel depth n) :=
  step_layer congruence_eq hlib (Nat.le_refl fuel) (similar_refl (fun _ => rfl) n) id

end Node

end CommandScript
