import CommandScript.Proofs.Exact
import CommandScript.Proofs.Layer
import CommandScript.Proofs.Builtin

/-!
# Script variables that count up and down

A script variable that counts as an integer is changed by an amount that does. Counting up is a sum
that is stored; counting down changes the sign of the amount first, and is then a sum as well. So it
is the difference, except that the least integer has no opposite: by that amount nothing can be
counted down, not even where the difference is in range.

## Main definitions

* `CommandScript.Entry.Follows` — a step of a script variable that gives and stores what a function
  of two values gives, and fails where that does.

## Main results

* `CommandScript.Form.runStep_of_ok`, `CommandScript.Form.runStep_of_error` — the two ends of a
  step.
* `CommandScript.Entry.follows_of_exact` — a step that is exact follows a function that is.
* `CommandScript.Builtin.steps_follow_arithmetic` — counting up is addition, and counting down is
  subtraction but for the least integer.
-/

namespace CommandScript

open Decimal (inRange)

variable {why : String → Option String}

/-! ## The ends of a step -/

namespace Form

variable {f : Form} {ev : Node → Run Value} {loc l : Location} {name : String} {args : List Node}
  {w u : World} {v : Value} {amount change current next : Number} {c : Cause}

/-- A step that finds its amount goes on with the sign of that amount. -/
lemma runStep_of_amount (hamount : amountOf ev loc (.ivar name l :: args) w = (.ok amount, u)) :
    f.runStep ev loc (.ivar name l :: args) w = (do
      let change ← Run.ofExcept loc (f.signed amount)
      let current ← currentOf loc name
      let next ← Run.ofExcept loc (current.add f.name change)
      Run.modifyEnv (·.setIvar name (next.toValue loc))
      return next.toValue loc : Run Value) u := by
  rw [runStep_eq]
  exact bind_of_ok hamount

/-- The current value of a script variable that is bound to a number. -/
lemma currentOf_of_number (hvar : u.env.ivar? name = some v) (hv : v.number = .ok current) :
    currentOf loc name u = (.ok current, u) := by
  rw [currentOf, bind_of_ok (Run.env_apply u), hvar]
  dsimp only
  rw [hv]
  rfl

/-- A step whose sum is defined gives it and stores it. -/
lemma runStep_of_ok (hamount : amountOf ev loc (.ivar name l :: args) w = (.ok amount, u))
    (hvar : u.env.ivar? name = some v) (hv : v.number = .ok current)
    (hsign : f.signed amount = .ok change) (hsum : current.add f.name change = .ok next) :
    f.runStep ev loc (.ivar name l :: args) w =
      (.ok (next.toValue loc), { u with env := u.env.setIvar name (next.toValue loc) }) := by
  rw [runStep_of_amount hamount, hsign]
  change (currentOf loc name >>= _ : Run Value) u = _
  rw [bind_of_ok (currentOf_of_number hvar hv), hsum]
  rfl

/-- A step fails where the sign of its amount cannot be changed, or where the sum is not defined,
and then stores nothing. -/
lemma runStep_of_error (hamount : amountOf ev loc (.ivar name l :: args) w = (.ok amount, u))
    (hvar : u.env.ivar? name = some v) (hv : v.number = .ok current)
    (h : (f.signed amount >>= current.add f.name) = .error c) :
    f.runStep ev loc (.ivar name l :: args) w = (.error (.halt (.failure ⟨c, loc⟩)), u) := by
  rw [runStep_of_amount hamount]
  cases hsign : f.signed amount with
  | error c' =>
    rw [hsign] at h
    obtain rfl : c' = c := Except.error.inj h
    rfl
  | ok change =>
    rw [hsign] at h
    change (currentOf loc name >>= _ : Run Value) u = _
    rw [bind_of_ok (currentOf_of_number hvar hv)]
    change current.add f.name change = .error c at h
    rw [h]
    rfl

end Form

/-! ## Steps that follow a function of two values -/

/-- A step of a script variable that follows a function: it gives what the function gives, stores
that in the variable and changes nothing else in the world `u` in which its amount was found; and it
fails because of the range where the function does, and changes nothing at all. One of the two is
the case. -/
structure Entry.Follows (op : Entry) (loc : Location) (args : List Value) (name : String)
    (u : World) (out : Except Stop Value × World) : Prop where
  gives : ∀ r, out = (.ok r, { u with env := u.env.setIvar name r }) ↔ op.Answers loc args r
  refuses : (∃ c : Cause, c.kind = .range ∧ out = (.error (.halt (.failure ⟨c, loc⟩)), u)) ↔
    op.Refuses loc args .range
  ends : (∃ r, op.Answers loc args r) ∨ op.Refuses loc args .range

namespace Entry

variable {op : Entry} {loc : Location} {args : List Value} {name : String} {u : World}
  {out : Except Stop Value × World} {z : Int}

/-- A step that gives and stores an integer as far as it is in range follows a function that gives
that integer as far as it is in range. -/
lemma follows_of_exact (hop : op.IsExact loc args z (inRange z = true))
    (hok : ∀ i : Int64, i.toInt = z →
      out = (.ok (.int i loc), { u with env := u.env.setIvar name (.int i loc) }))
    (herror : ¬ inRange z = true → ∃ c : Cause, c.kind = .range ∧
      out = (.error (.halt (.failure ⟨c, loc⟩)), u)) : op.Follows loc args name u out := by
  by_cases hz : inRange z = true
  · obtain ⟨i, hi, hanswer⟩ := hop.gives hz
    have hout := hok i hi
    refine ⟨fun r => ⟨fun h => ?_, fun h => ?_⟩, ⟨?_, fun h => ?_⟩, .inl ⟨_, hanswer⟩⟩
    · obtain rfl : Value.int i loc = r := Except.ok.inj (Prod.mk.inj (hout.symm.trans h)).1
      exact hanswer
    · rw [h.unique hanswer, hout]
    · rintro ⟨c, -, h⟩
      cases (Prod.mk.inj (hout.symm.trans h)).1
    · exact absurd h (hanswer.not_refuses .range)
  · obtain ⟨c, hc, hout⟩ := herror hz
    have hrefuses := hop.refuses hz
    refine ⟨fun r => ⟨fun h => ?_, fun h => ?_⟩, ⟨fun _ => hrefuses, fun _ => ⟨c, hc, hout⟩⟩,
      .inr hrefuses⟩
    · cases (Prod.mk.inj (hout.symm.trans h)).1
    · exact absurd hrefuses (h.not_refuses .range)

end Entry

namespace Form

variable {ev : Node → Run Value} {loc l : Location} {name : String} {args : List Node}
  {w u : World} {v : Value} {m k : Int64}

/-- Counting up gives and stores the sum as far as it is in range. -/
lemma increment_follows {op : Entry} {values : List Value}
    (hamount : amountOf ev loc (.ivar name l :: args) w = (.ok (.int k), u))
    (hvar : u.env.ivar? name = some v) (hv : v.number = .ok (.int m))
    (hop : op.IsExact loc values (m.toInt + k.toInt) (inRange (m.toInt + k.toInt) = true)) :
    op.Follows loc values name u (increment.runStep ev loc (.ivar name l :: args) w) := by
  refine Entry.follows_of_exact hop (fun i hi => ?_) fun hz => ⟨.overflow "inc", rfl, ?_⟩
  · have hz : inRange (m.toInt + k.toInt) = true := hi ▸ Number.inRange_toInt i
    obtain ⟨j, hj, hexact⟩ := Number.exact_of_inRange "inc" hz
    obtain rfl : i = j := Int64.toInt_inj.1 (hi.trans hj.symm)
    have hsign : increment.signed (.int k) = .ok (.int k) := rfl
    have hsum : (Number.int m).add "inc" (.int k) = .ok (.int i) := hexact
    have hstep := runStep_of_ok hamount hvar hv hsign hsum
    exact hstep
  · exact runStep_of_error hamount hvar hv (Number.exact_of_not_inRange "inc" hz)

/-- Every integer but the least one has an opposite. -/
lemma inRange_neg (k : Int64) : inRange (-k.toInt) = true ↔ k.toInt ≠ -2 ^ 63 := by
  have hlow := k.le_toInt
  have hhigh := k.toInt_lt
  rw [Number.inRange_iff]
  omega

/-- Counting down by the least integer fails. -/
lemma decrement_of_least (hamount : amountOf ev loc (.ivar name l :: args) w = (.ok (.int k), u))
    (hvar : u.env.ivar? name = some v) (hv : v.number = .ok (.int m)) (hk : k.toInt = -2 ^ 63) :
    decrement.runStep ev loc (.ivar name l :: args) w =
      (.error (.halt (.failure ⟨.overflow "dec", loc⟩)), u) := by
  have hsign : decrement.signed (.int k) = .error (.overflow "dec") :=
    Number.exact_of_not_inRange "dec" fun h => (inRange_neg k).1 h hk
  exact runStep_of_error hamount hvar hv (by rw [hsign]; rfl)

/-- Counting down by any other integer gives and stores the difference as far as it is in range. -/
lemma decrement_follows {op : Entry} {values : List Value}
    (hamount : amountOf ev loc (.ivar name l :: args) w = (.ok (.int k), u))
    (hvar : u.env.ivar? name = some v) (hv : v.number = .ok (.int m)) (hk : k.toInt ≠ -2 ^ 63)
    (hop : op.IsExact loc values (m.toInt - k.toInt) (inRange (m.toInt - k.toInt) = true)) :
    op.Follows loc values name u (decrement.runStep ev loc (.ivar name l :: args) w) := by
  obtain ⟨opposite, hopposite, hsign⟩ := Number.exact_of_inRange "dec" ((inRange_neg k).2 hk)
  have hsum :
      (Number.int m).add "dec" (.int opposite) = Number.exact "dec" (m.toInt - k.toInt) := by
    rw [Int.sub_eq_add_neg, ← hopposite]
    rfl
  change decrement.signed (.int k) = .ok (.int opposite) at hsign
  refine Entry.follows_of_exact hop (fun i hi => ?_) fun hz => ⟨.overflow "dec", rfl, ?_⟩
  · have hz : inRange (m.toInt - k.toInt) = true := hi ▸ Number.inRange_toInt i
    obtain ⟨j, hj, hexact⟩ := Number.exact_of_inRange "dec" hz
    obtain rfl : i = j := Int64.toInt_inj.1 (hi.trans hj.symm)
    have hstep := runStep_of_ok hamount hvar hv hsign (hsum.trans hexact)
    exact hstep
  · refine runStep_of_error hamount hvar hv ?_
    rw [hsign]
    exact hsum.trans (Number.exact_of_not_inRange "dec" hz)

/-- The amount of a step is the integer that its second argument counts as. -/
lemma amountOf_of_counts {n : Node} {b : Value} {target : Node} (hn : ev n w = (.ok b, u))
    (hb : b.number = .ok (.int k)) : amountOf ev loc [target, n] w = (.ok (.int k), u) := by
  change (ev n >>= fun v => Run.ofExcept loc v.number) w = _
  rw [bind_of_ok hn, hb]
  rfl

/-- A step without an amount is one by one. -/
lemma runStep_one {f : Form} {target n : Node} {loc' : Location}
    (hn : ∀ w, ev n w = (.ok (.int 1 loc'), w)) :
    f.runStep ev loc [target] = f.runStep ev loc [target, n] := by
  have hamount : amountOf ev loc [target] = amountOf ev loc [target, n] := by
    funext w
    exact (amountOf_of_counts (hn w) rfl).symm
  rw [runStep_eq, runStep_eq, hamount]
  rfl

end Form

/-- A call of a special form for steps takes its step. -/
lemma Node.eval_step {lib : Library} {e : Entry} {f : Form} {name : String} (fuel depth : Nat)
    (args : List Node) (loc : Location) (w : World) (hname : isProcedureName name = false)
    (he : lib.find? name = some e) (hfree : e.restricted = false)
    (haccepts : e.arity.accepts args.length = true)
    (hstep : ∀ ev, apply lib ev fuel depth e.behaviour args loc = f.runStep (ev depth) loc args) :
    eval lib (fuel + 1) depth (call name args loc) w =
      f.runStep (eval lib fuel depth) loc args w := by
  rw [eval_call, runCall_apply hname he, if_pos haccepts, hfree, hstep]
  rfl

namespace Library

lemma find?_inc : (builtin why).find? "inc" = some Builtin.inc := by
  rw [find?_builtin]
  rfl

lemma find?_dec : (builtin why).find? "dec" = some Builtin.dec := by
  rw [find?_builtin]
  rfl

end Library

namespace Builtin

/-- The sum of two integers is exact as far as it is in range. -/
lemma isExact_add_two {a a' : Value} {x y : Int} (loc : Location) (ha : a.Counts x)
    (ha' : a'.Counts y) : add.IsExact loc [a, a'] (x + y) (inRange (x + y) = true) := by
  have h := isExact_add loc (.cons ha (.cons ha' .nil))
  have hsum : [x, y].sum = x + y := by simp
  have hfits : (∀ p, p <+: [x, y] → inRange p.sum = true) ↔ inRange (x + y) = true := by
    constructor
    · intro hall
      rw [← hsum]
      exact hall [x, y] List.prefix_rfl
    · intro hxy p hp
      obtain ⟨m, rfl, -⟩ := Value.counts_iff.1 ha
      rw [List.prefix_cons_iff] at hp
      simp only [List.prefix_cons_iff, List.prefix_nil] at hp
      obtain rfl | ⟨_, rfl, rfl | ⟨_, rfl, rfl⟩⟩ := hp
      · decide
      · simpa using Number.inRange_toInt m
      · rwa [hsum]
  rwa [hsum, hfits] at h

variable {fuel depth : Nat} {name : String} {n : Node} {w u : World} {v b a a' : Value} {x y : Int}

/-- Counting up by an amount that counts as an integer follows addition. -/
lemma inc_follows {lib : Library} (hlib : lib.find? "inc" = some inc) (l loc : Location)
    (hn : Node.eval lib fuel depth n w = (.ok b, u)) (hb : b.Counts y)
    (hu : u.env.ivar? name = some v) (hv : v.Counts x) (ha : a.Counts x) (ha' : a'.Counts y) :
    add.Follows loc [a, a'] name u
      (Node.eval lib (fuel + 1) depth (.call "inc" [.ivar name l, n] loc) w) := by
  have hop := isExact_add_two loc ha ha'
  obtain ⟨m, rfl, hm⟩ := Value.counts_iff.1 hv
  obtain ⟨k, rfl, hk⟩ := Value.counts_iff.1 hb
  rw [Node.eval_step (f := .increment) fuel depth _ loc w (by decide) hlib rfl rfl fun _ => rfl]
  exact Form.increment_follows (Form.amountOf_of_counts hn hk) hu hm hop

/-- Counting down by an amount that counts as the least integer fails. -/
lemma dec_of_least {lib : Library} (hlib : lib.find? "dec" = some dec) (l loc : Location)
    (hn : Node.eval lib fuel depth n w = (.ok b, u)) (hb : b.Counts (-2 ^ 63))
    (hu : u.env.ivar? name = some v) (hv : v.Counts x) :
    Node.eval lib (fuel + 1) depth (.call "dec" [.ivar name l, n] loc) w =
      (.error (.halt (.failure ⟨.overflow "dec", loc⟩)), u) := by
  obtain ⟨m, rfl, hm⟩ := Value.counts_iff.1 hv
  obtain ⟨k, hleast, hk⟩ := Value.counts_iff.1 hb
  rw [Node.eval_step (f := .decrement) fuel depth _ loc w (by decide) hlib rfl rfl fun _ => rfl]
  exact Form.decrement_of_least (Form.amountOf_of_counts hn hk) hu hm hleast

/-- Counting down follows subtraction, unless the amount is the least integer and the difference is
in range all the same. -/
lemma dec_follows_iff {lib : Library} (hlib : lib.find? "dec" = some dec) (l loc : Location)
    (hn : Node.eval lib fuel depth n w = (.ok b, u)) (hb : b.Counts y)
    (hu : u.env.ivar? name = some v) (hv : v.Counts x) (ha : a.Counts x) (ha' : a'.Counts y) :
    subtract.Follows loc [a, a'] name u
      (Node.eval lib (fuel + 1) depth (.call "dec" [.ivar name l, n] loc) w) ↔
      ¬ (x < 0 ∧ y = -2 ^ 63) := by
  have hop := isExact_subtract loc ha ha'
  obtain ⟨m, hx, hm⟩ := Value.counts_iff.1 hv
  have hlow := m.le_toInt
  constructor
  · -- the difference is in range, but the step fails
    rintro hfollows ⟨hneg, rfl⟩
    obtain ⟨i, -, hanswer⟩ := hop.gives (Number.inRange_iff.2 (by omega))
    have hstored := (hfollows.gives _).2 hanswer
    rw [dec_of_least hlib l loc hn hb hu hv] at hstored
    cases (Prod.mk.inj hstored).1
  · intro hne
    by_cases hy : y = -2 ^ 63
    · -- both fail
      subst hy
      rw [dec_of_least hlib l loc hn hb hu hv]
      refine Entry.follows_of_exact hop (fun i hi => ?_) fun _ => ⟨.overflow "dec", rfl, rfl⟩
      have hhigh := i.toInt_lt
      omega
    · obtain ⟨k, rfl, hk⟩ := Value.counts_iff.1 hb
      subst hx
      rw [Node.eval_step (f := .decrement) fuel depth _ loc w (by decide) hlib rfl rfl fun _ => rfl]
      exact Form.decrement_follows (Form.amountOf_of_counts hn hk) hu hm hy hop

/-- Without an amount, variables count by one. -/
lemma eval_step_one {lib : Library} {e : Entry} {f : Form} {fname : String} (fuel depth : Nat)
    (target : Node) (loc loc' : Location) (hname : isProcedureName fname = false)
    (he : lib.find? fname = some e) (hfree : e.restricted = false)
    (haccepts : e.arity.accepts 1 = true ∧ e.arity.accepts 2 = true)
    (hstep : ∀ ev args, Node.apply lib ev (fuel + 1) depth e.behaviour args loc =
      f.runStep (ev depth) loc args) :
    Node.eval lib (fuel + 2) depth (.call fname [target] loc) =
      Node.eval lib (fuel + 2) depth (.call fname [target, .literal (.int 1 loc')] loc) := by
  funext w
  have hone := Node.eval_step (fuel + 1) depth [target] loc w hname he hfree haccepts.1
    fun ev => hstep ev _
  have hgiven := Node.eval_step (fuel + 1) depth [target, .literal (.int 1 loc')] loc w
    hname he hfree haccepts.2 fun ev => hstep ev _
  rw [hone, hgiven, Form.runStep_one (n := .literal (.int 1 loc')) fun _ => rfl]

/-- Counting up is addition, and counting down is subtraction but for the least integer.

A variable that is bound to a value that counts as an integer is changed by an expression whose
value counts as an integer, and whose evaluation leaves the variable alone. Counting up gives and
stores what addition gives, on these or any other values that count as the same integers, and fails
because of the range where addition does; then nothing is stored. Counting down follows subtraction
in the same way, unless a negative integer is counted down by the least integer; by the least
integer, counting down always fails. Without an amount, variables count by one. -/
theorem steps_follow_arithmetic (fuel depth : Nat) (l loc : Location) {name : String} {n : Node}
    {w u : World} {v b a a' : Value} {x y : Int}
    (hn : Node.eval (Library.builtin why) fuel depth n w = (.ok b, u)) (hb : b.Counts y)
    (hu : u.env.ivar? name = some v) (hv : v.Counts x) (ha : a.Counts x) (ha' : a'.Counts y) :
    add.Follows loc [a, a'] name u
      (Node.eval (Library.builtin why) (fuel + 1) depth (.call "inc" [.ivar name l, n] loc) w) ∧
    (subtract.Follows loc [a, a'] name u
      (Node.eval (Library.builtin why) (fuel + 1) depth (.call "dec" [.ivar name l, n] loc) w) ↔
        ¬ (x < 0 ∧ y = -2 ^ 63)) ∧
    (y = -2 ^ 63 →
      Node.eval (Library.builtin why) (fuel + 1) depth (.call "dec" [.ivar name l, n] loc) w =
        (.error (.halt (.failure ⟨.overflow "dec", loc⟩)), u)) ∧
    ∀ f ∈ ["inc", "dec"], ∀ fuel loc',
      Node.eval (Library.builtin why) (fuel + 2) depth (.call f [.ivar name l] loc) =
        Node.eval (Library.builtin why) (fuel + 2) depth
          (.call f [.ivar name l, .literal (.int 1 loc')] loc) := by
  have hinc := inc_follows Library.find?_inc l loc hn hb hu hv ha ha'
  have hdec := dec_follows_iff Library.find?_dec l loc hn hb hu hv ha ha'
  have hleast (hy : y = -2 ^ 63) := dec_of_least Library.find?_dec l loc hn (hy ▸ hb) hu hv
  refine ⟨hinc, hdec, hleast, fun f hf fuel loc' => ?_⟩
  simp only [List.mem_cons, List.not_mem_nil, or_false] at hf
  rcases hf with rfl | rfl
  · exact eval_step_one (f := .increment) fuel depth _ loc loc' (by decide) Library.find?_inc rfl
      ⟨rfl, rfl⟩ fun _ _ => rfl
  · exact eval_step_one (f := .decrement) fuel depth _ loc loc' (by decide) Library.find?_dec rfl
      ⟨rfl, rfl⟩ fun _ _ => rfl

/-- A world in which the script variable `x` is bound to a value. -/
def holding (v : Value) : World where
  env := { frame := Bindings.empty.insert "x" v }

/-- A text that counts as an integer, counted up by a truth value. -/
theorem steps_follow_arithmetic_text :
    (Value.string " 41" .unknown).Counts 41 ∧ (Value.boolean true .unknown).Counts 1 ∧
    Node.eval Library.builtin 2 0
        (.call "inc" [.ivar "x" .unknown, .literal (.boolean true .unknown)] .unknown)
        (holding (.string " 41" .unknown)) =
      (.ok (.int 42 .unknown), holding (.int 42 .unknown)) := by
  have htext : (Value.string " 41" .unknown).Counts 41 := .text (n := 41) (by decide +kernel) _
  have htruth : (Value.boolean true .unknown).Counts 1 := .boolean true _
  have hn : Node.eval Library.builtin 1 0 (.literal (.boolean true .unknown))
      (holding (.string " 41" .unknown)) =
        (.ok (.boolean true .unknown), holding (.string " 41" .unknown)) := rfl
  have hx : (holding (.string " 41" .unknown)).env.ivar? "x" = some (.string " 41" .unknown) := rfl
  have hfollows :=
    (steps_follow_arithmetic 1 0 .unknown .unknown hn htruth hx htext htext htruth).1
  obtain ⟨i, hi, hanswer⟩ := (isExact_add_two .unknown htext htruth).gives (by decide)
  obtain rfl : i = 42 := Int64.toInt_inj.1 hi
  exact ⟨htext, htruth, (hfollows.gives _).2 hanswer⟩

/-- Minus one less the least integer is the largest integer, but it cannot be counted down by that.
-/
theorem dec_of_minus_one :
    subtract.Gives .unknown [.int (-1) .unknown, .int Int64.minValue .unknown] (2 ^ 63 - 1) ∧
    Node.eval Library.builtin 2 0
        (.call "dec" [.ivar "x" .unknown, .literal (.int Int64.minValue .unknown)] .unknown)
        (holding (.int (-1) .unknown)) =
      (.error (.halt (.failure ⟨.overflow "dec", .unknown⟩)), holding (.int (-1) .unknown)) := by
  have hminus : (Value.int (-1) .unknown).Counts (-1) := .int (-1) _
  have hleast : (Value.int Int64.minValue .unknown).Counts (-2 ^ 63) := .int Int64.minValue _
  exact ⟨(isExact_subtract .unknown hminus hleast).gives (by decide),
    dec_of_least Library.find?_dec .unknown .unknown rfl hleast rfl hminus⟩

end Builtin

end CommandScript
