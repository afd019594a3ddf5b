import CommandScript.Proofs.Loops

/-!
# Connectives and their duals

A connective tries conditions in order until one of them decides, and evaluates no other. What is
tried, and in which worlds, is said here without the evaluator of connectives. The opposite of the
dual connective of the opposites of the same conditions tries the same ones, in the same worlds, so
that it comes to the same end, whatever the conditions do.

## Main definitions

* `CommandScript.Tries` — conditions tried in order.
* `CommandScript.Node.Judges` — an expression whose evaluation is to try conditions.
* `CommandScript.Connective`, `CommandScript.Connective.dual` — the connectives.

## Main results

* `CommandScript.Tries.stopAt` — trying conditions ends where the evaluation of one of them does.
* `CommandScript.Node.Judges.starts_iff` — the evaluations that are started are those of the
  conditions that are tried.
* `CommandScript.Connective.tries_negated` — the opposites of conditions are tried as the conditions
  are.
* `CommandScript.Connective.de_morgan` — a connective and the opposite of its dual.
-/

namespace CommandScript

open Library (builtin)

variable {why : String → Option String}

/-! ## Conditions in order -/

/-- Conditions are tried in order until one of them is not as wanted. The relation gives the worlds
in which the conditions that are tried are evaluated, from the first one on, and what comes out:
whether all conditions were as wanted. -/
inductive Tries (ev : Node → Run Value) (wanted : Bool) :
    List Node → World → (worlds : List World) → Except Stop Bool × World → Prop where
  | nil (w : World) : Tries ev wanted [] w [] (.ok true, w)
  /-- A condition that stops. -/
  | stopped {n : Node} {w u : World} {e : Stop} (h : ev n w = (.error e, u)) (ns : List Node) :
    Tries ev wanted (n :: ns) w [w] (.error e, u)
  /-- A condition that is not as wanted. -/
  | unwanted {n : Node} {w u : World} {v : Value} (h : ev n w = (.ok v, u))
    (hv : v.isTrue u.store = !wanted) (ns : List Node) :
    Tries ev wanted (n :: ns) w [w] (.ok false, u)
  /-- A condition that is as wanted, so that the next one is tried. -/
  | next {n : Node} {w u : World} {v : Value} {ns : List Node} {worlds : List World}
    {out : Except Stop Bool × World} (h : ev n w = (.ok v, u)) (hv : v.isTrue u.store = wanted)
    (hrest : Tries ev wanted ns u worlds out) : Tries ev wanted (n :: ns) w (w :: worlds) out

lemma exists_tries (ev : Node → Run Value) (wanted : Bool) (ns : List Node) (w : World) :
    ∃ worlds out, Tries ev wanted ns w worlds out := by
  induction ns generalizing w with
  | nil => exact ⟨[], _, .nil w⟩
  | cons n ns ih =>
    rcases hn : ev n w with ⟨e | v, u⟩
    · exact ⟨_, _, .stopped hn ns⟩
    · by_cases hv : v.isTrue u.store = wanted
      · obtain ⟨worlds, out, hrest⟩ := ih u
        exact ⟨_, out, .next hn hv hrest⟩
      · exact ⟨_, _, .unwanted hn (Bool.eq_not_of_ne hv) ns⟩

namespace Tries

variable {ev ev' : Node → Run Value} {wanted : Bool} {ns : List Node} {w : World}
  {worlds : List World} {out : Except Stop Bool × World}

/-- A single condition that is not to hold. -/
lemma single {n : Node} {u : World} {v : Value} (h : ev n w = (.ok v, u)) :
    Tries ev false [n] w [w] (.ok (!v.isTrue u.store), u) := by
  cases hv : v.isTrue u.store with
  | true =>
    have hunwanted : v.isTrue u.store = !false := hv
    exact .unwanted h hunwanted []
  | false => exact .next h hv (.nil u)

lemma length_le (h : Tries ev wanted ns w worlds out) : worlds.length ≤ ns.length := by
  induction h with
  | nil => exact Nat.le_refl 0
  | stopped | unwanted => exact Nat.succ_le_succ (Nat.zero_le _)
  | next _ _ _ ih => exact Nat.succ_le_succ ih

/-- Trying conditions depends on those that are tried only. -/
lemma congr (h : Tries ev wanted ns w worlds out)
    (hsame : ∀ t ∈ ns.zip worlds, ev' t.1 t.2 = ev t.1 t.2) : Tries ev' wanted ns w worlds out := by
  induction h with
  | nil w => exact .nil w
  | stopped h ns => exact .stopped ((hsame _ (.head _)).trans h) ns
  | unwanted h hv ns => exact .unwanted ((hsame _ (.head _)).trans h) hv ns
  | next h hv _ ih =>
    rw [List.zip_cons_cons, List.forall_mem_cons] at hsame
    exact .next (hsame.1.trans h) hv (ih hsame.2)

/-- Conditions are tried so. -/
lemma allAre_eq (h : Tries ev wanted ns w worlds out) : Form.allAre wanted ev ns w = out := by
  have htruth : ∀ (v : Value) (u : World), Run.isTrue v u = (.ok (v.isTrue u.store), u) :=
    fun _ _ => rfl
  induction h with
  | nil => rfl
  | stopped h => exact bind_of_error h
  | @unwanted n w u v h hv =>
    have hne : v.isTrue u.store ≠ wanted := by simp [hv]
    rw [Form.allAre, bind_of_ok h, bind_of_ok (htruth v u), if_neg hne]
    rfl
  | @next n w u v ns worlds out h hv _ ih =>
    rw [Form.allAre, bind_of_ok h, bind_of_ok (htruth v u), if_pos hv, ih]

/-- If the evaluator stops at one of the conditions that are tried, then so does trying them. -/
lemma stopAt {ev : Evaluator} {depth : Nat} (h : Tries (ev depth) wanted ns w worlds out)
    {q : Moment} (hq : ∃ t ∈ ns.zip worlds, depth = q.depth ∧ t.1 = q.node ∧ t.2 = q.world)
    (mark : World) :
    Form.allAre wanted (ev.stopAt q mark depth) ns w = (.error .outOfFuel, mark) := by
  have hstop : ∀ n u, depth = q.depth ∧ n = q.node ∧ u = q.world →
      ev.stopAt q mark depth n u = (.error .outOfFuel, mark) := by
    rintro n u ⟨rfl, rfl, rfl⟩
    exact ev.stopAt_self q mark
  induction h with
  | nil =>
    obtain ⟨t, ht, -⟩ := hq
    cases ht
  | stopped | unwanted =>
    obtain ⟨t, ht, hmoment⟩ := hq
    rw [List.zip_cons_cons, List.zip_nil_right] at ht
    obtain rfl := List.mem_singleton.1 ht
    exact bind_of_error (hstop _ _ hmoment)
  | @next n w u v ns worlds out h hv _ ih =>
    by_cases hfirst : depth = q.depth ∧ n = q.node ∧ w = q.world
    · exact bind_of_error (hstop n w hfirst)
    · -- the first condition is as wanted, and it is a later one at which the evaluator stops
      have hrest : ∃ t ∈ ns.zip worlds, depth = q.depth ∧ t.1 = q.node ∧ t.2 = q.world := by
        obtain ⟨t, ht, hmoment⟩ := hq
        rcases List.mem_cons.1 ht with rfl | ht
        · exact absurd hmoment hfirst
        · exact ⟨t, ht, hmoment⟩
      have htruth : Run.isTrue v u = (.ok (v.isTrue u.store), u) := rfl
      rw [Form.allAre, bind_of_ok ((ev.stopAt_of_ne q mark hfirst).trans h), bind_of_ok htruth,
        if_pos hv, ih hrest]

end Tries

/-! ## Expressions that try conditions -/

namespace Node

/-- To evaluate an expression is to try conditions, and `value` is what it gives for what comes
out. -/
def Judges (lib : Library) (wanted : Bool) (ns : List Node) (value : Bool → Value) (n : Node) :
    Prop :=
  ∀ (ev : Evaluator) (fuel depth : Nat) (w : World), step lib ev fuel depth n w =
    (do return value (← Form.allAre wanted (ev depth) ns) : Run Value) w

namespace Judges

variable {lib : Library} {wanted : Bool} {ns : List Node} {value : Bool → Value} {n : Node}
  {fuel depth : Nat} {w : World} {worlds : List World} {out : Except Stop Bool × World}

lemma step_eq (h : n.Judges lib wanted ns value) {ev : Evaluator}
    (hout : Form.allAre wanted (ev depth) ns w = out) (fuel : Nat) :
    step lib ev fuel depth n w = (out.1.map value, out.2) := by
  rw [h]
  obtain ⟨e | all, u⟩ := out
  · exact bind_of_error hout
  · exact bind_of_ok hout

lemma eval_eq (h : n.Judges lib wanted ns value)
    (htries : Tries (eval lib fuel depth) wanted ns w worlds out) :
    eval lib (fuel + 1) depth n w = (out.1.map value, out.2) :=
  h.step_eq htries.allAre_eq fuel

/-- The evaluations that are started are those of the conditions that are tried. -/
lemma starts_iff (h : n.Judges lib wanted ns value)
    (htries : Tries (eval lib fuel depth) wanted ns w worlds out) {q : Moment} :
    Moment.Starts lib ⟨fuel + 1, depth, n, w⟩ q ↔
      ∃ t ∈ ns.zip worlds, q = ⟨fuel, depth, t.1, t.2⟩ := by
  constructor
  · intro hstarts
    obtain ⟨fuel', depth', n', w'⟩ := q
    obtain ⟨hfuel, hasks⟩ := hstarts
    obtain rfl : fuel = fuel' := Nat.succ.inj hfuel
    by_contra hnone
    obtain ⟨mark, hmark⟩ := hasks.exists_ne (out.1.map value, out.2)
    -- the conditions that are tried are evaluated as without the stop
    refine hmark (h.step_eq (htries.congr fun t ht => ?_).allAre_eq _)
    refine Evaluator.stopAt_of_ne _ _ mark fun hmoment => hnone ⟨t, ht, ?_⟩
    rw [Moment.mk.injEq]
    exact ⟨rfl, hmoment.1.symm, hmoment.2.1.symm, hmoment.2.2.symm⟩
  · rintro ⟨t, ht, rfl⟩
    refine ⟨rfl, fun mark => ?_⟩
    exact h.step_eq (htries.stopAt ⟨t, ht, rfl, rfl, rfl⟩ mark) fuel

end Judges

end Node

/-! ## The connectives -/

/-- The opposite of an expression. -/
def Node.negated (n : Node) (loc : Location) : Node := .call "not" [n] loc

/-- A connective of conditions. -/
inductive Connective where
  | conjunction
  | disjunction

namespace Connective

/-- The name of the function for a connective. -/
def name : Connective → String
  | conjunction => "and"
  | disjunction => "or"

/-- The other connective. -/
def dual : Connective → Connective
  | conjunction => disjunction
  | disjunction => conjunction

/-- What the conditions have to be for the next one to be tried. -/
def wanted : Connective → Bool
  | conjunction => true
  | disjunction => false

/-- Whether a connective holds, given whether all conditions were as wanted. -/
def verdict : Connective → Bool → Bool
  | conjunction, all => all
  | disjunction, all => !all

/-- A connective of some conditions. -/
def node (c : Connective) (ns : List Node) (loc : Location) : Node := .call c.name ns loc

/-- A library whose connectives are those of the language. -/
structure HasConnectives (lib : Library) : Prop where
  conjunction : lib.find? "and" = some Builtin.conjunction
  disjunction : lib.find? "or" = some Builtin.disjunction
  negation : lib.find? "not" = some Builtin.negation

lemma hasConnectives_builtin : HasConnectives (builtin why) where
  conjunction := by
    rw [Library.find?_builtin]
    rfl
  disjunction := by
    rw [Library.find?_builtin]
    rfl
  negation := by
    rw [Library.find?_builtin]
    rfl

variable {lib : Library}

lemma judges_node (hlib : HasConnectives lib) (c : Connective) (ns : List Node) (loc : Location) :
    (c.node ns loc).Judges lib c.wanted ns fun all => .boolean (c.verdict all) loc := by
  intro ev fuel depth w
  cases c with
  | conjunction =>
    rw [node, name, Node.step, Node.runCall_apply rfl hlib.conjunction]
    rfl
  | disjunction =>
    rw [node, name, Node.step, Node.runCall_apply rfl hlib.disjunction]
    rfl

/-- The opposite of an expression tries that expression. It follows slots first, which makes no
difference to a condition. -/
lemma judges_negated (hlib : HasConnectives lib) (n : Node) (loc : Location) :
    (n.negated loc).Judges lib false [n] fun all => .boolean all loc := by
  intro ev fuel depth w
  have hstep : Node.step lib ev fuel depth (n.negated loc) w =
      (evalResolved (ev depth) [n] >>= fun values =>
        Run.ofCompute (Builtin.opposite loc values)) w := by
    rw [Node.negated, Node.step, Node.runCall_apply rfl hlib.negation]
    rfl
  rw [hstep]
  rcases hn : ev depth n w with ⟨e | v, u⟩
  · have hvalues : evalResolved (ev depth) [n] w = (.error e, u) :=
      bind_of_error (bind_of_error hn)
    have hall : Form.allAre false (ev depth) [n] w = (.error e, u) := bind_of_error hn
    rw [bind_of_error hvalues, bind_of_error hall]
  · have hvalue : evalAll (ev depth) [n] w = (.ok [v], u) := (bind_of_ok hn).trans rfl
    have hvalues : evalResolved (ev depth) [n] w = (.ok [v.resolved], u) :=
      (bind_of_ok hvalue).trans rfl
    have hresolved : v.resolved.isTrue u.store = v.isTrue u.store := by
      rw [Value.isTrue, Value.isTrue, Value.resolved_resolved]
    have hopposite : Run.ofCompute (Builtin.opposite loc [v.resolved]) u =
        (.ok (.boolean (!v.isTrue u.store) loc), u) := by
      rw [← hresolved]
      rfl
    rw [bind_of_ok hvalues, hopposite, bind_of_ok (Tries.single hn).allAre_eq]
    rfl

variable {fuel depth : Nat} {w u : World} {n : Node}

lemma eval_negated_of_error (hlib : HasConnectives lib) {e : Stop}
    (h : Node.eval lib fuel depth n w = (.error e, u)) (loc : Location) :
    Node.eval lib (fuel + 1) depth (n.negated loc) w = (.error e, u) :=
  (judges_negated hlib n loc).eval_eq (.stopped h [])

lemma eval_negated_of_ok (hlib : HasConnectives lib) {v : Value}
    (h : Node.eval lib fuel depth n w = (.ok v, u)) (loc : Location) :
    Node.eval lib (fuel + 1) depth (n.negated loc) w =
      (.ok (.boolean (!v.isTrue u.store) loc), u) :=
  (judges_negated hlib n loc).eval_eq (.single h)

/-- The evaluation of the opposite of an expression starts that of the expression. -/
lemma starts_negated_iff (hlib : HasConnectives lib) {loc : Location} {q : Moment} :
    Moment.Starts lib ⟨fuel + 1, depth, n.negated loc, w⟩ q ↔ q = ⟨fuel, depth, n, w⟩ := by
  have hstarts : ∀ {out}, Tries (Node.eval lib fuel depth) false [n] w [w] out →
      (Moment.Starts lib ⟨fuel + 1, depth, n.negated loc, w⟩ q ↔ q = ⟨fuel, depth, n, w⟩) := by
    intro out htries
    rw [(judges_negated hlib n loc).starts_iff htries]
    simp
  rcases hn : Node.eval lib fuel depth n w with ⟨e | v, u⟩
  · exact hstarts (.stopped hn [])
  · exact hstarts (.single hn)

/-- The opposites of conditions are tried as the conditions are, in the same worlds. -/
lemma tries_negated (hlib : HasConnectives lib) {wanted : Bool} {cs : List (Node × Location)}
    {worlds : List World} {out : Except Stop Bool × World}
    (h : Tries (Node.eval lib fuel depth) wanted (cs.map Prod.fst) w worlds out) :
    Tries (Node.eval lib (fuel + 1) depth) (!wanted) (cs.map fun p => p.1.negated p.2) w worlds
      out := by
  induction cs generalizing w worlds with
  | nil =>
    cases h
    exact .nil w
  | cons p cs ih =>
    cases h with
    | stopped h => exact .stopped (eval_negated_of_error hlib h p.2) _
    | unwanted h hv => exact .unwanted (eval_negated_of_ok hlib h p.2) (congrArg not hv) _
    | next h hv hrest => exact .next (eval_negated_of_ok hlib h p.2) (congrArg not hv) (ih hrest)

/-! ## The opposite of the dual -/

/-- The opposite of the dual connective of the opposites of some conditions. Each condition is given
with the place of its opposite. -/
def negatedDual (c : Connective) (cs : List (Node × Location)) (inner outer : Location) : Node :=
  (c.dual.node (cs.map fun p => p.1.negated p.2) inner).negated outer

lemma wanted_dual (c : Connective) : c.dual.wanted = !c.wanted := by cases c <;> rfl

lemma not_verdict_dual (c : Connective) (all : Bool) : (!c.dual.verdict all) = c.verdict all := by
  cases c with
  | conjunction => exact Bool.not_not all
  | disjunction => rfl

variable {c : Connective} {cs : List (Node × Location)} {worlds : List World}
  {all : Except Stop Bool}

/-- The opposite of the dual gives what the connective gives. -/
lemma eval_negatedDual (hlib : HasConnectives lib)
    (h : Tries (Node.eval lib fuel depth) c.wanted (cs.map Prod.fst) w worlds (all, u))
    (inner outer : Location) :
    Node.eval lib (fuel + 3) depth (c.negatedDual cs inner outer) w =
      (all.map fun b => .boolean (c.verdict b) outer, u) := by
  have htries := tries_negated hlib h
  rw [← wanted_dual] at htries
  have hdual := (judges_node hlib c.dual _ inner).eval_eq htries
  cases all with
  | error e => exact eval_negated_of_error hlib hdual outer
  | ok b =>
    refine (eval_negated_of_ok hlib hdual outer).trans ?_
    have htruth : (Value.boolean (c.dual.verdict b) inner).isTrue u.store = c.dual.verdict b := rfl
    rw [htruth, not_verdict_dual]
    rfl

lemma exists_mem_zip_map {P : Node × World → Prop} (f : Node × Location → Node) :
    (∃ t ∈ (cs.map f).zip worlds, P t) ↔ ∃ t ∈ cs.zip worlds, P (f t.1, t.2) := by
  rw [List.zip_map_left]
  simp only [List.mem_map, exists_exists_and_eq_and]
  rfl

/-- The opposite of the dual evaluates the conditions that the connective evaluates, two layers
further in. -/
lemma starts_negatedDual_iff (hlib : HasConnectives lib)
    (h : Tries (Node.eval lib fuel depth) c.wanted (cs.map Prod.fst) w worlds (all, u))
    {inner outer : Location} {q : Moment} :
    (∃ p r, Moment.Starts lib ⟨fuel + 3, depth, c.negatedDual cs inner outer, w⟩ p ∧
      Moment.Starts lib p r ∧ Moment.Starts lib r q) ↔
        ∃ t ∈ (cs.map Prod.fst).zip worlds, q = ⟨fuel, depth, t.1, t.2⟩ := by
  have htries := tries_negated hlib h
  rw [← wanted_dual] at htries
  -- of the dual, the opposites of the conditions are tried
  have hdual : ∀ r, Moment.Starts lib
      ⟨fuel + 2, depth, c.dual.node (cs.map fun p => p.1.negated p.2) inner, w⟩ r ↔
        ∃ t ∈ cs.zip worlds, r = ⟨fuel + 1, depth, t.1.1.negated t.1.2, t.2⟩ := by
    intro r
    rw [(judges_node hlib c.dual _ inner).starts_iff htries]
    exact exists_mem_zip_map fun p => p.1.negated p.2
  rw [exists_mem_zip_map Prod.fst]
  constructor
  · rintro ⟨p, r, hp, hr, hq⟩
    obtain rfl := (starts_negated_iff hlib).1 hp
    obtain ⟨t, ht, rfl⟩ := (hdual r).1 hr
    exact ⟨t, ht, (starts_negated_iff hlib).1 hq⟩
  · rintro ⟨t, ht, rfl⟩
    exact ⟨_, _, (starts_negated_iff hlib).2 rfl, (hdual _).2 ⟨t, ht, rfl⟩,
      (starts_negated_iff hlib).2 rfl⟩

/-- A boolean is the same at every place. -/
lemma map_boolean_congr {out : Except Stop Bool} {f : Bool → Bool} {l : Location}
    (h : (all.map fun b => Value.boolean (f b) l) = out.map (Value.boolean · l)) (l' : Location) :
    (all.map fun b => Value.boolean (f b) l') = out.map (Value.boolean · l') := by
  cases all <;> cases out <;> simp_all [Except.map]

lemma map_boolean_ne_outOfFuel {out : Except Stop Bool} (h : out ≠ .error .outOfFuel)
    (l : Location) : out.map (Value.boolean · l) ≠ .error .outOfFuel := by
  cases out <;> simp_all [Except.map]

/-- A connective of some conditions, and the opposite of the dual connective of their opposites.
With fuel for two layers more, the second evaluates the same conditions as the first, in the same
worlds, gives the same boolean or stops in the same way, and leaves the same world: the same
variables, arrays, messages and commands. So the two come to an end together, and to the same. -/
theorem de_morgan (c : Connective) (cs : List (Node × Location)) (loc inner outer : Location)
    (depth : Nat) (w : World) :
    (∀ fuel, ∃ worlds all u,
      Tries (Node.eval (builtin why) fuel depth) c.wanted (cs.map Prod.fst) w worlds (all, u) ∧
      worlds.length ≤ cs.length ∧
      Node.eval (builtin why) (fuel + 1) depth (c.node (cs.map Prod.fst) loc) w =
        (all.map fun b => .boolean (c.verdict b) loc, u) ∧
      Node.eval (builtin why) (fuel + 3) depth (c.negatedDual cs inner outer) w =
        (all.map fun b => .boolean (c.verdict b) outer, u) ∧
      (∀ q, Moment.Starts (builtin why) ⟨fuel + 1, depth, c.node (cs.map Prod.fst) loc, w⟩ q ↔
        ∃ t ∈ (cs.map Prod.fst).zip worlds, q = ⟨fuel, depth, t.1, t.2⟩) ∧
      ∀ q, (∃ p r,
          Moment.Starts (builtin why) ⟨fuel + 3, depth, c.negatedDual cs inner outer, w⟩ p ∧
        Moment.Starts (builtin why) p r ∧ Moment.Starts (builtin why) r q) ↔
          ∃ t ∈ (cs.map Prod.fst).zip worlds, q = ⟨fuel, depth, t.1, t.2⟩) ∧
    ∀ (out : Except Stop Bool) (u : World), out ≠ .error .outOfFuel →
      ((∃ fuel, Node.eval (builtin why) fuel depth (c.node (cs.map Prod.fst) loc) w =
          (out.map (.boolean · loc), u)) ↔
        ∃ fuel, Node.eval (builtin why) fuel depth (c.negatedDual cs inner outer) w =
          (out.map (.boolean · outer), u)) := by
  have hlib : HasConnectives (builtin why) := hasConnectives_builtin
  have hlayers : ∀ fuel, ∃ worlds all u,
      Tries (Node.eval (builtin why) fuel depth) c.wanted (cs.map Prod.fst) w worlds (all, u) := by
    intro fuel
    obtain ⟨worlds, ⟨all, u⟩, h⟩ :=
      exists_tries (Node.eval (builtin why) fuel depth) c.wanted (cs.map Prod.fst) w
    exact ⟨worlds, all, u, h⟩
  refine ⟨fun fuel => ?_, fun out u hout => ⟨?_, ?_⟩⟩
  · obtain ⟨worlds, all, u, h⟩ := hlayers fuel
    exact ⟨worlds, all, u, h, by simpa using h.length_le, (judges_node hlib c _ loc).eval_eq h,
      eval_negatedDual hlib h inner outer, fun q => (judges_node hlib c _ loc).starts_iff h,
      fun q => starts_negatedDual_iff hlib h⟩
  · rintro ⟨fuel, hfuel⟩
    obtain ⟨worlds, all, u', h⟩ := hlayers fuel
    have hmore := Node.eval_of_le (Nat.le_add_right fuel 1)
      (by rw [hfuel]; exact map_boolean_ne_outOfFuel hout loc)
    rw [hfuel, (judges_node hlib c _ loc).eval_eq h, Prod.mk.injEq] at hmore
    obtain ⟨hvalue, rfl⟩ := hmore
    refine ⟨fuel + 3, (eval_negatedDual hlib h inner outer).trans ?_⟩
    rw [map_boolean_congr hvalue outer]
  · rintro ⟨fuel, hfuel⟩
    obtain ⟨worlds, all, u', h⟩ := hlayers fuel
    have hmore := Node.eval_of_le (Nat.le_add_right fuel 3)
      (by rw [hfuel]; exact map_boolean_ne_outOfFuel hout outer)
    rw [hfuel, eval_negatedDual hlib h inner outer, Prod.mk.injEq] at hmore
    obtain ⟨hvalue, rfl⟩ := hmore
    refine ⟨fuel + 1, ((judges_node hlib c _ loc).eval_eq h).trans ?_⟩
    rw [map_boolean_congr hvalue loc]

/-- An assignment of a value that does not hold. -/
def assignZero : Node := .call "assign" [.ivar "x" .unknown, .literal (.int 0 .unknown)] .unknown

/-- The world in which that value is assigned. -/
def zeroAssigned : World where
  env := ({} : Environment).setIvar "x" (.int 0 .unknown)

lemma eval_assignZero (hassign : lib.find? "assign" = some Builtin.assign) :
    Node.eval lib 2 0 assignZero { env := {} } = (.ok (.int 0 .unknown), zeroAssigned) := by
  rw [assignZero, Node.eval_call, Node.runCall_apply rfl hassign]
  rfl

/-- A condition assigns a variable and does not hold, and the next one is a break for two loops. So
the disjunction of them stops with the break after the assignment, and so does the opposite of the
conjunction of their opposites. -/
theorem de_morgan_break :
    (∃ fuel, Node.eval builtin fuel 0 (disjunction.node [assignZero, Loop.breakTwo] .unknown)
        { env := {} } = (.error (.halt (.signal (.breakLoop 2))), zeroAssigned)) ∧
      ∃ fuel, Node.eval builtin fuel 0 (disjunction.negatedDual
          [(assignZero, .unknown), (Loop.breakTwo, .unknown)] .unknown .unknown) { env := {} } =
        (.error (.halt (.signal (.breakLoop 2))), zeroAssigned) := by
  have hbreak : builtin.find? "break" = some Builtin.breakLoop := by
    rw [Library.find?_builtin]
    rfl
  have htries : Tries (Node.eval builtin 2 0) disjunction.wanted [assignZero, Loop.breakTwo]
      { env := {} } [{ env := {} }, zeroAssigned]
      (.error (.halt (.signal (.breakLoop 2))), zeroAssigned) :=
    .next (eval_assignZero Library.find?_assign) rfl (.stopped (Loop.eval_breakTwo hbreak _) [])
  have hdisjunction := (judges_node hasConnectives_builtin disjunction _ .unknown).eval_eq htries
  exact ⟨⟨3, hdisjunction⟩, ((de_morgan disjunction
    [(assignZero, .unknown), (Loop.breakTwo, .unknown)] .unknown .unknown .unknown 0
    { env := {} }).2 (.error (.halt (.signal (.breakLoop 2)))) zeroAssigned (by simp)).1
    ⟨3, hdisjunction⟩⟩

end Connective

end CommandScript
