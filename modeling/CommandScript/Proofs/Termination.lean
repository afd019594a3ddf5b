import CommandScript.Proofs.Builtin
import CommandScript.Proofs.Lockstep

/-!
# Every evaluation without loops on a condition comes to an end

Without the function `for`, an evaluation comes to an end whatever the procedures and arrays are. A
procedure call and `eval` go one level deeper, where there are finitely many levels, and everything
else asks for the values of smaller expressions, finitely many times.

The argument is about an evaluator that never uses up its fuel: `CommandScript.Node.limit` does what
evaluation does with enough fuel. One layer over it comes to an end if the questions it asks do, and
a layer that comes to an end has asked finitely many questions, for which some fuel is enough.

## Main definitions

* `CommandScript.Node.limit` — evaluation with enough fuel.

## Main results

* `CommandScript.Layer.eventually` — a layer over the limit that comes to an end does the same over
  evaluation with enough fuel.
* `CommandScript.Node.step_ne_outOfFuel` — one layer comes to an end if the questions it asks do.
* `CommandScript.Node.limit_ne_outOfFuel` — some fuel is always enough.
* `CommandScript.Library.eval_terminates` — every evaluation without `for` comes to an end.
* `CommandScript.Library.eval_forever` — with `for` this is not so.
-/

namespace CommandScript

variable {why : String → Option String}

namespace Node

variable {lib : Library} {d : Nat} {n : Node} {w : World}

open Classical in
/-- Evaluation with enough fuel. If no fuel is enough, it does nothing. -/
noncomputable def limit (lib : Library) : Evaluator := fun d n w =>
  if h : ∃ fuel, (eval lib fuel d n w).1 ≠ .error .outOfFuel then eval lib h.choose d n w
  else (.error .outOfFuel, w)

/-- Where some fuel is enough, more fuel changes nothing. -/
lemma eval_eq_limit {fuel fuel' : Nat} (h : (eval lib fuel d n w).1 ≠ .error .outOfFuel)
    (hf : fuel ≤ fuel') : eval lib fuel' d n w = limit lib d n w := by
  have hex : ∃ fuel, (eval lib fuel d n w).1 ≠ .error .outOfFuel := ⟨fuel, h⟩
  have hlimit : limit lib d n w = eval lib hex.choose d n w := dif_pos hex
  have hmax := eval_of_le (Nat.le_max_left hex.choose fuel') hex.choose_spec
  rw [hlimit, ← hmax, eval_of_le hf h, eval_of_le (Nat.le_trans hf (Nat.le_max_right _ _)) h]

/-- What the limit gives is what evaluation gives from some fuel on. -/
lemma limit_eventually (h : (limit lib d n w).1 ≠ .error .outOfFuel) :
    ∃ k, ∀ k', k ≤ k' → eval lib k' d n w = limit lib d n w := by
  by_cases hex : ∃ fuel, (eval lib fuel d n w).1 ≠ .error .outOfFuel
  · obtain ⟨fuel, hfuel⟩ := hex
    exact ⟨fuel, fun k' hk => eval_eq_limit hfuel hk⟩
  · rw [limit, dif_neg hex] at h
    exact absurd rfl h

end Node

/-- A layer over the limit that comes to an end does the same over evaluation from some fuel on.

**Proof sketch.** By the building blocks. If the first of two runs gives a value, then it does so
from some fuel on, and the second one starts at the same place. -/
lemma Layer.eventually {C : Prop} {H : Halt → Prop} {Q : Node → Node → Prop} {depth : Nat}
    {α β : Type} {R : α → β → Prop} {x : Evaluator → Run α} {y : Evaluator → Run β}
    (h : Layer C H Q depth R x y) {lib : Library} {w : World}
    (hend : (x (Node.limit lib) w).1 ≠ .error .outOfFuel) :
    ∃ k, ∀ k', k ≤ k' → x (Node.eval lib k') w = x (Node.limit lib) w := by
  induction h generalizing w with
  | act => exact ⟨0, fun _ _ => rfl⟩
  | spent => exact ⟨0, fun _ _ => rfl⟩
  | command => exact ⟨0, fun _ _ => rfl⟩
  | ask => exact Node.limit_eventually hend
  | enter => exact Node.limit_eventually hend
  | @inFrame n n' setUp room only h =>
    dsimp only at hend ⊢
    have hbody : (Node.limit lib (depth + 1) n { w with env := setUp w.env.pushFrame }).1 ≠
        .error .outOfFuel :=
      fun hout => hend (by rw [Run.inFrame_of_outOfFuel (Prod.ext hout rfl)])
    obtain ⟨k, hk⟩ := Node.limit_eventually hbody
    exact ⟨k, fun k' hle => by simp only [Run.inFrame, hk k' hle]⟩
  | @bind _ _ _ _ _ _ x y f g total hx hf ihx ihf =>
    dsimp only at hend ⊢
    rcases hxw : x (Node.limit lib) w with ⟨e | a, v⟩
    · rw [bind_of_error hxw] at hend ⊢
      have hne : e ≠ .outOfFuel := fun he => hend (by rw [he])
      have hstop : (x (Node.limit lib) w).1 ≠ .error .outOfFuel := by
        rw [hxw]
        exact fun heq => hne (Except.error.inj heq)
      obtain ⟨k, hk⟩ := ihx hstop
      exact ⟨k, fun k' hle => bind_of_error ((hk k' hle).trans hxw)⟩
    · rw [bind_of_ok hxw] at hend ⊢
      have hvalue : (x (Node.limit lib) w).1 ≠ .error .outOfFuel := by simp [hxw]
      obtain ⟨k, hk⟩ := ihx hvalue
      obtain ⟨b, hb⟩ := total a
      obtain ⟨m, hm⟩ := ihf a b hb hend
      refine ⟨max k m, fun k' hle => ?_⟩
      rw [bind_of_ok ((hk k' (by omega)).trans hxw)]
      exact hm k' (by omega)
  | @round x y h ih =>
    dsimp only at hend ⊢
    obtain ⟨k, hk⟩ := ih fun hout => hend (by rw [Run.round_of_outOfFuel (Prod.ext hout rfl)])
    exact ⟨k, fun k' hle => by simp only [Run.round, hk k' hle]⟩
  | @settle x y loc h ih =>
    dsimp only at hend ⊢
    obtain ⟨k, hk⟩ := ih fun hout => hend (by rw [Run.settle_of_outOfFuel loc (Prod.ext hout rfl)])
    exact ⟨k, fun k' hle => by simp only [Run.settle, hk k' hle]⟩

namespace Node

open Run (Agrees)

variable {lib : Library}

/-- A run that comes to an end agrees with itself. -/
lemma agrees_self {E : Stop → Prop} {x : Run Value}
    (h : ∀ w, (x w).1 ≠ .error .outOfFuel ∨ E .outOfFuel) : Agrees id E (Value.Same id) x x := by
  intro w v hwv
  obtain rfl : w = v := by rwa [World.mapLoc_id, World.mapLoc_id] at hwv
  have hw := h w
  generalize (x w).1 = r at hw ⊢
  rcases r with (e | _) | a
  · exact .inr ⟨.halt rfl, rfl⟩
  · exact .inl ⟨_, hw.resolve_left (absurd rfl), rfl⟩
  · exact .inr ⟨.ok rfl, rfl⟩

section

variable (hfor : ∀ {name e}, lib.find? name = some e → e.behaviour ≠ .form .forLoop)

include hfor

/-- Without loops on a condition the fuel for their rounds does not matter. -/
lemma step_fuel (ev : Evaluator) (fuel fuel' d : Nat) (n : Node) {w : World}
    (h : (step lib ev fuel d n w).1 ≠ .error .outOfFuel) :
    step lib ev fuel' d n w = step lib ev fuel d n w := by
  have hself : ∀ d n, Agrees id (Stop.outOfFuel = ·) (Value.Same id) (ev d n) (ev d n) :=
    fun d n => agrees_self fun _ => .inr rfl
  have hev : Evaluator.Agree id (Stop.outOfFuel = ·) n.size d d ev ev := by
    refine ⟨fun hn => ?_, fun _ _ _ hn => ?_, Nat.le_refl d, fun hlt => by omega, by simp⟩
    · obtain rfl := eq_of_same_id hn.same
      exact hself _ _
    · obtain rfl := eq_of_same_id hn
      exact hself _ _
  rcases (step_agrees lib.blind_id rfl hev fun he hb => absurd hb (hfor he)).eq_or_excused w with
    ⟨e, rfl, hx⟩ | heq
  · exact absurd hx h
  · exact heq.symm

/-- Without loops on a condition, one layer comes to an end if the evaluator does, on expressions
with fewer nodes and, below the limit, on all expressions one level deeper. -/
lemma step_ne_outOfFuel {ev : Evaluator} {d : Nat} {n : Node}
    (hask : ∀ m, m.size < n.size → ∀ w, (ev d m w).1 ≠ .error .outOfFuel)
    (henter : d < maxCallDepth → ∀ m w, (ev (d + 1) m w).1 ≠ .error .outOfFuel) (fuel : Nat)
    (w : World) : (step lib ev fuel d n w).1 ≠ .error .outOfFuel := by
  have hev : Evaluator.Agree id (fun _ => False) n.size d d ev ev := by
    refine ⟨fun {m _} hm => ?_, fun room m _ hm => ?_, Nat.le_refl d, fun hlt => by omega, by simp⟩
    · obtain rfl := eq_of_same_id hm.same
      exact agrees_self fun w => .inl (hask m hm.size_lt w)
    · obtain rfl := eq_of_same_id hm
      exact agrees_self fun w => .inl (henter room m w)
  -- nothing is excused, so the layer agrees with itself by coming to an end
  have hagree : Agrees id (fun _ => False) (Value.Same id) (step lib ev fuel d n)
      (step lib ev fuel d n) :=
    step_agrees lib.blind_id rfl hev fun he hb => absurd hb (hfor he)
  rcases hagree w w rfl with ⟨e, hfalse, -⟩ | ⟨hends, -⟩
  · exact hfalse.elim
  · intro hout
    rw [hout] at hends
    cases hends

/-- Without loops on a condition, the limit does what one layer over it does, if that comes to an
end. -/
lemma limit_eq_step {d : Nat} {n : Node} {w : World}
    (h : (step lib (limit lib) 0 d n w).1 ≠ .error .outOfFuel) :
    limit lib d n w = step lib (limit lib) 0 d n w := by
  obtain ⟨k, hk⟩ := (step_layer_self lib.haltsIn_any 0 d n).eventually h
  have hzero : step lib (eval lib k) 0 d n w = step lib (limit lib) 0 d n w := hk k (Nat.le_refl k)
  have heval : eval lib (k + 1) d n w = step lib (limit lib) 0 d n w :=
    (step_fuel hfor (eval lib k) 0 k d n (by rwa [hzero])).trans hzero
  rw [← eval_eq_limit (by rwa [heval]) (Nat.le_refl (k + 1)), heval]

/-- Without loops on a condition, some fuel is always enough.

**Proof sketch.** By induction on the number of levels that are left, and then on the number of
nodes: the limit comes to an end wherever one layer over it asks. -/
lemma limit_ne_outOfFuel (d : Nat) (n : Node) (w : World) :
    (limit lib d n w).1 ≠ .error .outOfFuel := by
  induction hlevels : maxCallDepth - d using Nat.strongRecOn generalizing d n w with
  | ind levels ihLevels =>
  induction hsize : n.size using Nat.strongRecOn generalizing n w with
  | ind size ihSize =>
  subst hlevels hsize
  have hask : ∀ m, m.size < n.size → ∀ w, (limit lib d m w).1 ≠ .error .outOfFuel :=
    fun m hm w => ihSize m.size hm m w rfl
  have henter : d < maxCallDepth → ∀ m w, (limit lib (d + 1) m w).1 ≠ .error .outOfFuel :=
    fun room m w => ihLevels (maxCallDepth - (d + 1)) (by omega) (d + 1) m w rfl
  have hstep := step_ne_outOfFuel hfor hask henter 0 w
  rwa [limit_eq_step hfor hstep]

end

end Node

namespace Library

/-- The only function that is a loop on a condition is `for`. -/
lemma name_of_forLoop {e : Entry} (h : e ∈ builtins why) (he : e.behaviour = .form .forLoop) :
    e.name = "for" := by
  have hall : ∀ e ∈ builtins why, (match e.behaviour with
      | .form .forLoop => e.name == "for"
      | _ => true) = true := forall_builtins (by decide +kernel) rfl
  have hcheck := hall e h
  rw [he] at hcheck
  exact eq_of_beq hcheck

/-- Every evaluation without `for` comes to an end.

In every library of functions of the language other than `for`, the evaluation of an expression ends
with a value or a halt, at every level and in every world: whatever procedures are defined, whatever
they call, and whatever the arrays hold. It does exactly the same from some fuel on. -/
theorem eval_terminates {lib : Library}
    (hlib : ∀ e ∈ lib.entries, e ∈ builtins why ∧ e.name ≠ "for") (depth : Nat) (n : Node)
    (w : World) : ∃ fuel r, r.1 ≠ .error .outOfFuel ∧
      ∀ fuel', fuel ≤ fuel' → Node.eval lib fuel' depth n w = r := by
  have hfor : ∀ {name e}, lib.find? name = some e → e.behaviour ≠ .form .forLoop := by
    intro name e he hb
    obtain ⟨hmem, hname⟩ := hlib e (List.mem_of_find?_eq_some he)
    exact hname (name_of_forLoop hmem hb)
  have hend := Node.limit_ne_outOfFuel hfor depth n w
  obtain ⟨k, hk⟩ := Node.limit_eventually hend
  exact ⟨k, Node.limit lib depth n w, hend, hk⟩

/-- Three functions that go on for long: one adds to arrays, one runs texts, one loops over
arrays. -/
def pushing : Library :=
  ⟨[Builtin.arrayPush, Builtin.eval, Builtin.foreach], by decide⟩

/-- A world with an array that holds itself, and with a text that adds to this array for each of its
cells and then runs itself. -/
def selfRunning : World where
  env :=
    { frame := (Bindings.empty.insert "a" (.array 0 .unknown)).insert "s"
        (.string "foreach(@a, @x, array_push(@a, @x)) eval(@s)" .unknown) }
  store := ⟨#[#[.array 0 .unknown]]⟩

/-- The text that runs itself and adds to the array over which it loops comes to an end. -/
theorem eval_terminates_selfRunning :
    (∀ e ∈ pushing.entries, e ∈ builtins ∧ e.name ≠ "for") ∧
    ∃ fuel r, r.1 ≠ .error .outOfFuel ∧ ∀ fuel', fuel ≤ fuel' →
      Node.eval pushing fuel' 0 (.call "eval" [.ivar "s" .unknown] .unknown) selfRunning = r := by
  have hpushing : ∀ e ∈ pushing.entries, e ∈ builtins ∧ e.name ≠ "for" := by
    simp only [pushing, List.forall_mem_cons]
    refine ⟨⟨?_, by decide⟩, ⟨?_, by decide⟩, ⟨?_, by decide⟩, by simp⟩
    all_goals simp [builtins, Builtin.general, Builtin.control]
  exact ⟨hpushing, eval_terminates hpushing 0 _ selfRunning⟩

/-! ## A loop without end -/

/-- Rounds that change nothing, on a condition that is true, use up any fuel. -/
lemma roundsWhile_outOfFuel {condition step body : Run Value} {c s b : Value}
    (hcondition : ∀ w, condition w = (.ok c, w)) (hc : ∀ st, c.isTrue st = true)
    (hstep : ∀ w, step w = (.ok s, w)) (hbody : ∀ w, body w = (.ok b, w)) (fuel : Nat)
    (w : World) : Run.roundsWhile condition step body fuel w = (.error .outOfFuel, w) := by
  induction fuel with
  | zero => rfl
  | succ fuel ih =>
    have htrue : Run.isTrue c w = (.ok true, w) := by
      rw [← hc w.store]
      rfl
    have hround : Run.round body w = (.ok true, w) := by
      rw [Run.round, hbody w]
    rw [Run.roundsWhile, bind_of_ok (hcondition w), bind_of_ok htrue]
    simp only [if_true]
    rw [bind_of_ok hround]
    simp only [if_true]
    rw [bind_of_ok (hstep w), ih]

/-- A loop that sets a variable once, on a condition that is always true. -/
def forever : Node :=
  .call "for" [.call "assign" [.ivar "i" .unknown, .literal (.int 0 .unknown)] .unknown,
    .literal (.boolean true .unknown), .literal (.void .unknown), .literal (.void .unknown)]
    .unknown

lemma find?_forLoop : (builtin why).find? "for" = some Builtin.forLoop := by
  rw [find?_builtin]
  rfl

lemma find?_assign : (builtin why).find? "assign" = some Builtin.assign := by
  rw [find?_builtin]
  rfl

lemma eval_forever_of_find? {lib : Library} (hfor : lib.find? "for" = some Builtin.forLoop)
    (hassign : lib.find? "assign" = some Builtin.assign) (fuel depth : Nat) (w : World) :
    (Node.eval lib (fuel + 3) depth forever w).1 = .error .outOfFuel := by
  have hstart : Node.eval lib (fuel + 2) depth
      (.call "assign" [.ivar "i" .unknown, .literal (.int 0 .unknown)] .unknown) w =
      (.ok (.int 0 .unknown), { w with env := w.env.setIvar "i" (.int 0 .unknown) }) := by
    rw [Node.eval_call, Node.runCall_apply (by decide) hassign]
    rfl
  have hliteral : ∀ v u, Node.eval lib (fuel + 2) depth (.literal v) u = (.ok v, u) :=
    fun _ _ => rfl
  have hrounds := roundsWhile_outOfFuel (hliteral (.boolean true .unknown)) (fun _ => rfl)
    (hliteral (.void .unknown)) (hliteral (.void .unknown)) (fuel + 2)
  have hloop : Node.eval lib (fuel + 3) depth forever w = (do
      let _ ← Node.eval lib (fuel + 2) depth
        (.call "assign" [.ivar "i" .unknown, .literal (.int 0 .unknown)] .unknown)
      Run.roundsWhile (Node.eval lib (fuel + 2) depth (.literal (.boolean true .unknown)))
        (Node.eval lib (fuel + 2) depth (.literal (.void .unknown)))
        (Node.eval lib (fuel + 2) depth (.literal (.void .unknown))) (fuel + 2)
      return .void .unknown : Run Value) w := by
    rw [forever, Node.eval_call, Node.runCall_apply (by decide) hfor]
    rfl
  rw [hloop, bind_of_ok hstart, bind_of_error (hrounds _)]

/-- With `for` an evaluation may go on forever. -/
theorem eval_forever (fuel depth : Nat) (w : World) :
    (Node.eval (builtin why) fuel depth forever w).1 = .error .outOfFuel := by
  by_contra h
  rw [← Node.eval_of_le (Nat.le_add_right fuel 3) h] at h
  exact h (eval_forever_of_find? find?_forLoop find?_assign fuel depth w)

end Library

end CommandScript
