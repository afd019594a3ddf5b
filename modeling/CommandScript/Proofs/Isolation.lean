import CommandScript.Proofs.Simulation

/-!
# Procedures do not see outer scopes

No expression sees the frames further out: from worlds that differ only there, an evaluation ends in
the same way, or not at all. The body of a procedure runs in a frame of its own, so that for it all
frames of the caller are further out. What a call does depends on the script variables of the caller
through the values of its arguments only.

## Main definitions

* `CommandScript.Run.SameFrom` — a run that does the same from worlds related by `S`.
* `CommandScript.World.AlikeButFrames` — worlds that differ at most in their frames.

## Main results

* `CommandScript.Node.eval_sameFrom` — an evaluation does the same whatever the frames further out.
* `CommandScript.Run.SameFrom.inFrame` — what an evaluation does in a frame of its own is the same
  whatever all other frames.
* `CommandScript.Node.outer_scopes_unseen` — both for expressions and for procedure calls.
-/

namespace CommandScript

/-! ## Worlds that differ in their frames -/

/-- A world without its frames. -/
def World.unframed (w : World) : World :=
  { w with env := { w.env with frame := .empty, outer := [] } }

/-- Worlds that differ at most in their frames. -/
abbrev World.AlikeButFrames (w v : World) : Prop := w.unframed.Alike Eq v.unframed

/-- The frames that are pushed and popped do not count. -/
lemma World.unframed_popFrame (w : World) :
    World.unframed { w with env := w.env.popFrame } = w.unframed := by
  unfold unframed Environment.popFrame
  split <;> rfl

/-- Worlds that are alike differ at most in their frames. -/
lemma World.Alike.unframed {w v : World} (h : w.Alike Eq v) : w.AlikeButFrames v :=
  ⟨{ h.env with frame := rfl }, h.store⟩

/-- Worlds are alike in either order. -/
lemma World.Alike.symm {w v : World} (h : w.Alike Eq v) : v.Alike Eq w :=
  (World.Alike.refl (fun _ => rfl) v).of_eq h

/-- With a new frame on top, which is set up in the same way, worlds that differ at most in their
frames are alike. -/
lemma World.AlikeButFrames.pushFrame {setUp : Environment → Environment}
    (only : Environment.OnlyFrame setUp) {w v : World} (h : w.AlikeButFrames v) :
    World.Alike Eq { w with env := setUp w.env.pushFrame }
      { v with env := setUp v.env.pushFrame } := by
  obtain ⟨g, hg⟩ := only
  simp only [hg]
  exact ⟨{ h.env with frame := rfl }, h.store⟩

/-- Worlds that differ at most in their frames have the same procedures. -/
lemma World.AlikeButFrames.get?_procedures {w v : World} (h : w.AlikeButFrames v) (name : String) :
    v.env.procedures.get? name = w.env.procedures.get? name := by
  have hname : Option.Rel (Procedure.Alike Eq) (w.env.procedures.get? name)
      (v.env.procedures.get? name) := h.env.procedures name
  generalize w.env.procedures.get? name = p at hname ⊢
  generalize v.env.procedures.get? name = q at hname ⊢
  cases hname with
  | none => rfl
  | @some p q hpq =>
    obtain ⟨hn, hp, hb⟩ := hpq
    cases p
    cases q
    cases hn
    cases hp
    cases hb
    rfl

/-! ## Runs that do the same -/

namespace Run

variable {α β : Type} {S : World → World → Prop}

/-- From worlds related by `S` the run ends in the same way, and in worlds related by `S` unless it
is out of fuel. -/
def SameFrom (S : World → World → Prop) (x : Run α) : Prop :=
  ∀ w v, S w v → (x v).1 = (x w).1 ∧ ((x w).1 ≠ .error .outOfFuel → S (x w).2 (x v).2)

namespace SameFrom

/-- A run that changes nothing and does not look at the world. -/
lemma of_same {x : Run α} {r : Except Stop α} (h : ∀ w, x w = (r, w)) : SameFrom S x := by
  intro w v hwv
  rw [h w, h v]
  exact ⟨rfl, fun _ => hwv⟩

lemma fail (loc : Location) (c : Cause) : SameFrom S (Run.fail loc c : Run α) :=
  of_same fun _ => rfl

lemma checkDepth (depth : Nat) (what : Nesting) (loc : Location) :
    SameFrom S (checkDepth depth what loc) := by
  unfold CommandScript.checkDepth
  split
  · exact fail loc _
  · exact of_same fun _ => rfl

/-- One run after another, each of which does the same. -/
lemma bind {x : Run α} {f : α → Run β} (hx : SameFrom S x) (hf : ∀ a, SameFrom S (f a)) :
    SameFrom S (x >>= f) := by
  intro w v hwv
  obtain ⟨hends, hafter⟩ := hx w v hwv
  rcases hxw : x w with ⟨r, w'⟩
  rcases hxv : x v with ⟨r', v'⟩
  rw [hxw, hxv] at hends hafter
  obtain rfl : r' = r := hends
  cases r' with
  | error e =>
    rw [bind_of_error hxw, bind_of_error hxv]
    exact ⟨rfl, fun hne => hafter fun he => hne (by rw [Except.error.inj he])⟩
  | ok a =>
    rw [bind_of_ok hxw, bind_of_ok hxv]
    exact hf a w' v' (hafter (by simp))

lemma settle (loc : Location) {x : Run Value} (h : SameFrom S x) : SameFrom S (settle loc x) := by
  intro w v hwv
  obtain ⟨hends, hafter⟩ := h w v hwv
  refine ⟨settle_fst_congr loc hends, fun hne => ?_⟩
  rw [settle_snd, settle_snd]
  exact hafter fun hout => hne (by rw [settle_of_outOfFuel loc (Prod.ext hout rfl)])

/-- A computation on the same arrays gives the same arrays, and leaves the frames alone. -/
lemma ofCompute (c : Compute α) :
    SameFrom World.AlikeButFrames (Run.ofCompute c) := by
  intro w v hwv
  have hstore : v.store = w.store := hwv.store
  simp only [Run.ofCompute, hstore]
  rcases c w.store with ⟨e | a, s⟩
  · exact ⟨rfl, fun _ => ⟨hwv.env, rfl⟩⟩
  · exact ⟨rfl, fun _ => ⟨hwv.env, rfl⟩⟩

/-- In a frame of its own, a run that does not see the frames further out does the same whatever all
other frames. -/
lemma inFrame {setUp : Environment → Environment} (only : Environment.OnlyFrame setUp)
    {x : Run Value} (h : SameFrom (World.Alike Eq) x) :
    SameFrom World.AlikeButFrames (inFrame setUp x) := by
  intro w v hwv
  obtain ⟨hends, hafter⟩ := h _ _ (hwv.pushFrame only)
  rcases hxw : x { w with env := setUp w.env.pushFrame } with ⟨r, w'⟩
  rcases hxv : x { v with env := setUp v.env.pushFrame } with ⟨r', v'⟩
  rw [hxw, hxv] at hends hafter
  obtain rfl : r' = r := hends
  by_cases hr : r' = .error .outOfFuel
  · subst hr
    rw [inFrame_of_outOfFuel hxw, inFrame_of_outOfFuel hxv]
    exact ⟨rfl, fun hne => absurd rfl hne⟩
  · rw [inFrame_of_ne hxw hr, inFrame_of_ne hxv hr]
    refine ⟨rfl, fun _ => ?_⟩
    rw [World.AlikeButFrames, World.unframed_popFrame, World.unframed_popFrame]
    exact (hafter hr).unframed

end SameFrom

end Run

/-! ## Evaluation -/

namespace Node

open Run (SameFrom)

variable {lib : Library} {fuel depth : Nat}

/-- An evaluation does the same whatever the frames further out. -/
lemma eval_sameFrom (lib : Library) (fuel depth : Nat) (n : Node) :
    SameFrom (World.Alike Eq) (eval lib fuel depth n) := by
  intro w v hwv
  have hforth := eval_mono lib (Nat.le_refl fuel) depth n w v hwv
  have hback := eval_mono lib (Nat.le_refl fuel) depth n v w hwv.symm
  rcases hforth with hout | ⟨hends, hafter⟩
  · rcases hback with hout' | ⟨hends, -⟩
    · exact ⟨hout'.trans hout.symm, fun hne => absurd hout hne⟩
    · exact ⟨hends.eq, fun hne => absurd hout hne⟩
  · exact ⟨hends.eq.symm, fun _ => hafter⟩

/-- Once its arguments are evaluated, a procedure call does the same whatever the frames. -/
lemma enter_sameFrom (p : Procedure) (values : List Value) (loc : Location) :
    SameFrom World.AlikeButFrames (do
      checkDepth depth .procedures loc
      let arguments ← Run.ofCompute (Compute.newArray loc values)
      Run.settle loc
        (Run.inFrame (p.setUp values arguments) (eval lib fuel (depth + 1) p.body))) := by
  refine .bind (.checkDepth depth _ loc) fun _ => .bind (.ofCompute _) fun arguments => ?_
  refine .settle loc (.inFrame (p.onlyFrame_setUp values arguments) ?_)
  exact eval_sameFrom lib fuel (depth + 1) p.body

variable {name : String} {args args' : List Node} {values : List Value} {w v u t : World}

/-- Calls of a procedure whose arguments have the same values do the same, up to the frames. -/
lemma callProcedure_congr (loc : Location) (h : w.AlikeButFrames v) (h' : u.AlikeButFrames t)
    (hargs : evalResolved (eval lib fuel depth) args w = (.ok values, u))
    (hargs' : evalResolved (eval lib fuel depth) args' v = (.ok values, t)) :
    (callProcedure (eval lib fuel) depth name args' loc v).1 =
      (callProcedure (eval lib fuel) depth name args loc w).1 ∧
    ((callProcedure (eval lib fuel) depth name args loc w).1 ≠ .error .outOfFuel →
      World.AlikeButFrames (callProcedure (eval lib fuel) depth name args loc w).2
        (callProcedure (eval lib fuel) depth name args' loc v).2) := by
  simp only [callProcedure, bind_of_ok (Run.env_apply w), bind_of_ok (Run.env_apply v)]
  rw [h.get?_procedures name]
  cases w.env.procedures.get? name with
  | none => exact SameFrom.fail loc _ w v h
  | some p =>
    dsimp only
    rw [bind_of_ok hargs, bind_of_ok hargs']
    exact enter_sameFrom p values loc u t h'

/-- Procedures do not see outer scopes.

From worlds that differ at most in the frames further out, an evaluation comes to an end in the one
if it does in the other, with the same value, signal or failure. Then the worlds still differ at
most in these frames, which are what they were. So the actor has heard the same, the server was
asked for the same, and the innermost frame, the procedures and the arrays are the same.

If two worlds differ in the frames of the callers, too, and the arguments of two calls of a
procedure have the same values and leave worlds that differ in frames only, then the calls do the
same. -/
theorem outer_scopes_unseen (lib : Library) (fuel depth : Nat) :
    (∀ n w v, w.Alike Eq v →
      (eval lib fuel depth n v).1 = (eval lib fuel depth n w).1 ∧
      ((eval lib fuel depth n w).1 ≠ .error .outOfFuel →
        (eval lib fuel depth n w).2.Alike Eq (eval lib fuel depth n v).2 ∧
        (eval lib fuel depth n w).2.env.outer = w.env.outer ∧
        (eval lib fuel depth n v).2.env.outer = v.env.outer)) ∧
    ∀ name args args' values loc w v u t, isProcedureName name = true → w.AlikeButFrames v →
      evalResolved (eval lib fuel depth) args w = (.ok values, u) →
      evalResolved (eval lib fuel depth) args' v = (.ok values, t) → u.AlikeButFrames t →
      (eval lib (fuel + 1) depth (call name args' loc) v).1 =
        (eval lib (fuel + 1) depth (call name args loc) w).1 ∧
      ((eval lib (fuel + 1) depth (call name args loc) w).1 ≠ .error .outOfFuel →
        World.AlikeButFrames (eval lib (fuel + 1) depth (call name args loc) w).2
          (eval lib (fuel + 1) depth (call name args' loc) v).2) := by
  constructor
  · intro n w v h
    obtain ⟨hends, hafter⟩ := eval_sameFrom lib fuel depth n w v h
    refine ⟨hends, fun hne => ⟨hafter hne, ?_, ?_⟩⟩
    · exact ((eval_scoped lib fuel depth n).restores w hne).outer
    · exact ((eval_scoped lib fuel depth n).restores v (by rwa [hends])).outer
  · intro name args args' values loc w v u t hname h hargs hargs' h'
    rw [eval_call, eval_call, runCall, runCall, if_pos hname, if_pos hname]
    exact callProcedure_congr loc h h' hargs hargs'

/-- The world of the procedure that calls itself, seen from a caller without the variable `x`, which
is bound further out. -/
def selfCallingElsewhere : World :=
  { selfCalling with env := { selfCalling.env with
      frame := .empty, outer := [Bindings.empty.insert "x" (.string "hidden" .unknown)] } }

/-- The procedure that calls itself fails in the same way, whether its argument is a variable of the
caller or the value of that variable, and whatever is further out. -/
theorem outer_scopes_unseen_selfCalling :
    (eval .empty 3 127 (call "_p" [ivar "x" .unknown] .unknown) selfCalling).1 =
      .error (.halt (.failure ⟨.tooDeep .procedures, .unknown⟩)) ∧
    selfCalling.AlikeButFrames selfCallingElsewhere ∧
    (eval .empty 3 127 (call "_p" [literal (.string "kept" .unknown)] .unknown)
      selfCallingElsewhere).1 = .error (.halt (.failure ⟨.tooDeep .procedures, .unknown⟩)) := by
  have hfail : (eval .empty 3 127 (call "_p" [ivar "x" .unknown] .unknown) selfCalling).1 =
      .error (.halt (.failure ⟨.tooDeep .procedures, .unknown⟩)) := rfl
  have halike : selfCalling.AlikeButFrames selfCallingElsewhere := .refl (fun _ => rfl) _
  have hsame := (outer_scopes_unseen .empty 2 127).2 "_p" [ivar "x" .unknown]
    [literal (.string "kept" .unknown)] [.string "kept" .unknown] .unknown selfCalling
    selfCallingElsewhere selfCalling selfCallingElsewhere (by decide) halike rfl rfl halike
  exact ⟨hfail, halike, hsame.1.trans hfail⟩

end Node

end CommandScript
