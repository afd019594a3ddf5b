import CommandScript.Proofs.Moment

/-!
# Scopes are restored

However an evaluation ends, the frames further out, the actor, the server and the variables of the
host are what they were; and while it goes on, no more frames are added than there are levels left.

## Main definitions

* `CommandScript.World.Within` — a world inside another one, with at most so many frames more.
* `CommandScript.Run.Scoped` — a run that stays inside its first world, and leaves no frame behind
  if it comes to an end.

## Main results

* `CommandScript.Layer.scoped` — a layer is scoped if the evaluator is.
* `CommandScript.Node.eval_scoped` — evaluation is scoped.
* `CommandScript.Node.eval_restores_scopes` — what holds at the end of an evaluation, and at every
  moment on the way.
-/

namespace CommandScript

/-! ## Worlds inside other worlds -/

/-- A world inside another one: the actor, the server and the variables of the host are the same,
and there are at most `room` frames on top of those that were further out. -/
structure World.Within (room : Nat) (w v : World) : Prop where
  actor : v.env.actor = w.env.actor
  server : v.env.server = w.env.server
  aliases : v.env.aliases = w.env.aliases
  outer : w.env.outer <:+ v.env.outer
  depth : v.env.depth ≤ w.env.depth + room

namespace World.Within

variable {room room' : Nat} {u v w : World}

lemma of_same (h : w.SameSetting v) : w.Within room v :=
  ⟨h.actor, h.server, h.aliases, h.outer ▸ List.suffix_refl _, by rw [h.depth]; omega⟩

lemma refl (w : World) : w.Within room w := of_same (.refl w)

/-- A world inside one of the same setting. -/
lemma trans_same (h : u.SameSetting v) (h' : v.Within room w) : u.Within room w :=
  ⟨h'.actor.trans h.actor, h'.server.trans h.server, h'.aliases.trans h.aliases,
    h.outer ▸ h'.outer, h.depth ▸ h'.depth⟩

lemma mono (hr : room ≤ room') (h : w.Within room v) : w.Within room' v :=
  ⟨h.actor, h.server, h.aliases, h.outer, by have := h.depth; omega⟩

end World.Within

namespace Run

variable {α β : Type} {room : Nat}

/-- A run that stays inside its first world, also where it is cut off, and is back in the setting
of that world if it comes to an end. -/
structure Scoped (room : Nat) (x : Run α) : Prop where
  within : ∀ w : World, w.Within room (x w).2
  restores : ∀ w : World, (x w).1 ≠ .error .outOfFuel → w.SameSetting (x w).2

namespace Scoped

/-- A run that keeps the setting is scoped. -/
lemma of_same {x : Run α} (h : ∀ w : World, w.SameSetting (x w).2) : x.Scoped room :=
  ⟨fun w => .of_same (h w), fun w _ => h w⟩

lemma mono {room' : Nat} (hr : room ≤ room') {x : Run α} (h : x.Scoped room) : x.Scoped room' :=
  ⟨fun w => (h.within w).mono hr, h.restores⟩

/-- Scoped runs one after another are scoped. -/
lemma bind {x : Run α} {f : α → Run β} (hx : x.Scoped room) (hf : ∀ a, (f a).Scoped room) :
    (x >>= f).Scoped room := by
  refine ⟨fun w => ?_, fun w hne => ?_⟩
  · rcases h : x w with ⟨e | a, v⟩
    · rw [bind_of_error h]
      simpa only [h] using hx.within w
    · have hs : w.SameSetting v := by simpa only [h] using hx.restores w (by simp [h])
      rw [bind_of_ok h]
      exact .trans_same hs ((hf a).within v)
  · rcases h : x w with ⟨e | a, v⟩
    · rw [bind_of_error h] at hne ⊢
      have hs := hx.restores w
      simp only [h] at hs
      exact hs fun he => hne (by rw [Except.error.inj he])
    · have hs : w.SameSetting v := by simpa only [h] using hx.restores w (by simp [h])
      rw [bind_of_ok h] at hne ⊢
      exact hs.trans ((hf a).restores v hne)

lemma round {x : Run Value} (h : x.Scoped room) : (round x).Scoped room := by
  refine ⟨fun w => ?_, fun w hne => ?_⟩
  · rw [round_snd]
    exact h.within w
  · rw [round_snd]
    refine h.restores w fun hx => hne ?_
    rw [round_of_outOfFuel (Prod.ext hx rfl)]

lemma settle {x : Run Value} (loc : Location) (h : x.Scoped room) :
    (settle loc x).Scoped room := by
  refine ⟨fun w => ?_, fun w hne => ?_⟩
  · rw [settle_snd]
    exact h.within w
  · rw [settle_snd]
    refine h.restores w fun hx => hne ?_
    rw [settle_of_outOfFuel loc (Prod.ext hx rfl)]

/-- A scoped run in a frame of its own leaves the frame behind at most where it is cut off. If it
comes to an end, the innermost frame is the one that was there before. -/
lemma inFrame {setUp : Environment → Environment} (only : Environment.OnlyFrame setUp)
    {x : Run Value} (h : x.Scoped room) :
    (inFrame setUp x).Scoped (room + 1) ∧
      ∀ w, (Run.inFrame setUp x w).1 ≠ .error .outOfFuel →
        (Run.inFrame setUp x w).2.env.frame = w.env.frame := by
  obtain ⟨g, hg⟩ := only
  have key : ∀ w : World, w.Within (room + 1) (Run.inFrame setUp x w).2 ∧
      ((Run.inFrame setUp x w).1 ≠ .error .outOfFuel →
        w.SameSetting (Run.inFrame setUp x w).2 ∧
          (Run.inFrame setUp x w).2.env.frame = w.env.frame) := by
    intro w
    have hpush : setUp w.env.pushFrame =
        { w.env with frame := g .empty, outer := w.env.frame :: w.env.outer } := hg _
    have hin := h.within { w with env := setUp w.env.pushFrame }
    have hback := h.restores { w with env := setUp w.env.pushFrame }
    rcases hx : x { w with env := setUp w.env.pushFrame } with ⟨r, v⟩
    rw [hx, hpush] at hin hback
    by_cases hr : r = .error .outOfFuel
    · subst hr
      rw [inFrame_of_outOfFuel hx]
      refine ⟨⟨hin.actor, hin.server, hin.aliases, ?_, ?_⟩, fun hne => absurd rfl hne⟩
      · exact (List.suffix_cons _ _).trans hin.outer
      · have hdepth : v.env.depth ≤ (w.env.depth + 1) + room := hin.depth
        show v.env.depth ≤ w.env.depth + (room + 1)
        omega
    · -- the frames of `v` are those of the pushed world, so the pop brings back those of `w`
      have hs := hback hr
      have hpop : v.env.popFrame = { v.env with frame := w.env.frame, outer := w.env.outer } := by
        unfold Environment.popFrame
        rw [show v.env.outer = w.env.frame :: w.env.outer from hs.outer]
      rw [inFrame_of_ne hx hr, hpop]
      have hsame : w.SameSetting
          { v with env := { v.env with frame := w.env.frame, outer := w.env.outer } } :=
        ⟨hs.actor, hs.server, hs.aliases, rfl⟩
      exact ⟨.of_same hsame, fun _ => ⟨hsame, rfl⟩⟩
  exact ⟨⟨fun w => (key w).1, fun w hne => ((key w).2 hne).1⟩, fun w hne => ((key w).2 hne).2⟩

end Scoped

end Run

/-- A command for a player changes nothing but what the server was asked to run. -/
lemma Contact.sameSetting_runas (loc : Location) (values : List Value) (w : World) :
    w.SameSetting (Contact.run .runas loc values w).2 := by
  rw [run_runas]
  obtain ⟨_, h⟩ | ⟨_, _, _, _, _, _, _, h⟩ := runCommand_apply loc
    ((argument values 0).text w.store) ((argument values 1).text w.store) w
  · rw [h]
    exact .refl w
  · rw [h]
    exact ⟨rfl, rfl, rfl, rfl⟩

/-! ## Evaluation is scoped -/

/-- A layer adds at most as many frames as there are levels left, and takes them away again, if the
evaluator that it asks does.

**Proof sketch.** By the building blocks. A question one level deeper has one level less; so there
is room for the frame of a procedure call. -/
lemma Layer.scoped {C : Prop} {H : Halt → Prop} {Q : Node → Node → Prop} {depth : Nat} {α β : Type}
    {R : α → β → Prop} {x : Evaluator → Run α} {y : Evaluator → Run β}
    (h : Layer C H Q depth R x y) {ev : Evaluator}
    (hev : ∀ d n, (ev d n).Scoped (maxCallDepth - d)) :
    (x ev).Scoped (maxCallDepth - depth) := by
  induction h with
  | act quiet => exact .of_same quiet.sameSetting
  | spent => exact .of_same fun w => .refl w
  | command _ loc values => exact .of_same fun w => Contact.sameSetting_runas loc values w
  | ask => exact hev _ _
  | enter room => exact (hev _ _).mono (by omega)
  | inFrame room only =>
    exact ((hev _ _).inFrame only).1.mono (by omega)
  | bind total _ _ ihx ihf =>
    refine ihx.bind fun a => ?_
    obtain ⟨b, hb⟩ := total a
    exact ihf a b hb
  | round _ ih => exact ih.round
  | settle loc _ ih => exact ih.settle loc

namespace Node

/-- Evaluation adds at most as many frames as there are levels left, and takes them away again. -/
lemma eval_scoped (lib : Library) (fuel : Nat) :
    ∀ depth n, (eval lib fuel depth n).Scoped (maxCallDepth - depth) := by
  induction fuel with
  | zero => exact fun depth n => .of_same fun w => .refl w
  | succ fuel ih => exact fun depth n => (step_layer_self lib.haltsIn_any fuel depth n).scoped ih

end Node

/-! ## Every moment on the way -/

/-- What is inside the world of a moment that a layer asks for, as far as the levels left at that
moment allow, is inside the first world of the layer.

**Proof sketch.** The evaluator that stops at the moment, in any world inside that of the moment, is
still scoped. So the layer, which ends there, is. -/
lemma Layer.within_of_asks {C : Prop} {H : Halt → Prop} {Q : Node → Node → Prop} {depth : Nat}
    {α β : Type} {R : α → β → Prop} {x : Evaluator → Run α} {y : Evaluator → Run β}
    (h : Layer C H Q depth R x y) {lib : Library} {fuel : Nat} {w : World} {q : Moment}
    (hask : Asks x (Node.eval lib fuel) w q) {mark : World}
    (hmark : q.world.Within (maxCallDepth - q.depth) mark) :
    w.Within (maxCallDepth - depth) mark := by
  have hstop : ∀ d n, ((Node.eval lib fuel).stopAt q mark d n).Scoped (maxCallDepth - d) := by
    intro d n
    have hsc := Node.eval_scoped lib fuel d n
    refine ⟨fun w => ?_, fun w hne => ?_⟩
    · by_cases hq : d = q.depth ∧ n = q.node ∧ w = q.world
      · obtain ⟨rfl, rfl, rfl⟩ := hq
        rw [Evaluator.stopAt_self]
        exact hmark
      · rw [Evaluator.stopAt_of_ne _ _ _ hq]
        exact hsc.within w
    · by_cases hq : d = q.depth ∧ n = q.node ∧ w = q.world
      · obtain ⟨rfl, rfl, rfl⟩ := hq
        rw [Evaluator.stopAt_self] at hne
        exact absurd rfl hne
      · rw [Evaluator.stopAt_of_ne _ _ _ hq] at hne ⊢
        exact hsc.restores w hne
  simpa only [hask mark] using (h.scoped hstop).within w

namespace Moment

variable {lib : Library} {m q : Moment}

/-- Every moment of an evaluation is inside its first world, and adds at most as many frames as
there were levels left. -/
lemma Reaches.within (h : Reaches lib m q) :
    m.world.Within (maxCallDepth - m.depth) q.world := by
  have key : ∀ mark : World, q.world.Within (maxCallDepth - q.depth) mark →
      m.world.Within (maxCallDepth - m.depth) mark := by
    induction h using Relation.ReflTransGen.head_induction_on with
    | refl => exact fun mark hmark => hmark
    | head hstart _ ih =>
      exact fun mark hmark =>
        (Node.step_layer_self lib.haltsIn_any _ _ _).within_of_asks hstart.asks (ih mark hmark)
  exact key q.world (.refl q.world)

/-- The levels of an evaluation are at most the limit. -/
lemma Reaches.depth_le (h : Reaches lib m q) (hm : m.depth ≤ maxCallDepth) :
    q.depth ≤ maxCallDepth := by
  induction h with
  | refl => exact hm
  | tail _ hstart ih =>
    have := hstart.depth
    omega

end Moment

/-! ## Calls of procedures on constants -/

namespace Run

variable {α β : Type}

/-- A run that, if it comes to an end, leaves the innermost frame as it was. -/
def KeepsFrame (x : Run α) : Prop :=
  ∀ w, (x w).1 ≠ .error .outOfFuel → (x w).2.env.frame = w.env.frame

lemma KeepsFrame.bind {x : Run α} {f : α → Run β} (hx : x.KeepsFrame)
    (hf : ∀ a, (f a).KeepsFrame) : (x >>= f).KeepsFrame := by
  intro w hne
  have hxw := hx w
  rcases h : x w with ⟨e | a, v⟩
  · rw [bind_of_error h] at hne ⊢
    simp only [h] at hxw
    exact hxw fun he => hne (by rw [Except.error.inj he])
  · rw [bind_of_ok h] at hne ⊢
    simp only [h] at hxw
    exact (hf a v hne).trans (hxw (by simp))

end Run

namespace Node

/-- The values of constants are found without a change of the world. -/
lemma evalAll_literal (lib : Library) (fuel depth : Nat) (values : List Value) (w : World) :
    evalAll (eval lib (fuel + 1) depth) (values.map literal) w = (.ok values, w) := by
  induction values with
  | nil => rfl
  | cons v values ih =>
    have hv : eval lib (fuel + 1) depth (literal v) w = (.ok v, w) := rfl
    rw [List.map_cons, evalAll, bind_of_ok hv, bind_of_ok ih]
    rfl

/-- The values of constants are found without a change of the world, as far as the fuel goes. -/
lemma evalAll_literal_snd (lib : Library) (fuel depth : Nat) (values : List Value) (w : World) :
    (evalAll (eval lib fuel depth) (values.map literal) w).2 = w := by
  cases fuel with
  | zero => cases values <;> rfl
  | succ fuel => rw [evalAll_literal]

/-- A call of a procedure on constants leaves the frame of the caller as it was, whatever the body
does and however it ends. -/
lemma callProcedure_keepsFrame (lib : Library) (fuel depth : Nat) (name : String)
    (values : List Value) (loc : Location) :
    (callProcedure (eval lib fuel) depth name (values.map literal) loc).KeepsFrame := by
  have hstill : ∀ {α : Type} {x : Run α}, (∀ w, (x w).2 = w) → x.KeepsFrame :=
    fun h w _ => by rw [h w]
  refine .bind (hstill fun _ => rfl) fun e => ?_
  cases e.procedures.get? name with
  | none => exact hstill fun _ => rfl
  | some p =>
    refine .bind ?_ fun args => .bind ?_ fun _ => .bind ?_ fun arguments => ?_
    · refine .bind (hstill fun w => ?_) fun _ => hstill fun _ => rfl
      exact evalAll_literal_snd lib fuel depth values w
    · unfold checkDepth
      split <;> exact hstill fun _ => rfl
    · intro w _
      unfold Run.ofCompute
      split <;> rfl
    · intro w hne
      rw [Run.settle_snd]
      refine ((eval_scoped lib fuel _ _).inFrame (p.onlyFrame_setUp args arguments)).2 w
        fun h => hne ?_
      rw [Run.settle_of_outOfFuel loc (Prod.ext h rfl)]

/-! ## The whole -/

/-- Scopes are restored on every exit.

If an evaluation comes to an end, with a value, a failure or a signal, then the actor, the server,
the variables of the host and all frames but the innermost are what they were, and so is the number
of frames. If it is a call of a procedure on constants, then the innermost frame is what it was,
too. On the way, and where it is cut off, there are at most as many frames more as there were levels
left; and the level counts the calls around a part: it is that of the whole, or one more, whatever
happened before. -/
theorem eval_restores_scopes (lib : Library) (fuel depth : Nat) (hd : depth ≤ maxCallDepth)
    (n : Node) (w : World) :
    ((eval lib fuel depth n w).1 ≠ .error .outOfFuel →
      w.SameSetting (eval lib fuel depth n w).2 ∧
      (eval lib fuel depth n w).2.env.depth = w.env.depth ∧
      ∀ name (values : List Value) loc, isProcedureName name = true →
        n = call name (values.map literal) loc →
        (eval lib fuel depth n w).2.env.frame = w.env.frame) ∧
    w.Within (maxCallDepth - depth) (eval lib fuel depth n w).2 ∧
    ∀ q, Moment.Reaches lib ⟨fuel, depth, n, w⟩ q →
      w.Within (maxCallDepth - depth) q.world ∧ q.depth ≤ maxCallDepth ∧
      ∀ r, q.Starts lib r → r.depth = q.depth ∨ r.depth = q.depth + 1 ∧ q.depth < maxCallDepth := by
  have hscoped := eval_scoped lib fuel depth n
  refine ⟨fun hne => ?_, hscoped.within w, fun q hq => ?_⟩
  · have hsame := hscoped.restores w hne
    refine ⟨hsame, hsame.depth, ?_⟩
    rintro name values loc hname rfl
    cases fuel with
    | zero => exact absurd rfl hne
    | succ fuel =>
      have hcall : eval lib (fuel + 1) depth (call name (values.map literal) loc) =
          callProcedure (eval lib fuel) depth name (values.map literal) loc := by
        show runCall lib (eval lib fuel) fuel depth name (values.map literal) loc = _
        rw [runCall, if_pos hname]
      rw [hcall] at hne ⊢
      exact callProcedure_keepsFrame lib fuel depth name values loc w hne
  · exact ⟨hq.within, hq.depth_le hd, fun r hr => hr.depth⟩

/-- A world with the variable `x`, and with a procedure that calls itself on its parameter `x`. -/
def selfCalling : World where
  env :=
    { frame := Bindings.empty.insert "x" (.string "kept" .unknown)
      procedures := Bindings.empty.insert "_p"
        ⟨"_p", [("x", .string "" .unknown)], call "_p" [ivar "x" .unknown] .unknown⟩ }

/-- The procedure that calls itself fails one level below the limit, and the variable `x` of the
caller is what it was. -/
theorem eval_restores_scopes_selfCalling :
    127 ≤ maxCallDepth ∧
    (eval .empty 3 127 (call "_p" [literal (.string "other" .unknown)] .unknown) selfCalling).1 =
      .error (.halt (.failure ⟨.tooDeep .procedures, .unknown⟩)) ∧
    (eval .empty 3 127 (call "_p" [literal (.string "other" .unknown)] .unknown)
      selfCalling).2.env.frame = selfCalling.env.frame := by
  have hd : 127 ≤ maxCallDepth := by decide
  have hfail : (eval .empty 3 127 (call "_p" [literal (.string "other" .unknown)] .unknown)
      selfCalling).1 = .error (.halt (.failure ⟨.tooDeep .procedures, .unknown⟩)) := rfl
  have hend := (eval_restores_scopes .empty 3 127 hd
    (call "_p" [literal (.string "other" .unknown)] .unknown) selfCalling).1 (by simp [hfail])
  exact ⟨hd, hfail, hend.2.2 "_p" [.string "other" .unknown] .unknown (by decide) rfl⟩

end Node

end CommandScript
