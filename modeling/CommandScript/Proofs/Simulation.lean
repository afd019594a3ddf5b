import CommandScript.Proofs.Scope

/-!
# Evaluations that do the same

If the special forms do not tell related expressions apart, then related expressions do the same,
as far as the first of two evaluations comes to an end. In particular an evaluation that comes to an
end does the same with more fuel.

## Main results

* `CommandScript.Layer.simulates` — the second of two layers does what the first does, if the second
  evaluator does what the first does.
* `CommandScript.Node.eval_simulates` — related expressions do the same.
* `CommandScript.executeFrom_simulates` — scripts of related statements do the same.
* `CommandScript.execute_mono` — a script that comes to an end does the same with more fuel.
-/

namespace CommandScript

/-! ## Ends and worlds -/

namespace Run

variable {α : Type} {Q : Node → Node → Prop}

/-- Ends that are alike up to equal values are equal. -/
lemma EndsAlike.eq {r r' : Except Stop α} (h : EndsAlike Eq r r') : r = r' := by
  cases h with
  | ok h => rw [h]
  | error => rfl

lemma EndsAlike.of_eq {r r' : Except Stop α} (h : r = r') : EndsAlike Eq r r' := by
  subst h
  cases r with
  | ok a => exact .ok rfl
  | error e => exact .error e

/-! ## What loops, procedure calls and commands take up -/

/-- How a round ends depends on how its body ends. -/
lemma round_fst_congr {x y : Run Value} {w v : World} (h : (x w).1 = (y v).1) :
    (round x w).1 = (round y v).1 := by
  unfold round
  rcases hx : x w with ⟨r, w'⟩
  rcases hy : y v with ⟨r', v'⟩
  rw [hx, hy] at h
  obtain rfl : r = r' := h
  rcases r with ((f | s) | _) | a
  · rfl
  · cases s with
    | breakLoop n =>
      dsimp only
      split <;> rfl
    | _ => rfl
  · rfl
  · rfl

/-- How a procedure call ends depends on how its body ends. -/
lemma settle_fst_congr (loc : Location) {x y : Run Value} {w v : World} (h : (x w).1 = (y v).1) :
    (settle loc x w).1 = (settle loc y v).1 := by
  unfold settle
  rcases hx : x w with ⟨r, w'⟩
  rcases hy : y v with ⟨r', v'⟩
  rw [hx, hy] at h
  obtain rfl : r = r' := h
  rcases r with ((f | s) | _) | a
  · rfl
  · cases s <;> rfl
  · rfl
  · rfl

namespace Simulates

lemma round {x y : Run Value} (h : Simulates Q Eq x y) : Simulates Q Eq (round x) (round y) := by
  intro w v hwv
  rcases h w v hwv with hx | ⟨hends, hw⟩
  · exact .inl (by rw [round_of_outOfFuel (Prod.ext hx rfl)])
  · rw [round_snd, round_snd]
    exact .inr ⟨.of_eq (round_fst_congr hends.eq), hw⟩

lemma settle (loc : Location) {x y : Run Value} (h : Simulates Q Eq x y) :
    Simulates Q Eq (settle loc x) (settle loc y) := by
  intro w v hwv
  rcases h w v hwv with hx | ⟨hends, hw⟩
  · exact .inl (by rw [settle_of_outOfFuel loc (Prod.ext hx rfl)])
  · rw [settle_snd, settle_snd]
    exact .inr ⟨.of_eq (settle_fst_congr loc hends.eq), hw⟩

/-- Two scoped runs that do the same do the same in a frame of their own. Alike worlds may differ in
the frames further out, but both runs bring back the frame that was innermost before. -/
lemma inFrame {setUp : Environment → Environment} (only : Environment.OnlyFrame setUp)
    {x y : Run Value} {room : Nat} (hx : x.Scoped room) (hy : y.Scoped room)
    (h : Simulates Q Eq x y) : Simulates Q Eq (inFrame setUp x) (inFrame setUp y) := by
  intro w v hwv
  have hpush : World.Alike Q { w with env := setUp w.env.pushFrame }
      { v with env := setUp v.env.pushFrame } := by
    obtain ⟨g, hg⟩ := only
    simp only [hg]
    exact ⟨{ hwv.env with frame := rfl }, hwv.store⟩
  have hframe := (hx.inFrame only).2 w
  have hframe' := (hy.inFrame only).2 v
  rcases hxw : x { w with env := setUp w.env.pushFrame } with ⟨r, w'⟩
  by_cases hr : r = .error .outOfFuel
  · subst hr
    exact .inl (by rw [inFrame_of_outOfFuel hxw])
  · rcases hyv : y { v with env := setUp v.env.pushFrame } with ⟨r', v'⟩
    obtain hout | ⟨hends, hends'⟩ := h _ _ hpush
    · rw [hxw] at hout
      exact absurd hout hr
    · rw [hxw, hyv] at hends hends'
      obtain rfl := hends.eq
      rw [inFrame_of_ne hxw hr] at hframe ⊢
      rw [inFrame_of_ne hyv hr] at hframe' ⊢
      have hpop : ∀ e : Environment, e.popFrame = { e with
          frame := e.popFrame.frame, outer := e.popFrame.outer } := by
        intro e
        unfold Environment.popFrame
        split <;> rfl
      refine .inr ⟨.of_eq rfl, ⟨?_, hends'.store⟩⟩
      dsimp only
      rw [hpop w'.env, hpop v'.env]
      refine { hends'.env with frame := ?_ }
      exact (hframe' hr).trans (hwv.env.frame.trans (hframe hr).symm)

/-- A command for a player is the same in alike worlds. -/
lemma runas (loc : Location) (values : List Value) :
    Simulates Q Eq (Contact.run .runas loc values) (Contact.run .runas loc values) := by
  refine .bind (.textOf _) ?_
  rintro player _ rfl
  refine .bind (.textOf _) ?_
  rintro command _ rfl
  refine .bind .env fun e d hed => ?_
  rw [hed.server]
  cases e.server with
  | none => exact .fail _ _
  | some server =>
    dsimp only
    split
    · refine .bind .env fun e d hed => ?_
      rw [hed.ran]
      split
      · refine .bind .env fun e d hed => ?_
        refine .bind (.modifyEnv fun e d hed => ?_) fun _ _ _ => ?_
        · exact { hed with ran := by rw [hed.ran] }
        · rw [hed.ran]
          split
          · exact .pure rfl
          · exact .fail _ _
      · exact .fail _ _
    · exact .fail _ _

end Simulates

end Run

/-! ## Layers and evaluation -/

section

variable {C : Prop} {H : Halt → Prop} {Q : Node → Node → Prop}

/-- The second of two layers does what the first does, if the second evaluator does what the first
does on related expressions, and both are scoped. -/
lemma Layer.simulates {depth : Nat} {α β : Type} {R : α → β → Prop} {x : Evaluator → Run α}
    {y : Evaluator → Run β} (h : Layer C H Q depth R x y) {ev ev' : Evaluator}
    (hev : ∀ d n n', Q n n' → Run.Simulates Q Eq (ev d n) (ev' d n'))
    (hsc : ∀ d n, (ev d n).Scoped (maxCallDepth - d))
    (hsc' : ∀ d n, (ev' d n).Scoped (maxCallDepth - d)) : Run.Simulates Q R (x ev) (y ev') := by
  induction h with
  | act _ sim => exact sim
  | spent => exact fun w v _ => .inl rfl
  | command _ loc values => exact .runas loc values
  | ask h => exact hev _ _ _ h
  | enter _ h => exact hev _ _ _ h
  | inFrame _ only h => exact .inFrame only (hsc _ _) (hsc' _ _) (hev _ _ _ h)
  | bind _ _ _ ihx ihf => exact ihx.bind fun a b hab => ihf a b hab
  | round _ ih => exact ih.round
  | settle loc _ ih => exact ih.settle loc

/-- Related expressions do the same, where the second evaluation has `lag` more fuel, if this holds
of those that are not of the same sort.

**Proof sketch.** By induction on the fuel. Two expressions of the same sort do the same in their
first layer, and ask for the values of related expressions. -/
lemma Node.eval_simulates (hQ : Congruence Q) (lib : Library) {lag : Nat}
    (hcase : ∀ {n n'}, Q n n' → Similar Q n n' ∨ ∀ {fuel fuel'} depth, fuel + lag ≤ fuel' →
      Run.Simulates Q Eq (eval lib fuel depth n) (eval lib fuel' depth n'))
    {fuel fuel' : Nat} (hf : fuel + lag ≤ fuel') (depth : Nat) {n n' : Node} (h : Q n n') :
    Run.Simulates Q Eq (eval lib fuel depth n) (eval lib fuel' depth n') := by
  induction fuel generalizing fuel' depth n n' with
  | zero => exact fun w v _ => .inl rfl
  | succ fuel ih =>
    rcases hcase h with hsim | hdirect
    · obtain ⟨fuel', rfl⟩ : ∃ k, fuel' = k + 1 := ⟨fuel' - 1, by omega⟩
      have hlayer : Layer True Halt.Any Q depth Eq (fun ev => step lib ev fuel depth n)
          (fun ev => step lib ev fuel' depth n') :=
        step_layer hQ lib.haltsIn_any (by omega) hsim fun _ => trivial
      exact hlayer.simulates (fun d m m' hm => ih (by omega) d hm) (eval_scoped lib fuel)
        (eval_scoped lib fuel')
    · exact hdirect depth hf

/-- With more fuel an evaluation does the same. -/
lemma Node.eval_mono (lib : Library) {fuel fuel' : Nat} (hf : fuel ≤ fuel') (depth : Nat)
    (n : Node) : Run.Simulates Eq Eq (eval lib fuel depth n) (eval lib fuel' depth n) :=
  eval_simulates congruence_eq lib (fun h => .inl (h ▸ similar_refl (fun _ => rfl) _))
    (show fuel + 0 ≤ fuel' from hf) depth rfl

/-! ## Scripts -/

/-- A script that comes to an end ends in its setting. -/
lemma execute_sameSetting {lib : Library} {fuel : Nat} {nodes : List Node} {w v : World}
    {report : Report} (h : execute lib fuel nodes w = some (report, v)) : w.SameSetting v := by
  have key : ∀ (ns : List Node) (last : Value) (texts : List String) (w : World),
      executeFrom (Node.eval lib fuel 0) ns last texts w = some (report, v) →
        w.SameSetting v := by
    intro ns
    induction ns with
    | nil =>
      intro last texts w h
      obtain ⟨-, rfl⟩ := Prod.ext_iff.1 (Option.some.inj h)
      exact .refl w
    | cons n ns ih =>
      intro last texts w h
      have hback := (Node.eval_scoped lib fuel 0 n).restores w
      rcases hn : Node.eval lib fuel 0 n w with ⟨(e | _) | a, u⟩
      · rw [executeFrom_of_halt ns last texts hn] at h
        simp only [hn] at hback
        have hend := e.ending_sameSetting n.loc last texts u
        rw [Option.some.inj h] at hend
        exact (hback (by simp)).trans hend
      · rw [executeFrom_of_outOfFuel ns last texts hn] at h
        cases h
      · rw [executeFrom_of_ok ns last texts hn] at h
        simp only [hn] at hback
        exact (hback (by simp)).trans (ih _ _ u h)
  exact key nodes _ _ w h

/-- Scripts of related statements do the same, if related statements do. -/
lemma executeFrom_simulates {ev ev' : Node → Run Value}
    (hloc : ∀ {n n'}, Q n n' → n'.loc = n.loc)
    (hev : ∀ {n n'}, Q n n' → Run.Simulates Q Eq (ev n) (ev' n')) {ns ns' : List Node}
    (hns : List.Forall₂ Q ns ns') {w v w' : World} (hwv : w.Alike Q v) {last : Value}
    {texts : List String} {report : Report}
    (h : executeFrom ev ns last texts w = some (report, w')) :
    ∃ v', executeFrom ev' ns' last texts v = some (report, v') ∧ w'.Alike Q v' := by
  induction hns generalizing last texts w v with
  | nil =>
    obtain ⟨rfl, rfl⟩ := Prod.ext_iff.1 (Option.some.inj h)
    exact ⟨v, rfl, hwv⟩
  | @cons n n' ns ns' hn _ ih =>
    have hends := hev hn w v hwv
    rcases hx : ev n w with ⟨r, u⟩
    rcases hy : ev' n' v with ⟨r', t⟩
    rw [hx, hy] at hends
    rcases hends with hout | ⟨hends, hut⟩
    · obtain rfl : r = _ := hout
      rw [executeFrom_of_outOfFuel ns last texts hx] at h
      cases h
    · obtain rfl := hends.eq
      rcases r with (e | _) | a
      · rw [executeFrom_of_halt ns last texts hx] at h
        obtain ⟨hreport, halike⟩ := e.ending_alike n.loc last texts hut
        rw [executeFrom_of_halt ns' last texts hy, hloc hn]
        rw [Option.some.inj h] at hreport halike
        exact ⟨(e.ending n.loc last texts t).2, congrArg some (Prod.ext hreport rfl), halike⟩
      · rw [executeFrom_of_outOfFuel ns last texts hx] at h
        cases h
      · rw [executeFrom_of_ok ns last texts hx] at h
        rw [executeFrom_of_ok ns' last texts hy, show t.store = u.store from hut.store]
        exact ih hut h

/-- With more fuel a script that comes to an end does the same. -/
lemma execute_mono {lib : Library} {fuel fuel' : Nat} (hf : fuel ≤ fuel') {nodes : List Node}
    {w v : World} {report : Report} (h : execute lib fuel nodes w = some (report, v)) :
    ∃ v', execute lib fuel' nodes w = some (report, v') ∧ v.Alike Eq v' := by
  refine executeFrom_simulates (fun h => by rw [h]) (fun h => ?_)
    (List.forall₂_same.2 fun _ _ => rfl) (.refl (fun _ => rfl) w) h
  subst h
  exact Node.eval_mono lib hf 0 _

/-- A world that is like another one is like every world that agrees with that one. -/
lemma World.Alike.of_eq {u v w : World} (h : w.Alike Q u) (h' : v.Alike Eq u) : w.Alike Q v := by
  refine ⟨⟨?_, ?_, ?_, ?_, ?_, ?_, fun name => ?_⟩, h'.store.symm.trans h.store⟩
  · exact h'.env.actor.symm.trans h.env.actor
  · exact h'.env.server.symm.trans h.env.server
  · exact h'.env.frame.symm.trans h.env.frame
  · exact h'.env.aliases.symm.trans h.env.aliases
  · exact h'.env.heard.symm.trans h.env.heard
  · exact h'.env.ran.symm.trans h.env.ran
  · have hp := h.env.procedures name
    have hp' := h'.env.procedures name
    revert hp hp'
    generalize w.env.procedures.get? name = p
    generalize u.env.procedures.get? name = q
    generalize v.env.procedures.get? name = r
    intro hp hp'
    cases hp with
    | none =>
      cases hp'
      exact .none
    | some hp =>
      cases hp' with
      | some hp' =>
        exact .some ⟨hp'.name.symm.trans hp.name, hp'.params.symm.trans hp.params,
          hp'.body ▸ hp.body⟩

end

end CommandScript
