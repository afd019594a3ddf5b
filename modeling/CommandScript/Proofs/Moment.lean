import CommandScript.Proofs.Layer
import Mathlib.Logic.Relation

/-!
# The moments of a run

While an expression is evaluated, the evaluation of other expressions is started, each in the world
of that moment. This file says which: an evaluation starts another one if it would end at once,
wherever it is told to, when the other one is cut off at its start. Statements about every moment
of a run, also of one that never ends, are statements about the moments that it reaches.

## Main definitions

* `CommandScript.Moment` — the start of an evaluation.
* `CommandScript.Asks` — a run asks an evaluator for the value of an expression at a moment.
* `CommandScript.Moment.Starts`, `CommandScript.Moment.Reaches` — an evaluation starts another
  one, directly or through others.

## Main results

* `CommandScript.Asks.exists_ne` — a run that asks for a moment depends on it.
* `CommandScript.Layer.asks_or` — a layer asks for a moment, or does not depend on it.
* `CommandScript.Moment.Starts.depth` — a part is evaluated at the level of the whole, or one
  level deeper.
-/

namespace CommandScript

/-- The start of an evaluation: the fuel and the level that it has, the expression, and the
world. -/
structure Moment where
  fuel : Nat
  depth : Nat
  node : Node
  world : World

open Classical in
/-- An evaluator that stops at a moment, in the world `mark`. -/
noncomputable def Evaluator.stopAt (ev : Evaluator) (m : Moment) (mark : World) : Evaluator :=
  fun depth n w =>
    if depth = m.depth ∧ n = m.node ∧ w = m.world then (.error .outOfFuel, mark)
    else ev depth n w

namespace Evaluator

variable (ev : Evaluator) (m : Moment) (mark : World)

/-- The evaluator stops at its moment. -/
lemma stopAt_self : ev.stopAt m mark m.depth m.node m.world = (.error .outOfFuel, mark) := by
  simp [stopAt]

/-- At other moments the evaluator does not stop. -/
lemma stopAt_of_ne {depth : Nat} {n : Node} {w : World}
    (h : ¬(depth = m.depth ∧ n = m.node ∧ w = m.world)) :
    ev.stopAt m mark depth n w = ev depth n w := by
  simp [stopAt, h]

end Evaluator

/-- A run asks an evaluator for the value of an expression at a moment: wherever the evaluator stops
when it comes to that moment, the run ends there. -/
def Asks {α : Type} (x : Evaluator → Run α) (ev : Evaluator) (w : World) (m : Moment) : Prop :=
  ∀ mark, x (ev.stopAt m mark) w = (.error .outOfFuel, mark)

/-- A run that asks for a moment depends on what happens there. -/
lemma Asks.exists_ne {α : Type} {x : Evaluator → Run α} {ev : Evaluator} {w : World} {m : Moment}
    (h : Asks x ev w m) (out : Except Stop α × World) :
    ∃ mark, x (ev.stopAt m mark) w ≠ out := by
  by_contra hnone
  -- otherwise the run would end at every mark, whatever the evaluator does
  have hsame : ∀ mark, (Except.error Stop.outOfFuel, mark) = out := fun mark =>
    (h mark).symm.trans (not_exists_not.1 hnone mark)
  have henv := (hsame { env := {} }).trans (hsame { env := { heard := #[""] } }).symm
  simp at henv

namespace Layer

variable {C : Prop} {H : Halt → Prop} {Q : Node → Node → Prop} {depth : Nat} {α β : Type}
  {R : α → β → Prop}
  {x : Evaluator → Run α} {y : Evaluator → Run β}

/-- A layer asks for the value of an expression at a moment, or does the same however that value
comes out.

**Proof sketch.** By the building blocks. A single question asks for its own moment and for no
other. If the first of two runs does not ask, then it ends in the same way, and the second one
starts at the same place. Loops, procedure calls and frames pass on that fuel ran out. -/
lemma asks_or (h : Layer C H Q depth R x y) (ev : Evaluator) (w : World) (m : Moment) :
    Asks x ev w m ∨ ∀ mark, x (ev.stopAt m mark) w = x ev w := by
  induction h generalizing w with
  | act => exact .inr fun _ => rfl
  | spent => exact .inr fun _ => rfl
  | command => exact .inr fun _ => rfl
  | @ask n n' h =>
    by_cases hm : depth = m.depth ∧ n = m.node ∧ w = m.world
    · obtain ⟨rfl, rfl, rfl⟩ := hm
      exact .inl fun mark => ev.stopAt_self m mark
    · exact .inr fun mark => ev.stopAt_of_ne m mark hm
  | @enter n n' room h =>
    by_cases hm : depth + 1 = m.depth ∧ n = m.node ∧ w = m.world
    · obtain ⟨hd, rfl, rfl⟩ := hm
      rw [hd]
      exact .inl fun mark => ev.stopAt_self m mark
    · exact .inr fun mark => ev.stopAt_of_ne m mark hm
  | @inFrame n n' setUp room only h =>
    by_cases hm : depth + 1 = m.depth ∧ n = m.node ∧
        { w with env := setUp w.env.pushFrame } = m.world
    · obtain ⟨hd, rfl, hw⟩ := hm
      refine .inl fun mark => Run.inFrame_of_outOfFuel ?_
      rw [hd, hw]
      exact ev.stopAt_self m mark
    · refine .inr fun mark => ?_
      simp only [Run.inFrame, ev.stopAt_of_ne m mark hm]
  | @bind _ _ _ _ _ _ x y f g total hx hf ihx ihf =>
    rcases ihx w with hask | hsame
    · exact .inl fun mark => bind_of_error (hask mark)
    · rcases hxw : x ev w with ⟨e | a, v⟩
      · refine .inr fun mark => ?_
        exact (bind_of_error ((hsame mark).trans hxw)).trans (bind_of_error hxw).symm
      · -- the first run gives `a` either way, so the second one decides
        have hmark : ∀ mark, (x (ev.stopAt m mark) >>= f (ev.stopAt m mark)) w =
            f (ev.stopAt m mark) a v := fun mark => bind_of_ok ((hsame mark).trans hxw)
        obtain ⟨b, hb⟩ := total a
        rcases ihf a b hb v with hask | hrest
        · exact .inl fun mark => (hmark mark).trans (hask mark)
        · refine .inr fun mark => (hmark mark).trans ?_
          exact (hrest mark).trans (bind_of_ok hxw).symm
  | @round x y h ih =>
    rcases ih w with hask | hsame
    · exact .inl fun mark => Run.round_of_outOfFuel (hask mark)
    · refine .inr fun mark => ?_
      simp only [Run.round, hsame mark]
  | @settle x y loc h ih =>
    rcases ih w with hask | hsame
    · exact .inl fun mark => Run.settle_of_outOfFuel loc (hask mark)
    · refine .inr fun mark => ?_
      simp only [Run.settle, hsame mark]

/-- A layer does not depend on moments at other levels than its own and, below the limit, the next
one. -/
lemma stopAt_eq (h : Layer C H Q depth R x y) (ev : Evaluator) (m : Moment) (mark : World)
    (hm : m.depth ≠ depth) (hm' : m.depth = depth + 1 → maxCallDepth ≤ depth) :
    x (ev.stopAt m mark) = x ev := by
  have hask : ∀ n, ev.stopAt m mark depth n = ev depth n := fun n =>
    funext fun w => ev.stopAt_of_ne m mark fun h => hm h.1.symm
  have henter : depth < maxCallDepth → ∀ n, ev.stopAt m mark (depth + 1) n = ev (depth + 1) n :=
    fun room n => funext fun w => ev.stopAt_of_ne m mark fun h => by
      have := hm' h.1.symm
      omega
  induction h with
  | act => rfl
  | spent => rfl
  | command => rfl
  | ask => exact hask _
  | enter room => exact henter room _
  | inFrame room => simp only [henter room]
  | @bind _ _ _ _ _ _ x y f g total hx hf ihx ihf =>
    have hf : f (ev.stopAt m mark) = f ev := funext fun a => by
      obtain ⟨b, hb⟩ := total a
      exact ihf a b hb
    simp only [ihx, hf]
  | round h ih => simp only [ih]
  | settle loc h ih => simp only [ih]

end Layer

namespace Moment

variable {lib : Library} {m q : Moment}

/-- An evaluation starts another one: its first layer asks for it, and the fuel is one less. -/
structure Starts (lib : Library) (m q : Moment) : Prop where
  fuel : m.fuel = q.fuel + 1
  asks : Asks (fun ev => Node.step lib ev q.fuel m.depth m.node) (Node.eval lib q.fuel) m.world q

/-- An evaluation starts another one, directly or through others; or it is that evaluation. -/
def Reaches (lib : Library) : Moment → Moment → Prop := Relation.ReflTransGen (Starts lib)

/-- A part is evaluated at the level of the whole, or, below the limit, one level deeper. -/
lemma Starts.depth (h : Starts lib m q) :
    q.depth = m.depth ∨ q.depth = m.depth + 1 ∧ m.depth < maxCallDepth := by
  by_contra hne
  have hlayer := Node.step_layer_self lib.haltsIn_any q.fuel m.depth m.node
  obtain ⟨mark, hmark⟩ := h.asks.exists_ne
    (Node.step lib (Node.eval lib q.fuel) q.fuel m.depth m.node m.world)
  exact hmark (congrFun (hlayer.stopAt_eq _ q mark (by omega) (by omega)) m.world)

end Moment

end CommandScript
